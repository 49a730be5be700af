import CruiseMesh.Lib.Runs
import CruiseMesh.Mesh.Spray
import CruiseMesh.Roster.OwnState
import CruiseMesh.Routing.Fanout
import CruiseMesh.Sync.Apply

/-!
# The activation gate over a history

Seven calls can write the activation row. What each can do to it is one step here
(`Step`), whether the call returns or fails: a ceremony opens, a bootstrap is imported into
the open window, the window closes on the head that was imported, the ceremony is
abandoned, or the device is buried for good. The law of whole histories follows the row
through its window; and while the row says so, the device offers nothing to anyone.
-/

namespace CruiseMesh.Activation
open Durable Prog Runs List Store

/-! ## Calls -/

inductive Call where
  | openWindow (channelBinding : Bytes) (nowMs : Int)
  | abandon (nowMs : Int)
  | bootstrap (document : LinkBootstrap) (ownDeviceSignPk : Bytes)
      (expectedPersonId : Option Bytes) (nowMs : Int) (clock : Nat → ClockReading)
  | complete (ackedRosterHead : Bytes) (nowMs : Int)
  | adopt (roster : Roster) (personRootSignPk ownDeviceId : Bytes)
  | notice (document personRootSignPk ownDeviceId : Bytes) (nowMs : Int)
  | handoff (body personRootSignPk : Bytes) (ownDevice : DeviceKeypair)
      (supersededInboxKey : Option InboxKey) (nowMs : Int) (entropy : Nat → SealEntropy)

section Runs
variable (P : Primitives)

/-- The program without what it returns. -/
def discarding {α : Type} (p : Prog Store CoreError α) : Prog Store CoreError Unit := do
  let _ ← p
  pure ()

/-- A call as a program. -/
def Call.prog : Call → Prog Store CoreError Unit
  | .openWindow binding nowMs => discarding (beginLinkActivation binding nowMs)
  | .abandon nowMs => discarding (abandonLinkActivation nowMs)
  | .bootstrap document signPk expected nowMs clock =>
    discarding (importLinkBootstrap P document signPk expected nowMs clock)
  | .complete acked nowMs => discarding (completeLinkActivation P acked nowMs)
  | .adopt roster root id => adoptOwnRoster P roster root id
  | .notice document root id nowMs => discarding (applyOwnRosterNotice P document root id nowMs)
  | .handoff body root device superseded nowMs entropy =>
    discarding (adoptRevocationHandoff P body root device superseded nowMs entropy)

variable (s : Store)

/-- The store a call leaves, whether it returns or fails. -/
def Call.next (call : Call) : Store := (call.prog P).final s

variable (calls : List Call)

/-- The store after the first `n` calls. -/
def storeAt (n : Nat) : Store := stateAt (Call.next P) s calls n

/-- Call number `n` is this one, and it returned. -/
def Happened (n : Nat) (call : Call) : Prop :=
  calls[n]? = some call ∧ (call.prog P).result (storeAt P s calls n) = .ok ()

/-- Call number `n` opened a window. -/
def Opened (n : Nat) : Prop :=
  ∃ binding nowMs, Happened P s calls n (.openWindow binding nowMs)

end Runs

/-! ## What a call can do to the row -/

section Steps
variable {P : Primitives} {s : Store} {α : Type} {s' : Store} {nowMs : Int} {call : Call}

theorem result_discarding (p : Prog Store CoreError α) (s : Store) :
    (discarding p).result s = (p.result s).map fun _ => () := by
  rcases run_bind_cases p (fun _ => pure ()) s with ⟨e, hp, hr, _⟩ | ⟨a, _, hp, hr, _⟩
  · rw [hp]
    exact hr
  · rw [hp.1]
    exact hr

theorem final_discarding (p : Prog Store CoreError α) (s : Store) :
    (discarding p).final s = p.final s := by
  rcases run_bind_cases p (fun _ => pure ()) s with ⟨e, _, _, hf⟩ | ⟨a, _, hp, _, hf⟩
  · exact hf
  · exact hf.trans hp.2.symm

/-- The contents of a bootstrap land outside the activation row. -/
theorem keeps_importContents (bootstrap : LinkBootstrap) (clock : Nat → ClockReading) :
    (importContents P bootstrap clock).Keeps (·.linkActivation) := by
  have hcontacts : ∀ entries, (importContacts entries).Keeps (·.linkActivation) := by
    intro entries
    induction entries with
    | nil => exact keeps_pure _
    | cons entry rest ih =>
      refine keeps_bind (keeps_upsertContact fun _ _ => rfl) fun _ => ?_
      split
      · refine keeps_bind (keeps_inspect_bind fun _ => ?_) fun _ => ih
        exact keeps_bind (keeps_write fun _ => rfl) fun _ => keeps_pure _
      · exact ih
  have hrosters : ∀ entries imported,
      (importContactRosters P entries imported).Keeps (·.linkActivation) := by
    intro entries
    induction entries with
    | nil => exact fun _ => keeps_pure _
    | cons entry rest ih =>
      intro imported
      unfold importContactRosters
      split
      · exact ih _
      · exact keeps_bind (keeps_applyContactRoster ⟨fun _ _ _ => rfl, fun _ _ _ => rfl,
          fun _ _ => rfl⟩ _) fun _ => ih _
  have hmessages : ∀ messages reading imported,
      (importMessages P clock messages reading imported).Keeps (·.linkActivation) := by
    intro messages
    induction messages with
    | nil => exact fun _ _ => keeps_pure _
    | cons message rest ih =>
      exact fun _ _ => keeps_bind (keeps_bind (keeps_insertIncoming ⟨fun _ _ _ => rfl,
        fun _ _ _ => rfl⟩) fun _ => keeps_pure _) fun _ => ih _ _
  refine keeps_bind (hcontacts _) fun _ => ?_
  refine keeps_bind (hrosters _ _) fun _ => ?_
  refine keeps_bind (keeps_importGroups (fun _ _ _ => rfl) _ _) fun _ => ?_
  refine keeps_bind (hmessages _ _ _) fun _ => ?_
  exact keeps_bind (keeps_write fun _ => rfl) fun _ => keeps_pure _

/-- What a call can do to the activation row. -/
inductive Step (P : Primitives) (s : Store) (call : Call) (s' : Store) : Prop where
  | stays (hquiet : ∀ binding nowMs, call = .openWindow binding nowMs →
        (call.prog P).result s ≠ .ok ())
      (hrow : s'.linkActivation = s.linkActivation)
  | opens (hok : (call.prog P).result s = .ok ()) {binding : Bytes} {nowMs : Int}
      (hcall : call = .openWindow binding nowMs) (hfrom : s.activation.stage ≠ .revoked)
      (hto : s'.activation.stage = .awaitingBootstrap)
  | abandons {nowMs : Int} (hcall : call = .abandon nowMs)
      (hfrom : s.activation.stage ≠ .revoked) (hto : s'.activation.stage = .notLinking)
  | imports (hok : (call.prog P).result s = .ok ()) {document : LinkBootstrap} {signPk : Bytes}
      {expected : Option Bytes} {nowMs : Int} {clock : Nat → ClockReading}
      (hcall : call = .bootstrap document signPk expected nowMs clock)
      (hfrom : s.activation.stage = .awaitingBootstrap)
      (hto : s'.activation.stage = .awaitingRosterAck)
      (hhead : s'.activation.expectedRosterHead = some (rosterHeadHash P document.roster))
  | completes {acked : Bytes} {nowMs : Int} (hcall : call = .complete acked nowMs)
      (hfrom : s.activation.stage = .awaitingRosterAck)
      (hhead : s.activation.expectedRosterHead = some acked)
      (hto : s'.activation.stage = .activated)
  | buries (hquiet : ∀ binding nowMs, call ≠ .openWindow binding nowMs)
      (hto : s'.activation.stage = .revoked)

theorem activation_congr {s : Store} (h : s'.linkActivation = s.linkActivation) :
    s'.activation = s.activation := by
  rw [activation, activation, h]

/-- An `UPDATE` finds the row of a device that is past its first stage. -/
theorem activation_updateActivation {s : Store} (f : CoreLinkActivation → CoreLinkActivation)
    (h : s.activation.stage ≠ .notLinking) : (s.updateActivation f).activation = f s.activation := by
  unfold activation updateActivation at *
  cases hrow : s.linkActivation with
  | none =>
    rw [hrow] at h
    exact absurd rfl h
  | some row => rfl

theorem step_openWindow (binding : Bytes) (nowMs : Int) :
    Step P s (.openWindow binding nowMs) ((Call.openWindow binding nowMs).next P s) := by
  have hrun : (∃ e, (beginLinkActivation binding nowMs).result s = .error e ∧
        (beginLinkActivation binding nowMs).final s = s) ∨
      s.activation.stage ≠ .revoked ∧ (∃ a, (beginLinkActivation binding nowMs).result s = .ok a) ∧
        ((beginLinkActivation binding nowMs).final s).activation.stage = .awaitingBootstrap := by
    unfold beginLinkActivation checkLen
    by_cases hlen : binding.length ≠ channelBindingLen
    · rw [refuseWhen_pos hlen]
      exact .inl ⟨_, rfl, rfl⟩
    rw [refuseWhen_neg hlen, lift_ok_bind, result_inspect_bind, final_inspect_bind]
    by_cases hactivated : s.activation.stage = .activated
    · rw [refuseWhen_pos hactivated]
      exact .inl ⟨_, rfl, rfl⟩
    by_cases hrevoked : s.activation.stage = .revoked
    · rw [refuseWhen_neg hactivated, refuseWhen_pos hrevoked]
      exact .inl ⟨_, rfl, rfl⟩
    rw [refuseWhen_neg hactivated, refuseWhen_neg hrevoked]
    exact .inr ⟨hrevoked, ⟨_, rfl⟩, rfl⟩
  rw [Call.next, Call.prog, final_discarding]
  rcases hrun with ⟨e, hfail, hsame⟩ | ⟨hfrom, ⟨a, hok⟩, hto⟩
  · refine .stays (fun _ _ _ h => ?_) (by rw [hsame])
    rw [Call.prog, result_discarding, hfail] at h
    cases h
  · refine .opens ?_ rfl hfrom hto
    rw [Call.prog, result_discarding, hok]
    rfl

theorem step_abandon (nowMs : Int) : Step P s (.abandon nowMs) ((Call.abandon nowMs).next P s) := by
  have hquiet : ∀ binding ms, Call.abandon nowMs = .openWindow binding ms →
      ((Call.abandon nowMs).prog P).result s ≠ .ok () := fun _ _ h => nomatch h
  rw [Call.next, Call.prog, final_discarding, abandonLinkActivation, final_inspect_bind]
  by_cases hactivated : s.activation.stage = .activated
  · rw [refuseWhen_pos hactivated]
    exact .stays hquiet rfl
  by_cases hrevoked : s.activation.stage = .revoked
  · rw [refuseWhen_neg hactivated, refuseWhen_pos hrevoked]
    exact .stays hquiet rfl
  rw [refuseWhen_neg hactivated, refuseWhen_neg hrevoked, lift_ok_bind, lift_ok_bind]
  split
  · exact .stays hquiet rfl
  · rename_i hstage
    refine .abandons rfl hrevoked ?_
    rw [final_write_bind]
    exact congrArg CoreLinkActivation.stage (activation_updateActivation _ hstage)

/-- The checks of an import write nothing. -/
theorem keeps_checkBootstrap (document : LinkBootstrap) (signPk : Bytes) (expected : Option Bytes)
    (nowMs : Int) : (checkBootstrap P document signPk expected nowMs).Keeps id := by
  refine keeps_inspect_bind fun _ => ?_
  refine keeps_lift_bind fun _ => ?_
  refine keeps_lift_bind fun _ => ?_
  refine keeps_lift_bind fun _ => ?_
  refine keeps_lift_bind fun _ => ?_
  refine keeps_inspect_bind fun _ => ?_
  refine keeps_lift_bind fun _ => ?_
  refine keeps_inspect_bind fun _ => ?_
  refine keeps_lift_bind fun _ => ?_
  refine keeps_lift_bind fun _ => ?_
  refine keeps_lift_bind fun _ => ?_
  refine keeps_lift_bind fun _ => ?_
  refine keeps_lift_bind fun _ => ?_
  refine keeps_lift_bind fun _ => ?_
  refine keeps_lift_bind fun _ => ?_
  exact keeps_lift _

theorem step_bootstrap (document : LinkBootstrap) (signPk : Bytes) (expected : Option Bytes)
    (nowMs : Int) (clock : Nat → ClockReading) :
    Step P s (.bootstrap document signPk expected nowMs clock)
      ((Call.bootstrap document signPk expected nowMs clock).next P s) := by
  have hquiet : ∀ binding ms, Call.bootstrap document signPk expected nowMs clock =
      .openWindow binding ms → ((Call.bootstrap document signPk expected nowMs clock).prog P).result
        s ≠ .ok () := fun _ _ h => nomatch h
  have hcontents := keeps_importContents (P := P) document clock
  rw [Call.next, Call.prog, final_discarding]
  cases hcheck : (checkBootstrap P document signPk expected nowMs).result s with
  | error e =>
    refine .stays hquiet ?_
    rw [importLinkBootstrap, (run_bind_of_error hcheck).2]
    exact congrArg linkActivation ((keeps_checkBootstrap document signPk expected nowMs).final s)
  | ok cert =>
    have hstage : s.activation.stage = .awaitingBootstrap := by
      obtain ⟨activation, mid, hread, hrest⟩ := result_bind_ok hcheck
      obtain ⟨rfl, rfl⟩ := returns_inspect.mp hread
      obtain ⟨_, _, hstage, _⟩ := result_bind_ok hrest
      exact not_not.mp (refuseWhen_eq_ok.mp (returns_lift.mp hstage).1)
    have hpassed : (checkBootstrap P document signPk expected nowMs).Returns s cert s :=
      ⟨hcheck, (keeps_checkBootstrap document signPk expected nowMs).final s⟩
    cases hwrites : (importContents P document clock).result s with
    | error e =>
      refine .stays hquiet ?_
      rw [importLinkBootstrap, (run_bind_of_returns hpassed).2]
      rw [(run_bind_of_error hwrites).2]
      exact hcontents.final s
    | ok counts =>
      have hwritten : (importContents P document clock).Returns s counts
        ((importContents P document clock).final s) := ⟨hwrites, rfl⟩
      have hrow := activation_congr (hcontents.final s)
      have hstage' : ((importContents P document clock).final s).activation.stage ≠ .notLinking := by
        rw [hrow, hstage]
        decide
      have hfinal : ((importLinkBootstrap P document signPk expected nowMs clock).final s).activation =
          { s.activation with
            stage := .awaitingRosterAck
            expectedRosterHead := some (rosterHeadHash P document.roster)
            ownDeviceId := some (cert.deviceId P), bootstrapImportedAtMs := nowMs } := by
        rw [importLinkBootstrap, (run_bind_of_returns hpassed).2]
        rw [(run_bind_of_returns hwritten).2, final_write_bind]
        refine (activation_updateActivation _ hstage').trans ?_
        rw [hrow]
      refine .imports ?_ rfl hstage (by rw [hfinal]) (by rw [hfinal])
      rw [Call.prog, result_discarding, importLinkBootstrap, (run_bind_of_returns hpassed).1]
      rw [(run_bind_of_returns hwritten).1]
      rfl

theorem keeps_checkAcknowledged (acked : Bytes) : (checkAcknowledged P acked).Keeps id := by
  refine keeps_inspect_bind fun _ => ?_
  refine keeps_lift_bind fun _ => ?_
  refine keeps_lift_bind fun _ => ?_
  refine keeps_lift_bind fun _ => ?_
  refine keeps_lift_bind fun _ => ?_
  refine keeps_inspect_bind fun _ => ?_
  refine keeps_lift_bind fun _ => ?_
  refine keeps_lift_bind fun _ => ?_
  exact keeps_pure _

theorem step_complete (acked : Bytes) (nowMs : Int) :
    Step P s (.complete acked nowMs) ((Call.complete acked nowMs).next P s) := by
  have hquiet : ∀ binding ms, Call.complete acked nowMs = .openWindow binding ms →
      ((Call.complete acked nowMs).prog P).result s ≠ .ok () := fun _ _ h => nomatch h
  have hchecks := (keeps_checkAcknowledged (P := P) acked).final s
  rw [Call.next, Call.prog, final_discarding]
  cases hcheck : (checkAcknowledged P acked).result s with
  | error e =>
    refine .stays hquiet ?_
    rw [completeLinkActivation, (run_bind_of_error hcheck).2]
    exact congrArg linkActivation hchecks
  | ok found =>
    obtain ⟨roster, id⟩ := found
    -- the head that closes the window is the one the row waits for
    obtain ⟨hstage, hhead⟩ : s.activation.stage = .awaitingRosterAck ∧
        s.activation.expectedRosterHead = some acked := by
      obtain ⟨activation, mid, hread, h⟩ := result_bind_ok hcheck
      obtain ⟨rfl, rfl⟩ := returns_inspect.mp hread
      obtain ⟨_, _, hstage, h⟩ := result_bind_ok h
      obtain ⟨expected, _, hexpected, h⟩ := result_bind_ok h
      obtain ⟨_, _, hacked, _⟩ := result_bind_ok h
      obtain rfl : acked = expected :=
        not_not.mp (refuseWhen_eq_ok.mp (returns_lift.mp hacked).1)
      exact ⟨not_not.mp (refuseWhen_eq_ok.mp (returns_lift.mp hstage).1),
        okOr_eq_ok.mp (returns_lift.mp hexpected).1⟩
    have hpassed : (checkAcknowledged P acked).Returns s (roster, id) s := ⟨hcheck, hchecks⟩
    have hfleet : (projectOwnFleet P roster id).Keeps (·.linkActivation) :=
      keeps_projectOwnFleet (fun _ _ _ => rfl) roster id
    cases hproject : (projectOwnFleet P roster id).result s with
    | error e =>
      refine .stays hquiet ?_
      rw [completeLinkActivation, (run_bind_of_returns hpassed).2]
      rw [(run_bind_of_error hproject).2]
      exact hfleet.final s
    | ok u =>
      have hprojected : (projectOwnFleet P roster id).Returns s u
        ((projectOwnFleet P roster id).final s) := ⟨hproject, rfl⟩
      refine .completes rfl hstage hhead ?_
      rw [completeLinkActivation, (run_bind_of_returns hpassed).2]
      rw [(run_bind_of_returns hprojected).2, final_write_bind]
      have hstage' : ((projectOwnFleet P roster id).final s).activation.stage ≠ .notLinking := by
        rw [activation_congr (hfleet.final s), hstage]
        decide
      exact congrArg CoreLinkActivation.stage (activation_updateActivation _ hstage')

/-- A call that asks `core_roster_accept` leaves the row, or buries the device. -/
theorem step_ownStep {id : Bytes} (hcall : ∀ binding ms, call ≠ .openWindow binding ms)
    (h : OwnStep P s.own id nowMs s'.own) : Step P s call s' := by
  have hquiet : ∀ binding ms, call = .openWindow binding ms → (call.prog P).result s ≠ .ok () :=
    fun binding ms heq => absurd heq (hcall binding ms)
  generalize hown : s'.own = own at h
  cases h with
  | stays => exact .stays hquiet (congrArg OwnState.activation hown)
  | adopts hheld hperson hversion =>
    refine .stays hquiet ?_
    have hrow := congrArg OwnState.activation hown
    unfold OwnState.adopting at hrow
    split at hrow <;> exact hrow
  | ejects hheld hperson hversion =>
    refine .buries hcall ?_
    have hrow : s'.linkActivation = _ := congrArg OwnState.activation hown
    rw [activation, hrow]
    rfl

theorem step_next (call : Call) : Step P s call (call.next P s) := by
  cases call with
  | openWindow binding nowMs => exact step_openWindow binding nowMs
  | abandon nowMs => exact step_abandon nowMs
  | bootstrap document signPk expected nowMs clock =>
    exact step_bootstrap document signPk expected nowMs clock
  | complete acked nowMs => exact step_complete acked nowMs
  | adopt roster root id =>
    refine .stays (fun _ _ h => nomatch h) ?_
    exact (throughout_adoptOwnRoster (I := fun s' => s'.linkActivation = s.linkActivation) rfl
      (fun _ _ h => h) fun _ _ h => h).final
  | notice document root id nowMs =>
    rw [Call.next, Call.prog, final_discarding]
    exact step_ownStep (fun _ _ h => nomatch h) (own_applyOwnRosterNotice document root id nowMs)
  | handoff body root device superseded nowMs entropy =>
    rw [Call.next, Call.prog, final_discarding]
    exact step_ownStep (fun _ _ h => nomatch h)
      (own_adoptRevocationHandoff body root device superseded nowMs entropy)

/-- A buried device stays buried. -/
theorem Step.revoked (h : Step P s call s') (hs : s.activation.stage = .revoked) :
    s'.activation.stage = .revoked := by
  cases h with
  | stays _ hrow => rwa [activation_congr hrow]
  | opens _ _ hfrom _ => exact absurd hs hfrom
  | abandons _ hfrom _ => exact absurd hs hfrom
  | imports _ _ hfrom _ _ => cases hs.symm.trans hfrom
  | completes _ hfrom _ _ => cases hs.symm.trans hfrom
  | buries _ hto => exact hto

end Steps

/-! ## Histories -/

section Histories
variable {P : Primitives} {s : Store} {calls : List Call}

/-- Since call number `j` opened the window, no other call has. -/
def OpenSince (P : Primitives) (s : Store) (calls : List Call) (j n : Nat) : Prop :=
  j < n ∧ Opened P s calls j ∧ ∀ k, j < k → k < n → ¬ Opened P s calls k

/-- The bootstrap imported by call number `m`. -/
def Imported (P : Primitives) (s : Store) (calls : List Call) (m : Nat) (document : LinkBootstrap) :
    Prop :=
  ∃ signPk expected nowMs clock,
    Happened P s calls m (.bootstrap document signPk expected nowMs clock)

/-- What the row after `n` calls goes back to. -/
structure Traced (P : Primitives) (s : Store) (calls : List Call) (n : Nat) : Prop where
  opened : (storeAt P s calls n).activation.stage = .awaitingBootstrap →
    ∃ j, OpenSince P s calls j n
  imported : (storeAt P s calls n).activation.stage = .awaitingRosterAck →
    ∃ j m document, OpenSince P s calls j n ∧ j < m ∧ m < n ∧ Imported P s calls m document ∧
      (storeAt P s calls n).activation.expectedRosterHead = some (rosterHeadHash P document.roster)

variable {n : Nat}

theorem storeAt_succ (hn : n < calls.length) :
    storeAt P s calls (n + 1) = calls[n].next P (storeAt P s calls n) := stateAt_succ hn

theorem OpenSince.succ {j : Nat} (h : OpenSince P s calls j n) (hquiet : ¬ Opened P s calls n) :
    OpenSince P s calls j (n + 1) := by
  obtain ⟨hlt, hopened, hnone⟩ := h
  refine ⟨Nat.lt_succ_of_lt hlt, hopened, fun k hjk hkn => ?_⟩
  rcases Nat.lt_succ_iff_lt_or_eq.mp hkn with hk | rfl
  · exact hnone k hjk hk
  · exact hquiet

/-- A row that stays goes back to what it went back to. -/
theorem Traced.stays (h : Traced P s calls n) (hquiet : ¬ Opened P s calls n)
    (hrow : (storeAt P s calls (n + 1)).activation = (storeAt P s calls n).activation) :
    Traced P s calls (n + 1) := by
  refine ⟨fun hstage => ?_, fun hstage => ?_⟩
  · rw [hrow] at hstage
    obtain ⟨j, hopen⟩ := h.opened hstage
    exact ⟨j, hopen.succ hquiet⟩
  · rw [hrow] at hstage
    obtain ⟨j, m, document, hopen, hjm, hmn, himported, hhead⟩ := h.imported hstage
    exact ⟨j, m, document, hopen.succ hquiet, hjm, Nat.lt_succ_of_lt hmn, himported, hrow ▸ hhead⟩

/-- A row in any other stage goes back to nothing. -/
theorem Traced.of_stage (hbootstrap : (storeAt P s calls n).activation.stage ≠ .awaitingBootstrap)
    (hack : (storeAt P s calls n).activation.stage ≠ .awaitingRosterAck) : Traced P s calls n :=
  ⟨fun h => absurd h hbootstrap, fun h => absurd h hack⟩

theorem not_opened (hn : n < calls.length)
    (h : ∀ binding nowMs, calls[n] = .openWindow binding nowMs →
      (calls[n].prog P).result (storeAt P s calls n) ≠ .ok ()) : ¬ Opened P s calls n := by
  intro ⟨binding, nowMs, hcall, hok⟩
  have heq : calls[n] = .openWindow binding nowMs :=
    Option.some.inj ((getElem?_eq_getElem hn).symm.trans hcall)
  rw [← heq] at hok
  exact h binding nowMs heq hok

theorem traced_succ (hn : n < calls.length) (h : Traced P s calls n) :
    Traced P s calls (n + 1) := by
  have hstep := step_next (P := P) (s := storeAt P s calls n) calls[n]
  have hcall : calls[n]? = some calls[n] := getElem?_eq_getElem hn
  rw [← storeAt_succ hn] at hstep
  cases hstep with
  | stays hquiet hrow => exact h.stays (not_opened hn hquiet) (activation_congr hrow)
  | opens hok heq _ hto =>
    refine ⟨fun _ => ⟨n, Nat.lt_succ_self n, ⟨_, _, heq ▸ hcall, heq ▸ hok⟩, fun k hk hk' => ?_⟩,
      fun hstage => ?_⟩
    · omega
    · cases hto.symm.trans hstage
  | abandons _ _ hto =>
    refine .of_stage ?_ ?_ <;> rw [hto] <;> decide
  | imports hok heq hfrom hto hhead =>
    have hquiet : ¬ Opened P s calls n :=
      not_opened hn fun _ _ hopen => nomatch heq.symm.trans hopen
    obtain ⟨j, hopen⟩ := h.opened hfrom
    refine ⟨fun hstage => ?_, fun _ => ⟨j, n, _, hopen.succ hquiet, hopen.1, Nat.lt_succ_self n,
      ⟨_, _, _, _, heq ▸ hcall, heq ▸ hok⟩, hhead⟩⟩
    cases hto.symm.trans hstage
  | completes _ _ _ hto =>
    refine .of_stage ?_ ?_ <;> rw [hto] <;> decide
  | buries _ hto =>
    refine .of_stage ?_ ?_ <;> rw [hto] <;> decide

theorem traced (hs : Traced P s calls 0) : ∀ n, n ≤ calls.length → Traced P s calls n
  | 0, _ => hs
  | n + 1, hn => traced_succ hn (traced hs n (Nat.le_of_succ_le hn))

/-- A device that offers nothing to anyone and lets nothing go. -/
structure OffersNothing (P : Primitives) (s : Store) : Prop where
  spray : ∀ request, ∃ plan, (coreDigestSprayPlan request).Returns s plan s ∧ plan.frames = []
  hints : ∀ userId nowMs, s.relaySelfHints P userId nowMs = [] ∧
    s.relaySelfPushHints P userId nowMs = [] ∧ s.relayProxyHints P userId nowMs = [] ∧
    s.relayFetchHints P userId nowMs = [] ∧ s.relayFetchPushHints P userId nowMs = [] ∧
    s.deliveryHintsForPeer P userId nowMs = []
  rows : ∀ envelope ownUserId siblingSealed,
    s.coreOutboundRelayRows P envelope ownUserId siblingSealed = .ok []
  acks : ∀ items ownUserId nowMs, s.coreRelayAckIdsWithConsumed P items ownUserId nowMs = []
  confirms : ∀ peerUserId known authenticated nowMs,
    (coreConfirmCarriedDeliveries P peerUserId known authenticated nowMs).Returns s 0 s

theorem offersNothing (h : s.activation.stage.Silent) : OffersNothing P s := by
  have hadvertise := linkGate_closed h .advertise
  have hack := linkGate_closed h .ack
  have hgroups : ∀ userId nowMs forward proxy, s.relayHintGroups P userId nowMs forward proxy = [] :=
    fun _ _ _ _ => if_pos hadvertise
  refine ⟨fun request => ⟨.silent, ?_, rfl⟩, fun userId nowMs => ?_, fun _ _ _ => if_pos hadvertise,
    fun _ _ _ => if_pos hack, fun peerUserId known authenticated nowMs => ?_⟩
  · refine returns_bind.mpr ⟨false, s, returns_inspect.mpr ⟨hadvertise, rfl⟩, ?_⟩
    exact ⟨rfl, rfl⟩
  · have hself : ∀ forward, s.selfHintsWithForward P userId nowMs forward = [] := by
      intro forward
      rw [selfHintsWithForward, hgroups]
      rfl
    have hfetch : ∀ forward,
        dedupeHints (clampHintGroups (s.relayHintGroups P userId nowMs forward true)) = [] := by
      intro forward
      rw [hgroups]
      rfl
    exact ⟨hself _, hself _, if_pos hadvertise, hfetch _, hfetch _, if_pos hadvertise⟩
  · unfold coreConfirmCarriedDeliveries
    split
    · exact ⟨rfl, rfl⟩
    · refine returns_bind.mpr ⟨false, s, returns_inspect.mpr ⟨hack, rfl⟩, ?_⟩
      exact ⟨rfl, rfl⟩

/-- Call number `n` acknowledged the head of the roster that was imported since the window
was last opened. -/
def Acknowledged (P : Primitives) (s : Store) (calls : List Call) (n : Nat) : Prop :=
  ∃ acked nowMs j m document, calls[n]? = some (.complete acked nowMs) ∧ OpenSince P s calls j n ∧
    j < m ∧ m < n ∧ Imported P s calls m document ∧ acked = rosterHeadHash P document.roster

/-- A device becomes one of its person's devices only by the acknowledgement of the roster
it imported in the window it is in; a buried device stays buried; and a device that is
between the two, or buried, offers nothing. -/
theorem activation_gate (P : Primitives) (s : Store) (calls : List Call)
    (hbootstrap : s.activation.stage ≠ .awaitingBootstrap)
    (hack : s.activation.stage ≠ .awaitingRosterAck) :
    (∀ n, (storeAt P s calls n).activation.stage ≠ .activated →
      (storeAt P s calls (n + 1)).activation.stage = .activated → Acknowledged P s calls n) ∧
    (∀ m n, m ≤ n → (storeAt P s calls m).activation.stage = .revoked →
      (storeAt P s calls n).activation.stage = .revoked) ∧
    (∀ n, (storeAt P s calls n).activation.stage.Silent → OffersNothing P (storeAt P s calls n)) := by
  have hstart : storeAt P s calls 0 = s := stateAt_zero
  refine ⟨fun n hbefore hafter => ?_, fun m n hmn hrevoked => ?_, fun n => offersNothing⟩
  · by_cases hn : n < calls.length
    · have htraced : Traced P s calls n :=
        traced (.of_stage (hstart ▸ hbootstrap) (hstart ▸ hack)) n (le_of_lt hn)
      have hstep := step_next (P := P) (s := storeAt P s calls n) calls[n]
      rw [← storeAt_succ hn] at hstep
      cases hstep with
      | stays _ hrow =>
        rw [activation_congr hrow] at hafter
        exact absurd hafter hbefore
      | completes hcall hfrom hhead _ =>
        obtain ⟨j, m, document, hopen, hjm, hmn, himported, hexpected⟩ := htraced.imported hfrom
        refine ⟨_, _, j, m, document, hcall ▸ getElem?_eq_getElem hn, hopen, hjm, hmn,
          himported, ?_⟩
        exact Option.some.inj (hhead.symm.trans hexpected)
      | opens _ _ _ hto => cases hto.symm.trans hafter
      | abandons _ _ hto => cases hto.symm.trans hafter
      | imports _ _ _ hto _ => cases hto.symm.trans hafter
      | buries _ hto => cases hto.symm.trans hafter
    · have hsame : storeAt P s calls (n + 1) = storeAt P s calls n :=
        stateAt_succ_of_length_le (not_lt.mp hn)
      rw [hsame] at hafter
      exact absurd hafter hbefore
  · exact stateAt_from (fun s : Store => s.activation.stage = .revoked) hmn hrevoked
      fun _ call _ _ _ ih => (step_next call).revoked ih

end Histories

section Example
open CruiseMesh.Sample

def channel : Bytes := replicate channelBindingLen 5

/-- What the first device sends the second one. -/
def pairDocument : LinkBootstrap :=
  let unsigned : LinkBootstrap :=
    { version := linkBootstrapVersion, createdAtMs := 0
      person :=
        { personId := Sample.person, personSignPk := personRoot, inboxKeyGeneration := 0
          inboxAgreePk := agreeKey (secretKey 4), inboxAgreeSk := secretKey 4 }
      roster := pairRoster, contacts := [], groups := [], historyHead := [], profile := {}
      channelBinding := channel, expiresAtMs := 1000, signerSignPk := deviceKey, signature := [] }
  { unsigned with
    signature := primitives.sign (secretKey 2) (deviceLinkBootstrapSignDomain ++ lenPrefixed
      (bootstrapSignedMessage (bootstrapPrefix unsigned) channel 1000)) }

/-- The ceremony of the second device. -/
def ceremony : List Call :=
  [.openWindow channel 1, .bootstrap pairDocument otherDeviceKey none 2 fun _ => .ok 2,
    .complete (rosterHeadHash primitives pairRoster) 3]

/-- The ceremony activates the device, with the acknowledgement it needs; before that the
device was silent. -/
theorem activation_gate_ceremony :
    (storeAt primitives {} ceremony 3).activation.stage = .activated ∧
      Acknowledged primitives {} ceremony 2 ∧
      OffersNothing primitives (storeAt primitives {} ceremony 2) := by
  have hthird : (storeAt primitives {} ceremony 3).activation.stage = .activated := by
    decide +kernel
  have hsecond : (storeAt primitives {} ceremony 2).activation.stage = .awaitingRosterAck := by
    decide +kernel
  have hgate := activation_gate primitives {} ceremony (by decide) (by decide)
  refine ⟨hthird, hgate.1 2 ?_ hthird, hgate.2.2 2 (.inr (.inl hsecond))⟩
  rw [hsecond]
  decide

end Example
end CruiseMesh.Activation
