import CruiseMesh.Link.Activation
import CruiseMesh.Roster.Adoption

/-!
# What the own-roster calls do

Seven calls write what a device holds of its own place in its person's fleet: the
activation row, the roster document and the fleet projected from it. They share their
writers, and everything else they write (the backlog, the sync context, the contacts of
a bootstrap) is somebody else's business. So each of them has one lemma here that says
what it can do to those four tables, and the laws of whole histories are read off these.
-/

namespace CruiseMesh
open Durable Prog Store

/-- What a device holds of its own place in its person's fleet. -/
structure OwnState where
  activation : Option CoreLinkActivation
  roster : Option Roster
  fleetVersion : Option RosterVersion
  fleet : List OwnFleetRow

def Store.own (s : Store) : OwnState :=
  ⟨s.linkActivation, s.ownRoster, s.ownFleetVersion, s.ownFleet⟩

namespace OwnState

/-- The fleet a roster projects to. -/
def projection (P : Primitives) (roster : Roster) (ownDeviceId : Bytes) : OwnDeviceFleet where
  ownDeviceId := some ownDeviceId
  deviceIds := roster.deviceIds P
  projectedFrom := roster.version

/-- The two writes of an adoption: the document whatever it replaces, and the fleet where
the stored one is older. -/
def adopting (P : Primitives) (own : OwnState) (roster : Roster) (ownDeviceId : Bytes) :
    OwnState :=
  if ∃ stored ∈ own.fleetVersion, roster.version ≤ stored then { own with roster := some roster }
  else
    { own with
      roster := some roster, fleetVersion := some roster.version
      fleet := (projection P roster ownDeviceId).rows }

/-- The one write of a burial. -/
def ejected (own : OwnState) (roster : Roster) (ownDeviceId : Bytes) (nowMs : Int) : OwnState where
  activation := some { own.activation.getD { startedAtMs := nowMs } with
    stage := .revoked, expectedRosterHead := none, ownDeviceId := some ownDeviceId
    channelBinding := none }
  roster := some roster
  fleetVersion := some (buriedVersion roster own.fleetVersion)
  fleet := []

theorem adopting_roster (P : Primitives) (own : OwnState) (roster : Roster) (id : Bytes) :
    (own.adopting P roster id).roster = some roster := by
  unfold adopting
  split <;> rfl

end OwnState

/-! ## What is somebody else's business -/

section Frames
variable {P : Primitives} {τ : Type} {view : Store → τ}

/-- Re-sealing the backlog touches the stream records and nothing else. -/
theorem keeps_resealOwnBacklog {device : DeviceKeypair} {superseded : Option InboxKey}
    {roster : Roster} {rotated : InboxKey} {entropy : Nat → SealEntropy}
    (hview : ∀ s records, view { s with syncStreamRecords := records } = view s) :
    (resealOwnBacklog P device superseded roster rotated entropy).Keeps view := fun _ =>
  throughout_resealOwnBacklog rfl fun _ _ _ _ _ _ _ _ x hx => (hview x _).trans hx

theorem keeps_coreSetOwnSyncContext
    (hview : ∀ s row, view { s with ownSyncContext := row } = view s) (roster : Roster)
    (generation : Nat) : (coreSetOwnSyncContext roster generation).Keeps view := fun _ =>
  throughout_coreSetOwnSyncContext rfl fun x _ hx => (hview x _).trans hx

theorem keeps_storedQuarantine
    (hview : ∀ s rosters devices,
      view { s with contactRosters := rosters, contactDevices := devices } = view s)
    (person : Bytes) : (storedQuarantine P person).Keeps view := by
  unfold storedQuarantine
  refine keeps_inspect_bind fun _ => keeps_lift_bind fun loaded => ?_
  refine keeps_inspect_bind fun damaged => ?_
  dsimp only
  split
  · refine keeps_bind ?_ fun _ => keeps_pure _
    refine keeps_bind (keeps_write fun s => hview s _ _) fun _ => ?_
    refine keeps_bind (keeps_write fun s => hview s _ _) fun _ => ?_
    split
    · exact keeps_write fun s => hview s _ _
    · exact keeps_pure _
  · exact keeps_pure _

/-- What is loaded leaves the rows as they are, or drops the damaged ones. -/
theorem loadState_cases {s s' : Store} {person : Bytes} {state : ContactRosterState}
    (h : loadState P person s = .ok (state, s')) :
    ¬ s.Damaged person state ∧ s' = s ∨
      s.Damaged person state ∧ s' = selfHealDamagedRoster person state.quarantined s := by
  unfold loadState at h
  unfold Store.Damaged
  rw [Tx.get_bind] at h
  cases hrow : s.contactRosterRow person with
  | none =>
    rw [hrow] at h
    cases h
    exact .inl ⟨by simp, rfl⟩
  | some header =>
    rw [hrow] at h
    dsimp only at h
    by_cases hhead : header.headHash = []
    · rw [if_pos hhead] at h
      cases h
      exact .inl ⟨by simp [hhead], rfl⟩
    rw [if_neg hhead] at h
    cases hread : readDeviceRows person (s.contactDeviceRows person) with
    | error e =>
      rw [hread] at h
      cases h
    | ok rows =>
      rw [hread, Tx.bind_apply_ok (Tx.lift_ok_apply _ s)] at h
      split at h
      · cases h
        exact .inr ⟨by simp [hhead], rfl⟩
      · cases h
        exact .inl ⟨by simp, rfl⟩

theorem returns_healDamagedRoster (person : Bytes) (quarantined : Bool) (s : Store) :
    (healDamagedRoster person quarantined).Returns s ()
      (selfHealDamagedRoster person quarantined s) := by
  unfold healDamagedRoster
  refine returns_bind.mpr ⟨(), _, returns_write.mpr rfl, returns_bind.mpr
    ⟨(), _, returns_write.mpr rfl, ?_⟩⟩
  cases quarantined with
  | false => exact returns_pure.mpr ⟨rfl, rfl⟩
  | true => exact returns_write.mpr rfl

/-- From beginning to end the bit is read as in a transaction. -/
theorem returns_storedQuarantine {s s' : Store} {person : Bytes} {quarantined : Bool} :
    (storedQuarantine P person).Returns s quarantined s' ↔
      ∃ state, loadState P person s = .ok (state, s') ∧ state.quarantined = quarantined := by
  unfold storedQuarantine
  rw [returns_inspect_bind, returns_lift_bind]
  constructor
  · rintro ⟨⟨state, mid⟩, hload, h⟩
    dsimp only at h
    rw [returns_inspect_bind] at h
    rcases loadState_cases hload with ⟨hintact, rfl⟩ | ⟨hdamaged, rfl⟩
    · rw [decide_eq_false hintact, if_neg Bool.false_ne_true, returns_pure] at h
      obtain ⟨rfl, rfl⟩ := h
      exact ⟨state, hload, rfl⟩
    · rw [decide_eq_true hdamaged, if_pos rfl, returns_bind] at h
      obtain ⟨_, healed, hheal, hpure⟩ := h
      obtain ⟨rfl, rfl⟩ := returns_pure.mp hpure
      have hsame := hheal.2.symm.trans (returns_healDamagedRoster person state.quarantined s).2
      exact ⟨state, hsame ▸ hload, rfl⟩
  · rintro ⟨state, hload, rfl⟩
    refine ⟨(state, s'), hload, ?_⟩
    dsimp only
    rw [returns_inspect_bind]
    rcases loadState_cases hload with ⟨hintact, rfl⟩ | ⟨hdamaged, rfl⟩
    · rw [decide_eq_false hintact, if_neg Bool.false_ne_true]
      exact returns_pure.mpr ⟨rfl, rfl⟩
    · rw [decide_eq_true hdamaged, if_pos rfl, returns_bind]
      exact ⟨(), _, returns_healDamagedRoster person _ s, returns_pure.mpr ⟨rfl, rfl⟩⟩

/-- Where no row is held, the bit reads as unset. -/
theorem storedQuarantine_none {s : Store} {person : Bytes}
    (h : s.contactRosterRow person = none) : (storedQuarantine P person).Returns s false s :=
  returns_storedQuarantine.mpr ⟨⟨none, false⟩, loadState_of_holds (.inl ⟨h, rfl⟩), rfl⟩

/-- A read that fails has done nothing. -/
theorem final_storedQuarantine_of_error {s : Store} {person : Bytes} {e : CoreError}
    (h : (storedQuarantine P person).result s = .error e) : (storedQuarantine P person).final s = s := by
  unfold storedQuarantine at h ⊢
  rw [result_inspect_bind] at h
  rw [final_inspect_bind]
  rcases lift_bind_cases (loadState P person s) _ s with ⟨_, _, hfinal⟩ | ⟨⟨state, mid⟩, hload, hrun⟩
  · exact hfinal
  · have hreturns := returns_storedQuarantine.mpr ⟨state, hload, rfl⟩
    unfold storedQuarantine at hreturns
    rw [returns_inspect_bind] at hreturns
    cases hreturns.1.symm.trans h

theorem keeps_projectOwnFleet
    (hview : ∀ s version rows, view { s with ownFleetVersion := version, ownFleet := rows } = view s)
    (roster : Roster) (ownDeviceId : Bytes) : (projectOwnFleet P roster ownDeviceId).Keeps view := by
  refine keeps_lift_bind fun _ => keeps_transaction ?_
  intro s u s' h
  rw [← (setFleet_tx.mp h).2]
  exact hview s _ _

end Frames

/-! ## The calls -/

section Calls
variable {P : Primitives} {s : Store} {roster : Roster} {root ownDeviceId : Bytes}

/-- The two writes of an adoption, one after the other. -/
theorem own_project_stored (hvalid : ValidRoster P roster root)
    (hlisted : ownDeviceId ∈ roster.deviceIds P) :
    ((projectOwnFleet P roster ownDeviceId).final { s with ownRoster := some roster }).own =
      s.own.adopting P roster ownDeviceId := by
  unfold projectOwnFleet setOwnDeviceFleet OwnState.adopting
  rw [validateOwnDeviceFleet_of_valid hvalid hlisted, lift_ok_bind]
  -- the fleet is written where the stored one is older
  split
  · next hold =>
    refine transaction_final (R := fun s' : Store => s'.own = _) rfl fun u s' h => ?_
    obtain ⟨stored, hmem, hle⟩ := hold
    exact absurd ((setFleet_tx.mp h).1 stored hmem) (not_lt.mpr hle)
  · next hold =>
    have hnew : ∀ stored ∈ s.ownFleetVersion, stored < roster.version :=
      fun stored hmem => not_le.mp fun hle => hold ⟨stored, hmem, hle⟩
    rw [(transaction_ok (a := ()) (setFleet_tx.mpr ⟨hnew, rfl⟩)).2]
    rfl

/-- `adopt_own_roster` writes when the roster is valid and lists this device. -/
theorem own_adoptOwnRoster (hvalid : ValidRoster P roster root)
    (hlisted : ownDeviceId ∈ roster.deviceIds P) :
    ((adoptOwnRoster P roster root ownDeviceId).final s).own =
      s.own.adopting P roster ownDeviceId := by
  unfold adoptOwnRoster
  rw [validate_eq_ok_iff.mpr hvalid, refuseWhen_neg (not_not.mpr hlisted)]
  show ((storeOwnRoster roster >>= fun _ => projectOwnFleet P roster ownDeviceId).final s).own = _
  unfold storeOwnRoster
  rw [final_write_bind]
  exact own_project_stored hvalid hlisted

/-- Otherwise it does nothing. -/
theorem final_adoptOwnRoster_refused
    (h : ¬ (ValidRoster P roster root ∧ ownDeviceId ∈ roster.deviceIds P)) :
    (adoptOwnRoster P roster root ownDeviceId).final s = s := by
  unfold adoptOwnRoster
  cases hv : validate P roster root with
  | error rejection => rfl
  | ok u =>
    have hlisted : ownDeviceId ∉ roster.deviceIds P := fun hl => h ⟨validate_eq_ok_iff.mp hv, hl⟩
    rw [refuseWhen_pos hlisted]
    rfl

/-- How a call that asks `core_roster_accept` changes what is held: not at all, or to a
document above the held one, adopted or as a burial. -/
inductive OwnStep (P : Primitives) (own : OwnState) (ownDeviceId : Bytes) (nowMs : Int) :
    OwnState → Prop
  | stays : OwnStep P own ownDeviceId nowMs own
  | adopts {held incoming : Roster} (hheld : own.roster = some held)
      (hperson : incoming.personId = held.personId) (hversion : held.version < incoming.version) :
      OwnStep P own ownDeviceId nowMs (own.adopting P incoming ownDeviceId)
  | ejects {held incoming : Roster} (hheld : own.roster = some held)
      (hperson : incoming.personId = held.personId) (hversion : held.version < incoming.version) :
      OwnStep P own ownDeviceId nowMs (own.ejected incoming ownDeviceId nowMs)

variable {held incoming : Roster} {quarantined : Bool} {reason : RosterUpdateReason} {nowMs : Int}
  {mid : Store} {ownDevice : DeviceKeypair} {payload : SyncOwnRosterPayload}

/-- What an accepted document is: valid, and above the held one. -/
theorem accepted_spec
    (h : (coreRosterAccept P (some held) quarantined incoming root).outcome = .accepted) :
    ValidRoster P incoming root ∧ held.version < incoming.version := by
  obtain ⟨_, hvalid, hsup⟩ := coreRosterAccept_accepted_iff.mp h
  exact ⟨hvalid, (hsup held rfl).version⟩

/-! Both ways in make one decision, and act on it alike. -/

/-- What follows the verdict of `core_roster_accept`. -/
def actOnVerdict (personId : Bytes) (verdict : RosterUpdateDecision)
    (adopt : Prog Store CoreError RevocationAdoption) : Prog Store CoreError RevocationAdoption :=
  match verdict.outcome with
  | .accepted => adopt
  | .forkQuarantined => do
    write (markQuarantined personId)
    pure { outcome := .forkQuarantined, reason := verdict.reason }
  | .ignored => pure { outcome := ignoredOutcome verdict.reason, reason := verdict.reason }

/-- What a notice does once its document can be judged. -/
def actOnNotice (P : Primitives) (held incoming : Roster) (quarantined : Bool)
    (anchor ownDeviceId : Bytes) (nowMs : Int) : Prog Store CoreError RevocationAdoption :=
  let verdict := coreRosterAccept P (some held) quarantined incoming anchor
  actOnVerdict held.personId verdict
    (adoptNotice P held incoming verdict.reason ownDeviceId nowMs)

/-- What a hand-off does once its roster can be judged. -/
def actOnHandoff (P : Primitives) (held : Roster) (payload : SyncOwnRosterPayload)
    (quarantined : Bool) (root : Bytes) (device : DeviceKeypair) (superseded : Option InboxKey)
    (nowMs : Int) (entropy : Nat → SealEntropy) : Prog Store CoreError RevocationAdoption :=
  let verdict := coreRosterAccept P (some held) quarantined payload.roster root
  actOnVerdict held.personId verdict
    (adoptAnnounced P held payload verdict.reason root device superseded nowMs entropy)

/-- Nothing happened, but that damaged rows may have been dropped while the quarantine was
read. -/
def AtMostRead (P : Primitives) (s s' : Store) : Prop :=
  s' = s ∨ ∃ held ∈ s.ownRoster, s' = (storedQuarantine P held.personId).final s

/-- A document is judged: against which roster, under which quarantine, and what is left
of the store once that was read. -/
structure Judged (P : Primitives) (s : Store) (held incoming : Roster) (quarantined : Bool)
    (mid : Store) : Prop where
  holds : s.own.roster = some held
  person : incoming.personId = held.personId
  read : (storedQuarantine P held.personId).Returns s quarantined mid

/-- The document of a notice, and the key it is checked against. -/
def NoticeOffers (P : Primitives) (document personRootSignPk : Bytes) (held incoming : Roster)
    (anchor : Bytes) : Prop :=
  coreDecodeRoster document = .ok incoming ∧ noticeAnchor P held personRootSignPk = .ok anchor

/-- A notice fails before the decision, or is decided and acted on. -/
theorem applyOwnRosterNotice_run (document root ownDeviceId : Bytes) (nowMs : Int) :
    let p := applyOwnRosterNotice P document root ownDeviceId nowMs
    (∃ e, p.result s = .error e ∧ AtMostRead P s (p.final s)) ∨
    ∃ held incoming anchor quarantined mid, NoticeOffers P document root held incoming anchor ∧
      Judged P s held incoming quarantined mid ∧
      let act := actOnNotice P held incoming quarantined anchor ownDeviceId nowMs
      p.result s = act.result mid ∧ p.final s = act.final mid := by
  intro p
  unfold p applyOwnRosterNotice
  rw [result_inspect_bind, final_inspect_bind]
  rcases lift_bind_cases (okOr s.ownRoster _) _ s with ⟨e, hr, hf⟩ | ⟨held, hheld, hrun⟩
  · exact .inl ⟨e, hr, .inl hf⟩
  rw [hrun]
  rcases lift_bind_cases (coreDecodeRoster document) _ s with ⟨e, hr, hf⟩ | ⟨incoming, hdoc, hrun⟩
  · exact .inl ⟨e, hr, .inl hf⟩
  rw [hrun]
  rcases lift_bind_cases (refuseWhen (incoming.personId ≠ held.personId) _) _ s with
    ⟨e, hr, hf⟩ | ⟨_, hperson, hrun⟩
  · exact .inl ⟨e, hr, .inl hf⟩
  rw [hrun]
  rcases run_bind_cases (storedQuarantine P held.personId) _ s with
    ⟨e, hq, hr, hf⟩ | ⟨quarantined, mid, hread, hr, hf⟩
  · exact .inl ⟨e, hr, .inr ⟨held, okOr_eq_ok.mp hheld, hf⟩⟩
  rw [hr, hf]
  rcases lift_bind_cases (noticeAnchor P held root) _ mid with
    ⟨e, hr, hf⟩ | ⟨anchor, hanchor, hrun⟩
  · refine .inl ⟨e, hr, .inr ⟨held, okOr_eq_ok.mp hheld, ?_⟩⟩
    rw [hf, hread.2]
  rw [hrun]
  refine .inr ⟨held, incoming, anchor, quarantined, mid, ⟨hdoc, hanchor⟩, ?_, rfl, rfl⟩
  exact ⟨okOr_eq_ok.mp hheld, not_not.mp (refuseWhen_eq_ok.mp hperson), hread⟩

/-- A notice whose document can be judged is judged. -/
theorem applyOwnRosterNotice_judged {document : Bytes} (ownDeviceId : Bytes) (nowMs : Int)
    {anchor : Bytes} (hoffers : NoticeOffers P document root held incoming anchor)
    (hjudged : Judged P s held incoming quarantined mid) :
    let p := applyOwnRosterNotice P document root ownDeviceId nowMs
    let act := actOnNotice P held incoming quarantined anchor ownDeviceId nowMs
    p.result s = act.result mid ∧ p.final s = act.final mid := by
  intro p act
  have hheld : s.ownRoster = some held := hjudged.holds
  unfold p applyOwnRosterNotice
  rw [result_inspect_bind, final_inspect_bind, hheld, okOr_some, lift_ok_bind,
    hoffers.1, lift_ok_bind, refuseWhen_neg (not_not.mpr hjudged.person), lift_ok_bind]
  rw [(run_bind_of_returns hjudged.read).1, (run_bind_of_returns hjudged.read).2,
    hoffers.2, lift_ok_bind]
  exact ⟨rfl, rfl⟩

/-- The announced roster of a handoff, with the keys that come along. -/
def HandoffOffers (P : Primitives) (body personRootSignPk : Bytes) (ownDevice : DeviceKeypair)
    (held : Roster) (payload : SyncOwnRosterPayload) : Prop :=
  ∃ record, coreOpenSyncHandoff P body ownDevice.agreeSk held personRootSignPk = .ok record ∧
    coreDecodeSyncOwnRoster record.payload = .ok payload

/-- A handoff fails before the decision, or is decided and acted on. -/
theorem adoptRevocationHandoff_run (body root : Bytes) (ownDevice : DeviceKeypair)
    (superseded : Option InboxKey) (nowMs : Int) (entropy : Nat → SealEntropy) :
    let p := adoptRevocationHandoff P body root ownDevice superseded nowMs entropy
    (∃ e, p.result s = .error e ∧ AtMostRead P s (p.final s)) ∨
    ∃ held payload quarantined mid, HandoffOffers P body root ownDevice held payload ∧
      Judged P s held payload.roster quarantined mid ∧
      let act := actOnHandoff P held payload quarantined root ownDevice superseded nowMs entropy
      p.result s = act.result mid ∧ p.final s = act.final mid := by
  intro p
  unfold p adoptRevocationHandoff
  rw [result_inspect_bind, final_inspect_bind]
  rcases lift_bind_cases (okOr s.ownRoster _) _ s with ⟨e, hr, hf⟩ | ⟨held, hheld, hrun⟩
  · exact .inl ⟨e, hr, .inl hf⟩
  rw [hrun]
  rcases lift_bind_cases (coreOpenSyncHandoff P body ownDevice.agreeSk held root) _ s with
    ⟨e, hr, hf⟩ | ⟨record, hopen, hrun⟩
  · exact .inl ⟨e, hr, .inl hf⟩
  rw [hrun]
  rcases lift_bind_cases (coreDecodeSyncOwnRoster record.payload) _ s with
    ⟨e, hr, hf⟩ | ⟨payload, hpayload, hrun⟩
  · exact .inl ⟨e, hr, .inl hf⟩
  rw [hrun]
  rcases lift_bind_cases (refuseWhen (payload.roster.personId ≠ held.personId) _) _ s with
    ⟨e, hr, hf⟩ | ⟨_, hperson, hrun⟩
  · exact .inl ⟨e, hr, .inl hf⟩
  rw [hrun]
  rcases run_bind_cases (storedQuarantine P held.personId) _ s with
    ⟨e, hq, hr, hf⟩ | ⟨quarantined, mid, hread, hr, hf⟩
  · exact .inl ⟨e, hr, .inr ⟨held, okOr_eq_ok.mp hheld, hf⟩⟩
  rw [hr, hf]
  refine .inr ⟨held, payload, quarantined, mid, ⟨record, hopen, hpayload⟩, ?_, rfl, rfl⟩
  exact ⟨okOr_eq_ok.mp hheld, not_not.mp (refuseWhen_eq_ok.mp hperson), hread⟩

variable {entropy : Nat → SealEntropy} {superseded : Option InboxKey}

/-- A handoff whose roster can be judged is judged. -/
theorem adoptRevocationHandoff_judged {body : Bytes} {nowMs : Int}
    (hoffers : HandoffOffers P body root ownDevice held payload)
    (hjudged : Judged P s held payload.roster quarantined mid) :
    let p := adoptRevocationHandoff P body root ownDevice superseded nowMs entropy
    let act := actOnHandoff P held payload quarantined root ownDevice superseded nowMs entropy
    p.result s = act.result mid ∧ p.final s = act.final mid := by
  intro p act
  have hheld : s.ownRoster = some held := hjudged.holds
  obtain ⟨record, hopen, hpayload⟩ := hoffers
  unfold p adoptRevocationHandoff
  rw [result_inspect_bind, final_inspect_bind, hheld, okOr_some, lift_ok_bind,
    hopen, lift_ok_bind, hpayload, lift_ok_bind,
    refuseWhen_neg (not_not.mpr hjudged.person), lift_ok_bind]
  exact run_bind_of_returns hjudged.read

/-! What that does to the four tables. -/

theorem AtMostRead.own {s' : Store} (h : AtMostRead P s s') : s'.own = s.own := by
  rcases h with rfl | ⟨held, _, rfl⟩
  · rfl
  · exact (keeps_storedQuarantine (fun _ _ _ => rfl) held.personId).final s

theorem Judged.own (h : Judged P s held incoming quarantined mid) : mid.own = s.own :=
  (keeps_storedQuarantine (fun _ _ _ => rfl) held.personId).returns h.read

theorem own_markQuarantined (person : Bytes) (s : Store) : (markQuarantined person s).own = s.own := by
  unfold markQuarantined
  split <;> rfl

/-- A verdict that does not accept leaves them alone. -/
theorem own_actOnVerdict {personId : Bytes} {verdict : RosterUpdateDecision}
    {adopt : Prog Store CoreError RevocationAdoption} (hadopt : verdict.outcome = .accepted →
      OwnStep P s.own ownDeviceId nowMs (adopt.final s).own) :
    OwnStep P s.own ownDeviceId nowMs ((actOnVerdict personId verdict adopt).final s).own := by
  unfold actOnVerdict
  split
  · next hout => exact hadopt hout
  · rw [final_write_bind]
    show OwnStep P s.own ownDeviceId nowMs (markQuarantined personId s).own
    rw [own_markQuarantined]
    exact .stays
  · exact .stays

/-- `apply_own_roster_notice`. -/
theorem own_applyOwnRosterNotice (document root ownDeviceId : Bytes) (nowMs : Int) :
    OwnStep P s.own ownDeviceId nowMs
      ((applyOwnRosterNotice P document root ownDeviceId nowMs).final s).own := by
  rcases applyOwnRosterNotice_run (P := P) (s := s) document root ownDeviceId nowMs with
    ⟨e, _, hread⟩ | ⟨held, incoming, anchor, quarantined, mid, _, hjudged, _, hfinal⟩
  · rw [hread.own]
    exact .stays
  · rw [hfinal, ← hjudged.own]
    refine own_actOnVerdict fun haccepted => ?_
    obtain ⟨hvalid, hversion⟩ := accepted_spec haccepted
    unfold adoptNotice
    split
    · rw [view_final_bind own fun _ => keeps_pure _]
      exact .ejects (hjudged.own ▸ hjudged.holds) hjudged.person hversion
    split
    · exact .stays
    next hunlisted =>
    have hlisted : ownDeviceId ∈ incoming.deviceIds P := not_not.mp hunlisted
    split
    · exact .stays
    · unfold storeOwnRoster
      rw [final_write_bind, view_final_bind own fun _ => keeps_pure _,
        own_project_stored hvalid hlisted]
      exact .adopts (hjudged.own ▸ hjudged.holds) hjudged.person hversion

theorem own_adoptAnnounced (hheld : s.own.roster = some held) (hperson : payload.roster.personId = held.personId)
    (hversion : held.version < payload.roster.version) :
    OwnStep P s.own ownDevice.deviceId nowMs
      ((adoptAnnounced P held payload reason root ownDevice superseded nowMs entropy).final s).own := by
  unfold adoptAnnounced
  dsimp only
  split
  · rw [view_final_bind own fun _ => keeps_pure _]
    exact .ejects hheld hperson hversion
  rcases lift_bind_cases (okOr (payload.inboxKeys.find? _) _) _ s with
    ⟨e, hr, hf⟩ | ⟨inboxKey, _, hrun⟩
  · rw [hf]
    exact .stays
  rw [hrun]
  rcases run_bind_cases
      (resealOwnBacklog P ownDevice superseded payload.roster inboxKey entropy) _ s with
    ⟨e, _, _, hf⟩ | ⟨counts, mid, hreseal, _, hf⟩
  · have hkept : ((resealOwnBacklog P ownDevice superseded payload.roster inboxKey
        entropy).final s).own = s.own :=
      (keeps_resealOwnBacklog fun _ _ => rfl).final s
    rw [hf, hkept]
    exact .stays
  have hmid : mid.own = s.own :=
    (keeps_resealOwnBacklog fun _ _ => rfl).returns hreseal
  rw [hf, ← hmid]
  -- what follows the adoption is the sync context
  rw [view_final_bind own fun _ => keeps_bind
    (keeps_coreSetOwnSyncContext (fun _ _ => rfl) _ _) fun _ => keeps_pure _]
  by_cases hok : ValidRoster P payload.roster root ∧ ownDevice.deviceId ∈ payload.roster.deviceIds P
  · rw [own_adoptOwnRoster hok.1 hok.2]
    exact .adopts (hmid ▸ hheld) hperson hversion
  · rw [final_adoptOwnRoster_refused hok]
    exact .stays

/-- `adopt_revocation_handoff`. -/
theorem own_adoptRevocationHandoff (body root : Bytes) (ownDevice : DeviceKeypair)
    (superseded : Option InboxKey) (nowMs : Int) (entropy : Nat → SealEntropy) :
    OwnStep P s.own ownDevice.deviceId nowMs
      ((adoptRevocationHandoff P body root ownDevice superseded nowMs entropy).final s).own := by
  rcases adoptRevocationHandoff_run (P := P) (s := s) body root ownDevice superseded nowMs entropy with
    ⟨e, _, hread⟩ | ⟨held, payload, quarantined, mid, _, hjudged, _, hfinal⟩
  · rw [hread.own]
    exact .stays
  · rw [hfinal, ← hjudged.own]
    refine own_actOnVerdict fun haccepted => ?_
    exact own_adoptAnnounced (hjudged.own ▸ hjudged.holds) hjudged.person
      (accepted_spec haccepted).2

/-! The commit of a rotation writes only once the backlog has been re-sealed. -/

/-- The commit gets as far as its adoption. -/
def CommitAdopts (P : Primitives) (s : Store) (update : RevocationUpdate) (root : Bytes)
    (ownDevice : DeviceKeypair) (superseded : Option InboxKey) (entropy : CommitEntropy) : Prop :=
  checkRevocationUpdate P update root ownDevice = .ok () ∧
    requirePending update s.pendingOwnRevocation = .ok () ∧
      ∃ counts, (resealOwnBacklog P ownDevice superseded update.roster update.inboxKey
        entropy.backlog).result s = .ok counts

/-- `commit_own_revocation`: the adoption, or nothing. -/
theorem own_commitOwnRevocation (update : RevocationUpdate) (root : Bytes) (ownDevice : DeviceKeypair)
    (superseded : Option InboxKey) (nowMs : Int) (entropy : CommitEntropy) :
    (CommitAdopts P s update root ownDevice superseded entropy ∧
      ((commitOwnRevocation P update root ownDevice superseded nowMs entropy).final s).own =
        s.own.adopting P update.roster ownDevice.deviceId) ∨
    (¬ CommitAdopts P s update root ownDevice superseded entropy ∧
      ((commitOwnRevocation P update root ownDevice superseded nowMs entropy).final s).own =
        s.own) := by
  -- the journal and the reads after it are not among the four tables
  have hbody : ((commitOwnRevocation P update root ownDevice superseded nowMs entropy).final s).own =
      ((commitBody P update root ownDevice superseded nowMs entropy).final s).own := by
    refine view_final_bind own (fun _ => ?_) s
    refine keeps_bind (keeps_write fun _ => rfl) fun _ => ?_
    refine keeps_inspect_bind fun _ => ?_
    exact keeps_lift_bind fun _ => keeps_pure _
  rw [hbody]
  unfold commitBody
  cases hcheck : checkRevocationUpdate P update root ownDevice with
  | error e => exact .inr ⟨fun h => (by cases hcheck ▸ h.1), rfl⟩
  | ok u =>
  rw [lift_ok_bind, final_inspect_bind]
  cases hpending : requirePending update s.pendingOwnRevocation with
  | error e => exact .inr ⟨fun h => (by cases hpending ▸ h.2.1), rfl⟩
  | ok u =>
  rw [lift_ok_bind]
  rcases run_bind_cases (resealOwnBacklog P ownDevice superseded update.roster update.inboxKey
      entropy.backlog) _ s with ⟨e, hreseal, _, hf⟩ | ⟨counts, mid, hreseal, _, hf⟩
  · refine .inr ⟨?_, ?_⟩
    · intro ⟨_, _, counts, hok⟩
      cases hreseal ▸ hok
    · rw [hf]
      exact (keeps_resealOwnBacklog fun _ _ => rfl).final s
  refine .inl ⟨⟨hcheck, hpending, counts, hreseal.1⟩, ?_⟩
  have hmid : mid.own = s.own :=
    (keeps_resealOwnBacklog fun _ _ => rfl).returns hreseal
  obtain ⟨hvalid, _, hlisted⟩ := checkRevocationUpdate_eq_ok.mp hcheck
  rw [hf, ← hmid, ← own_adoptOwnRoster hvalid hlisted]
  refine view_final_bind own (fun _ => ?_) mid
  refine keeps_bind (keeps_coreSetOwnSyncContext (fun _ _ => rfl) _ _) fun _ => ?_
  -- authoring the announcement touches the stream tables and nothing else
  refine keeps_bind ?_ fun _ => keeps_pure _
  refine keeps_inspect_bind fun _ => ?_
  refine keeps_lift_bind fun _ => ?_
  refine keeps_lift_bind fun _ => ?_
  refine keeps_lift_bind fun _ => ?_
  refine keeps_bind ?_ fun _ => ?_
  · exact fun s => throughout_coreSyncRetainRecord rfl rfl fun _ _ _ _ h => h
  · exact keeps_lift_bind fun _ => keeps_pure _

end Calls
end CruiseMesh
