import CruiseMesh.Lib.Runs
import CruiseMesh.Roster.OwnState
import CruiseMesh.Roster.RevocationResume
import CruiseMesh.Store.Open

/-!
# The own person's quarantine across restarts

A fork of the own roster is remembered by a row of `contact_rosters` that holds the bit and
no document, under the own person's id. Everything that answers a later document reads it
there. Opening the store deletes the rows of that table whose person is not a contact, and
the own person is not one unless somebody made it so: `quarantine_survives_iff` says that
this is exactly when the quarantine outlives a restart.
-/

namespace CruiseMesh.Quarantine
open Durable Prog Runs Table Store

/-! ## Events -/

inductive Event where
  | reopen
  | notice (document personRootSignPk ownDeviceId : Bytes) (nowMs : Int)
  | handoff (body personRootSignPk : Bytes) (ownDevice : DeviceKeypair)
      (supersededInboxKey : Option InboxKey) (nowMs : Int) (entropy : Nat → SealEntropy)

section Events
variable (P : Primitives) (s : Store)

/-- The store an event leaves. -/
def Event.next : Event → Store
  | .reopen => openStore.final s
  | .notice document root id nowMs => (applyOwnRosterNotice P document root id nowMs).final s
  | .handoff body root device superseded nowMs entropy =>
    (adoptRevocationHandoff P body root device superseded nowMs entropy).final s

/-- What a document was answered. Opening answers nothing. -/
def Event.answer : Event → Option (Except CoreError RevocationAdoption)
  | .reopen => none
  | .notice document root id nowMs =>
    some ((applyOwnRosterNotice P document root id nowMs).result s)
  | .handoff body root device superseded nowMs entropy =>
    some ((adoptRevocationHandoff P body root device superseded nowMs entropy).result s)

/-- The store after the first `n` events. -/
def storeAt (events : List Event) (n : Nat) : Store := stateAt (Event.next P) s events n

/-- The event carries this document of the own person, to be checked against `anchor`. -/
def Event.Offers (held incoming : Roster) (anchor : Bytes) : Event → Prop
  | .reopen => False
  | .notice document root _ _ =>
    s.own.roster = some held ∧ incoming.personId = held.personId ∧
      NoticeOffers P document root held incoming anchor
  | .handoff body root device _ _ _ =>
    s.own.roster = some held ∧ incoming.personId = held.personId ∧ anchor = root ∧
      ∃ payload, HandoffOffers P body root device held payload ∧ payload.roster = incoming

/-- The event carries a document of the person root at a strictly higher recovery epoch. -/
def Event.Pierces (event : Event) : Prop :=
  ∃ held incoming anchor, event.Offers P s held incoming anchor ∧
    piercesQuarantine (some held) incoming anchor

/-- The refusal of a quarantined person's document. -/
def quarantinedAnswer : RevocationAdoption where
  outcome := .forkQuarantined
  reason := .personQuarantined

/-- The event is refused: nothing of the own roster moves, and a document that could be
read, under a quarantine that could be read, is answered with the quarantine. -/
structure Event.Refused (event : Event) : Prop where
  unchanged : (event.next P s).own = s.own
  answered : ∀ held incoming anchor, event.Offers P s held incoming anchor →
    (∃ quarantined, (storedQuarantine P held.personId).result s = .ok quarantined) →
      event.answer P s = some (.ok quarantinedAnswer)

/-- From this store on, through any number of restarts, every document is refused that does
not pierce the quarantine. -/
def StaysQuarantined : Prop :=
  ∀ events : List Event, ∀ n (hn : n < events.length),
    ¬ events[n].Pierces P (storeAt P s events n) → events[n].Refused P (storeAt P s events n)

end Events

/-! ## The bit -/

section Bit
variable {P : Primitives} {s s' : Store} {person : Bytes}

/-- The quarantine bit of the person is stored. -/
def Marked (s : Store) (person : Bytes) : Prop :=
  ∃ row, s.contactRosterRow person = some row ∧ row.quarantined = true

theorem marked_of_rows (h : Marked s person) (hrows : s'.contactRosters = s.contactRosters) :
    Marked s' person := by
  unfold Marked contactRosterRow at h ⊢
  rw [hrows]
  exact h

/-- Marking sets it. -/
theorem marked_markQuarantined (person : Bytes) (s : Store) :
    Marked (markQuarantined person s) person := by
  unfold markQuarantined
  split
  · next row hrow =>
    refine ⟨{ row with quarantined := true }, ?_, rfl⟩
    have hkey : row.personUserId = person := key_of_lookup hrow
    unfold contactRosterRow
    rw [lookup_upsert, if_pos hkey]
  · next hnone =>
    refine ⟨quarantineOnlyRow person, ?_, rfl⟩
    unfold contactRosterRow at hnone ⊢
    unfold lookup at hnone ⊢
    rw [List.find?_append, hnone]
    simp [quarantineOnlyRow]

/-- Reading it gives it, and keeps it. -/
theorem loadState_marked {st : ContactRosterState} (h : Marked s person)
    (hload : loadState P person s = .ok (st, s')) : st.quarantined = true ∧ Marked s' person := by
  obtain ⟨header, hrow, hbit⟩ := h
  unfold loadState at hload
  rw [Tx.get_bind, hrow] at hload
  dsimp only at hload
  split at hload
  · cases hload
    exact ⟨hbit, header, hrow, hbit⟩
  cases hread : readDeviceRows person (s.contactDeviceRows person) with
  | error e =>
    rw [hread] at hload
    cases hload
  | ok rows =>
    rw [hread, Tx.bind_apply_ok (Tx.lift_ok_apply _ s)] at hload
    split at hload
    · cases hload
      rw [hbit]
      exact ⟨rfl, quarantineOnlyRow person, contactRosterRow_selfHeal person s true, rfl⟩
    · cases hload
      exact ⟨hbit, header, hrow, hbit⟩

theorem storedQuarantine_marked {quarantined : Bool} (h : Marked s person)
    (hread : (storedQuarantine P person).Returns s quarantined s') :
    quarantined = true ∧ Marked s' person := by
  obtain ⟨st, hload, rfl⟩ := returns_storedQuarantine.mp hread
  exact loadState_marked h hload

theorem marked_final_storedQuarantine (h : Marked s person) :
    Marked ((storedQuarantine P person).final s) person := by
  cases hread : (storedQuarantine P person).result s with
  | error e =>
    rw [final_storedQuarantine_of_error hread]
    exact h
  | ok quarantined => exact (storedQuarantine_marked h ⟨hread, rfl⟩).2

/-- Opening the store keeps the rows of contacts, and drops those of anybody else. -/
theorem contactRosterRow_openStore (s : Store) (person : Bytes) :
    (openStore.final s).contactRosterRow person =
      if s.isContact person = true then s.contactRosterRow person else none := by
  have hrows : (openStore.final s).contactRosters =
      s.contactRosters.filter fun row => s.isContact row.personUserId :=
    view_openStore (·.contactRosters) (fun _ _ => rfl) (fun _ _ => rfl) (fun _ _ => rfl)
      (fun _ _ => rfl) s
  unfold contactRosterRow lookup
  rw [hrows, List.find?_filter]
  split
  · next hcontact =>
    congr 1
    funext held
    by_cases hheld : held.personUserId = person
    · simp [hheld, hcontact]
    · simp [hheld]
  · next hcontact =>
    refine List.find?_eq_none.mpr fun held _ => ?_
    by_cases hheld : held.personUserId = person
    · simp [hheld, hcontact]
    · simp [hheld]

theorem marked_openStore (h : Marked s person) (hcontact : s.isContact person = true) :
    Marked (openStore.final s) person := by
  unfold Marked
  rw [contactRosterRow_openStore, if_pos hcontact]
  exact h

end Bit

/-! ## Documents under the bit -/

section Documents
variable {P : Primitives} {s : Store} {person : Bytes}

/-- What is held while the quarantine lasts. -/
structure Held (s : Store) (person : Bytes) : Prop where
  roster : ∃ held, s.own.roster = some held ∧ held.personId = person
  marked : Marked s person
  contact : s.isContact person = true

variable {adopt : Prog Store CoreError RevocationAdoption} {incoming : Roster}
  {reason : RosterUpdateReason} {id : Bytes} {nowMs : Int} {answer : RevocationAdoption}
  {anchor : Bytes} {quarantined : Bool} {verdict : RosterUpdateDecision}
  {held : Roster} {event : Event} {s' : Store}

/-- How a document that can be judged is answered: by the verdict, with an adoption that
touches neither the contacts nor their rosters. -/
structure Event.ActsOn (P : Primitives) (s : Store) (event : Event) (held incoming : Roster)
    (anchor : Bytes) (quarantined : Bool) (mid : Store)
    (adopt : Prog Store CoreError RevocationAdoption) : Prop where
  keeps : adopt.Keeps fun s => (s.contacts, s.contactRosters)
  no_fork : ∀ s answer, adopt.result s = .ok answer → answer.outcome ≠ .forkQuarantined
  answer_eq : event.answer P s = some ((actOnVerdict held.personId
    (coreRosterAccept P (some held) quarantined incoming anchor) adopt).result mid)
  next_eq : event.next P s = (actOnVerdict held.personId
    (coreRosterAccept P (some held) quarantined incoming anchor) adopt).final mid

theorem Event.actsOn {mid : Store} (hoffers : event.Offers P s held incoming anchor)
    (hread : (storedQuarantine P held.personId).Returns s quarantined mid) :
    ∃ adopt, event.ActsOn P s held incoming anchor quarantined mid adopt := by
  cases event with
  | reopen => exact hoffers.elim
  | notice document root id nowMs =>
    obtain ⟨hheld, hperson, hoffers⟩ := hoffers
    obtain ⟨hr, hf⟩ := applyOwnRosterNotice_judged id nowMs hoffers ⟨hheld, hperson, hread⟩
    refine ⟨_, ?_, fun s answer h => ?_, congrArg some hr, hf⟩
    · -- what an adoption writes is not in the contact tables
      unfold adoptNotice
      split
      · exact keeps_bind (keeps_transaction (Tx.keeps_modify fun _ => rfl)) fun _ => keeps_pure _
      split
      · exact keeps_pure _
      split
      · exact keeps_pure _
      refine keeps_bind (keeps_write fun _ => rfl) fun _ => ?_
      exact keeps_bind (keeps_projectOwnFleet (fun _ _ _ => rfl) _ _) fun _ => keeps_pure _
    · -- and it is never a fork
      unfold adoptNotice at h
      split at h
      · obtain ⟨_, _, _, hpure⟩ := result_bind_ok h
        cases hpure
        simp
      split at h
      · cases h
        simp
      split at h
      · cases h
        simp
      · obtain ⟨_, _, _, hthen⟩ := result_bind_ok h
        obtain ⟨_, _, _, hpure⟩ := result_bind_ok hthen
        cases hpure
        simp
  | handoff body root device superseded nowMs entropy =>
    obtain ⟨hheld, hperson, rfl, payload, hoffers, rfl⟩ := hoffers
    obtain ⟨hr, hf⟩ := adoptRevocationHandoff_judged hoffers ⟨hheld, hperson, hread⟩
    refine ⟨_, ?_, fun s answer h => ?_, congrArg some hr, hf⟩
    · unfold adoptAnnounced
      dsimp only
      split
      · exact keeps_bind (keeps_transaction (Tx.keeps_modify fun _ => rfl)) fun _ => keeps_pure _
      refine keeps_lift_bind fun _ => ?_
      refine keeps_bind (keeps_resealOwnBacklog fun _ _ => rfl) fun _ => ?_
      refine keeps_bind (fun s => ?_) fun _ => ?_
      · exact throughout_adoptOwnRoster rfl (fun _ _ h => h) fun _ _ h => h
      · exact keeps_bind (keeps_coreSetOwnSyncContext (fun _ _ => rfl) _ _) fun _ => keeps_pure _
    · unfold adoptAnnounced at h
      dsimp only at h
      split at h
      · obtain ⟨_, _, _, hpure⟩ := result_bind_ok h
        cases hpure
        simp
      · obtain ⟨_, _, _, hthen⟩ := result_bind_ok h
        obtain ⟨_, _, _, hthen⟩ := result_bind_ok hthen
        obtain ⟨_, _, _, hthen⟩ := result_bind_ok hthen
        obtain ⟨_, _, _, hpure⟩ := result_bind_ok hthen
        cases hpure
        simp

/-- A document is judged, or the call fails before and has at most read the quarantine. -/
theorem Event.judged_or_failed (event : Event) (hevent : event ≠ .reopen) :
    ((∃ e, event.answer P s = some (.error e)) ∧ AtMostRead P s (event.next P s)) ∨
    ∃ held incoming anchor quarantined mid, event.Offers P s held incoming anchor ∧
      (storedQuarantine P held.personId).Returns s quarantined mid := by
  cases event with
  | reopen => exact absurd rfl hevent
  | notice document root id nowMs =>
    rcases applyOwnRosterNotice_run (P := P) (s := s) document root id nowMs with
      ⟨e, herror, hread⟩ | ⟨held, incoming, anchor, quarantined, mid, hoffers, hjudged, _⟩
    · exact .inl ⟨⟨e, congrArg some herror⟩, hread⟩
    · exact .inr ⟨held, incoming, anchor, quarantined, mid,
        ⟨hjudged.holds, hjudged.person, hoffers⟩, hjudged.read⟩
  | handoff body root device superseded nowMs entropy =>
    rcases adoptRevocationHandoff_run (P := P) (s := s) body root device superseded nowMs entropy with
      ⟨e, herror, hread⟩ | ⟨held, payload, quarantined, mid, hoffers, hjudged, _⟩
    · exact .inl ⟨⟨e, congrArg some herror⟩, hread⟩
    · exact .inr ⟨held, payload.roster, root, quarantined, mid,
        ⟨hjudged.holds, hjudged.person, rfl, payload, hoffers, rfl⟩, hjudged.read⟩

theorem Event.Offers.holds (h : event.Offers P s held incoming anchor) :
    s.own.roster = some held := by
  cases event with
  | reopen => exact h.elim
  | notice document root id nowMs => exact h.1
  | handoff body root device superseded nowMs entropy => exact h.1

/-! ## One event -/

theorem keepsContacts_storedQuarantine (person : Bytes) :
    (storedQuarantine P person).Keeps fun s => s.contacts :=
  keeps_storedQuarantine (fun _ _ _ => rfl) person

theorem own_openStore (s : Store) : (openStore.final s).own = s.own :=
  view_openStore own (fun _ _ => rfl) (fun _ _ => rfl) (fun _ _ => rfl) (fun _ _ => rfl) s

theorem isContact_of_contacts (h : s'.contacts = s.contacts) :
    s'.isContact person = s.isContact person := by
  unfold isContact
  rw [h]

/-- A document that is adopted is the same person's. -/
theorem roster_person_ownStep {own own' : OwnState}
    (h : ∃ held, own.roster = some held ∧ held.personId = person)
    (hstep : OwnStep P own id nowMs own') :
    ∃ held, own'.roster = some held ∧ held.personId = person := by
  obtain ⟨held, hheld, hperson⟩ := h
  cases hstep with
  | stays => exact ⟨held, hheld, hperson⟩
  | @adopts held' incoming hheld' hsame _ =>
    cases hheld.symm.trans hheld'
    exact ⟨incoming, OwnState.adopting_roster P _ _ _, hsame.trans hperson⟩
  | @ejects held' incoming hheld' hsame _ =>
    cases hheld.symm.trans hheld'
    exact ⟨incoming, rfl, hsame.trans hperson⟩

/-- The contacts and the bit, after any event. -/
theorem Held.contact_tables (h : Held s person) (event : Event) :
    (event.next P s).contacts = s.contacts ∧ Marked (event.next P s) person := by
  by_cases hevent : event = .reopen
  · subst hevent
    exact ⟨view_openStore (·.contacts) (fun _ _ => rfl) (fun _ _ => rfl) (fun _ _ => rfl)
      (fun _ _ => rfl) s, marked_openStore h.marked h.contact⟩
  obtain ⟨held, hheld, rfl⟩ := h.roster
  rcases Event.judged_or_failed (P := P) (s := s) event hevent with
    ⟨_, hread⟩ | ⟨held', incoming, anchor, quarantined, mid, hoffers, hread⟩
  · rcases hread with hsame | ⟨held', hheld', hfinal⟩
    · rw [hsame]
      exact ⟨rfl, h.marked⟩
    · cases hheld.symm.trans hheld'
      rw [hfinal]
      exact ⟨(keepsContacts_storedQuarantine _).final s, marked_final_storedQuarantine h.marked⟩
  · cases hheld.symm.trans hoffers.holds
    obtain ⟨adopt, hacts⟩ := Event.actsOn hoffers hread
    obtain ⟨_, hmarked⟩ := storedQuarantine_marked h.marked hread
    have hcontacts := (keepsContacts_storedQuarantine _).returns hread
    rw [hacts.next_eq, actOnVerdict]
    split
    · have hkept := hacts.keeps.final mid
      exact ⟨(congrArg Prod.fst hkept).trans hcontacts,
        marked_of_rows hmarked (congrArg Prod.snd hkept)⟩
    · refine ⟨Eq.trans ?_ hcontacts, marked_markQuarantined _ mid⟩
      show (markQuarantined held.personId mid).contacts = mid.contacts
      unfold markQuarantined
      split <;> rfl
    · exact ⟨hcontacts, hmarked⟩

/-- **What an event keeps.** -/
theorem Held.next (h : Held s person) (event : Event) : Held (event.next P s) person := by
  obtain ⟨hcontacts, hmarked⟩ := h.contact_tables (P := P) event
  refine ⟨?_, hmarked, (isContact_of_contacts hcontacts).trans h.contact⟩
  cases event with
  | reopen =>
    show ∃ held, (openStore.final s).own.roster = some held ∧ _
    rw [own_openStore]
    exact h.roster
  | notice document root id nowMs =>
    exact roster_person_ownStep h.roster (own_applyOwnRosterNotice document root id nowMs)
  | handoff body root device superseded nowMs entropy =>
    exact roster_person_ownStep h.roster
      (own_adoptRevocationHandoff body root device superseded nowMs entropy)

theorem actOnVerdict_fork (h : verdict.outcome = .forkQuarantined) :
    (actOnVerdict person verdict adopt).result s =
        .ok { outcome := .forkQuarantined, reason := verdict.reason } ∧
      (actOnVerdict person verdict adopt).final s = markQuarantined person s := by
  unfold actOnVerdict
  rw [h]
  exact ⟨rfl, rfl⟩

/-- **What an event is answered.** -/
theorem Held.refused (h : Held s person) (hnot : ¬ event.Pierces P s) :
    event.Refused P s := by
  obtain ⟨held, hheld, rfl⟩ := h.roster
  have hverdict : ∀ {held' incoming anchor quarantined mid},
      event.Offers P s held' incoming anchor →
      (storedQuarantine P held'.personId).Returns s quarantined mid →
      (coreRosterAccept P (some held') quarantined incoming anchor).outcome = .forkQuarantined ∧
        (coreRosterAccept P (some held') quarantined incoming anchor).reason =
          .personQuarantined := by
    intro held' incoming anchor quarantined mid hoffers hread
    cases hheld.symm.trans hoffers.holds
    obtain ⟨rfl, _⟩ := storedQuarantine_marked h.marked hread
    unfold coreRosterAccept
    rw [orderingVerdict_quarantined rfl fun hp => hnot ⟨_, incoming, anchor, hoffers, hp⟩]
    exact ⟨rfl, rfl⟩
  constructor
  · by_cases hevent : event = .reopen
    · subst hevent
      exact own_openStore s
    rcases Event.judged_or_failed (P := P) (s := s) event hevent with
      ⟨_, hread⟩ | ⟨held', incoming, anchor, quarantined, mid, hoffers, hread⟩
    · exact hread.own
    · obtain ⟨adopt, hacts⟩ := Event.actsOn hoffers hread
      rw [hacts.next_eq, (actOnVerdict_fork (hverdict hoffers hread).1).2, own_markQuarantined]
      exact (keeps_storedQuarantine (fun _ _ _ => rfl) _).returns hread
  · intro held' incoming anchor hoffers ⟨quarantined, hread⟩
    have hreturns : (storedQuarantine P held'.personId).Returns s quarantined
        ((storedQuarantine P held'.personId).final s) := ⟨hread, rfl⟩
    obtain ⟨adopt, hacts⟩ := Event.actsOn hoffers hreturns
    obtain ⟨hout, hreason⟩ := hverdict hoffers hreturns
    rw [hacts.answer_eq, (actOnVerdict_fork hout).1, hreason]
    rfl

/-! ## Forks -/

/-- The event found a fork of the own roster, or an earlier one. -/
def Event.Forks (P : Primitives) (s : Store) (event : Event) : Prop :=
  ∃ adoption, event.answer P s = some (.ok adoption) ∧ adoption.outcome = .forkQuarantined

/-- A call answers with a fork only because the verdict was one. -/
theorem verdict_of_fork
    (hadopt : ∀ s answer, adopt.result s = .ok answer → answer.outcome ≠ .forkQuarantined)
    (h : (actOnVerdict person verdict adopt).result s = .ok answer)
    (hfork : answer.outcome = .forkQuarantined) :
    verdict.outcome = .forkQuarantined ∧ answer.reason = verdict.reason := by
  unfold actOnVerdict at h
  split at h
  · exact absurd hfork (hadopt s answer h)
  · next hout =>
    cases h
    exact ⟨hout, rfl⟩
  · cases h
    unfold ignoredOutcome at hfork
    split at hfork <;> cases hfork

/-- What a fork leaves: the bit, and nothing else. The document that showed it does not
pierce the quarantine. -/
theorem Event.Forks.spec (h : event.Forks P s) :
    ∃ held incoming anchor quarantined mid, event.Offers P s held incoming anchor ∧
      (storedQuarantine P held.personId).Returns s quarantined mid ∧
      ¬ piercesQuarantine (some held) incoming anchor ∧
      event.next P s = markQuarantined held.personId mid := by
  obtain ⟨answer, hanswer, hfork⟩ := h
  have hevent : event ≠ .reopen := by
    rintro rfl
    cases hanswer
  rcases Event.judged_or_failed (P := P) (s := s) event hevent with
    ⟨⟨e, herror⟩, _⟩ | ⟨held, incoming, anchor, quarantined, mid, hoffers, hread⟩
  · cases herror ▸ hanswer
  obtain ⟨adopt, hacts⟩ := Event.actsOn hoffers hread
  have hresult := Option.some.inj (hacts.answer_eq.symm.trans hanswer)
  obtain ⟨hverdict, _⟩ := verdict_of_fork hacts.no_fork hresult hfork
  refine ⟨held, incoming, anchor, quarantined, mid, hoffers, hread, fun hp => ?_, ?_⟩
  · -- a document that pierces the quarantine is above the held one, so it forks nothing
    rcases coreRosterAccept_fork hverdict with ⟨_, hnot⟩ | ⟨_, hheld, hversion⟩
    · exact hnot hp
    · cases hheld
      exact hp.version_ne hversion
  · rw [hacts.next_eq, (actOnVerdict_fork hverdict).2]

/-! What an event offers is read off the held roster alone. -/

theorem Event.Offers.congr (h : event.Offers P s held incoming anchor) (hown : s'.own = s.own) :
    event.Offers P s' held incoming anchor := by
  cases event with
  | reopen => exact h.elim
  | notice document root id nowMs => exact ⟨hown ▸ h.1, h.2⟩
  | handoff body root device superseded nowMs entropy => exact ⟨hown ▸ h.1, h.2⟩

theorem Event.Offers.unique {held' incoming' : Roster} {anchor' : Bytes}
    (h : event.Offers P s held incoming anchor) (h' : event.Offers P s held' incoming' anchor') :
    held' = held ∧ incoming' = incoming ∧ anchor' = anchor := by
  cases event with
  | reopen => exact h.elim
  | notice document root id nowMs =>
    obtain ⟨hheld, _, hdoc, hanchor⟩ := h
    obtain ⟨hheld', _, hdoc', hanchor'⟩ := h'
    cases hheld'.symm.trans hheld
    exact ⟨rfl, Except.ok.inj (hdoc'.symm.trans hdoc), Except.ok.inj (hanchor'.symm.trans hanchor)⟩
  | handoff body root device superseded nowMs entropy =>
    obtain ⟨hheld, _, rfl, payload, ⟨record, hopen, hpayload⟩, rfl⟩ := h
    obtain ⟨hheld', _, rfl, payload', ⟨record', hopen', hpayload'⟩, rfl⟩ := h'
    cases hheld'.symm.trans hheld
    cases hopen'.symm.trans hopen
    cases hpayload'.symm.trans hpayload
    exact ⟨rfl, rfl, rfl⟩

/-- Without the bit no document is answered with the quarantine. -/
theorem accept_unquarantined (stored : Option Roster) (incoming : Roster) (anchor : Bytes) :
    (coreRosterAccept P stored false incoming anchor).reason ≠ .personQuarantined := by
  show (orderingVerdict P stored false incoming anchor).reason ≠ .personQuarantined
  unfold orderingVerdict
  rw [if_neg (fun h => Bool.false_ne_true h.1)]
  cases validate P incoming anchor with
  | error rejection => simp [invalid, decision]
  | ok u =>
    cases stored with
    | none => simp [decision]
    | some held =>
      dsimp only
      split_ifs <;> simp [invalid, decision]

end Documents

/-! ## Histories -/

section Histories
variable {P : Primitives} {s : Store} {event : Event} {held : Roster}

/-- After a fork of the own roster, documents stay refused through every restart exactly
when the own person is a contact. -/
theorem quarantine_survives_iff (hheld : s.ownRoster = some held) (hfork : event.Forks P s) :
    StaysQuarantined P (event.next P s) ↔ s.isContact held.personId = true := by
  obtain ⟨held', incoming, anchor, quarantined, mid, hoffers, hread, hpierce, hnext⟩ := hfork.spec
  cases hheld.symm.trans hoffers.holds
  have hown : (event.next P s).own = s.own := by
    rw [hnext, own_markQuarantined]
    exact (keeps_storedQuarantine (fun _ _ _ => rfl) _).returns hread
  have hcontacts : (event.next P s).contacts = s.contacts := by
    rw [hnext]
    have hmark : (markQuarantined held.personId mid).contacts = mid.contacts := by
      unfold markQuarantined
      split <;> rfl
    exact hmark.trans ((keepsContacts_storedQuarantine _).returns hread)
  constructor
  · intro hstays
    by_contra hcontact
    -- one restart, and the same document again
    have hopened : storeAt P (event.next P s) [.reopen, event] 1 =
        openStore.final (event.next P s) := rfl
    have hown' : (openStore.final (event.next P s)).own = s.own := (own_openStore _).trans hown
    have hoffers' := hoffers.congr hown'
    have hforgot : (openStore.final (event.next P s)).contactRosterRow held.personId = none := by
      rw [contactRosterRow_openStore, isContact_of_contacts hcontacts, if_neg hcontact]
    have hagain : event.Refused P (openStore.final (event.next P s)) := by
      refine hstays [.reopen, event] 1 (by simp) ?_
      rintro ⟨held', incoming', anchor', hoffers'', hpierce'⟩
      obtain ⟨rfl, rfl, rfl⟩ := hoffers'.unique hoffers''
      exact hpierce hpierce'
    have hread := storedQuarantine_none (P := P) hforgot
    have hanswer := hagain.answered held incoming anchor hoffers' ⟨false, hread.1⟩
    obtain ⟨adopt, hacts⟩ := Event.actsOn hoffers' hread
    have hresult := Option.some.inj (hacts.answer_eq.symm.trans hanswer)
    obtain ⟨_, hreason⟩ := verdict_of_fork hacts.no_fork hresult rfl
    exact accept_unquarantined (some held) incoming anchor hreason.symm
  · intro hcontact events n hn hnot
    have hstart : Held (event.next P s) held.personId := by
      refine ⟨⟨held, hown ▸ hheld, rfl⟩, ?_, ?_⟩
      · rw [hnext]
        exact marked_markQuarantined _ _
      · rw [isContact_of_contacts hcontacts]
        exact hcontact
    exact (stateAt_invariant (Held · held.personId) (fun _ event hs => hs.next event)
      hstart n).refused hnot

end Histories

namespace Forked
open Sample

/-- Another roster at the version of the roster of two. -/
def forkRoster : Roster :=
  Roster.signedBy primitives
    { firstRoster with
      seq := 1
      devices := firstRoster.devices ++ [certBy (secretKey 2) (publicKey (secretKey 4)) 0 0] }
    (secretKey 2)

/-- The first device links a third one. -/
def trioRoster : Roster :=
  Roster.signedBy primitives
    { pairRoster with
      seq := 2
      devices := pairRoster.devices ++ [certBy (secretKey 2) (publicKey (secretKey 4)) 0 0] }
    (secretKey 2)

/-- A notice of the roster, to the sample device. -/
def noticeOf (roster : Roster) : Event :=
  .notice ((coreEncodeRoster roster).toOption.getD []) personRoot device.deviceId 300

/-- The sample device, with a contact that has its own person's id. -/
def selfContactStore : Store :=
  { pairStore with
    contacts := [{ userId := person, name := [109, 101], signPk := personRoot
                   agreePk := secretKey 9 }] }

end Forked

open Forked Sample in
/-- Where the own person is a contact, the sample fork is remembered for good. -/
theorem quarantine_survives_iff_contact :
    (noticeOf forkRoster).Forks primitives selfContactStore ∧
    StaysQuarantined primitives ((noticeOf forkRoster).next primitives selfContactStore) := by
  have hfork : (noticeOf forkRoster).Forks primitives selfContactStore :=
    ⟨{ outcome := .forkQuarantined, reason := .forkedContent }, by decide +kernel, rfl⟩
  have hheld : selfContactStore.ownRoster = some pairRoster := rfl
  exact ⟨hfork, (quarantine_survives_iff hheld hfork).mpr (by decide +kernel)⟩

open Forked Sample in
/-- A fork is found, and a successor signed by a device is refused; the store is closed and
opened, and the same successor is adopted. -/
theorem restart_forgets_quarantine :
    ((noticeOf forkRoster).answer primitives pairStore).map (·.toOption.map (·.outcome)) =
      some (some .forkQuarantined) ∧
    (noticeOf trioRoster).answer primitives ((noticeOf forkRoster).next primitives pairStore) =
      some (.ok quarantinedAnswer) ∧
    trioRoster.recoveryEpoch = pairRoster.recoveryEpoch ∧
    trioRoster.signerSignPk ≠ personRoot ∧
    ((noticeOf trioRoster).answer primitives (Event.next primitives
      ((noticeOf forkRoster).next primitives pairStore) .reopen)).map
        (·.toOption.map (·.outcome)) = some (some .adopted) := by
  decide +kernel

end CruiseMesh.Quarantine
