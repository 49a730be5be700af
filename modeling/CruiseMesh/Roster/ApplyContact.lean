import CruiseMesh.Roster.ContactStore

/-!
# Applying a contact's roster

`MessageStore::apply_contact_roster`: look the contact up, load what is held, ask
`core_roster_accept`, record what changed about the contact's safety state, and write
the verdict down, all in one transaction.

`ContactRosterState.absorb` is the same step on the state alone, and the store follows it: the
document's own contact moves by `absorb` (`applyContactRoster_self`), and everybody else's rows
stay what they were (`applyContactRoster_other`).
-/

namespace CruiseMesh
open Durable Prog

/-! ## Changed safety states -/

/-- Why a contact's safety state changed. -/
inductive ContactSafetyReason where
  | deviceRevoked
  | identityRecovered
  | rosterForked

/-- The stable on-disk code. -/
def ContactSafetyReason.wire : ContactSafetyReason → Nat
  | .deviceRevoked => 1
  | .identityRecovered => 2
  | .rosterForked => 3

structure ContactSafetyChange where
  reason : ContactSafetyReason
  deviceIds : List Bytes
  recoveryEpoch : Nat
  seq : Nat

/-- `core_roster_newly_revoked`. -/
def coreRosterNewlyRevoked (previous : Option Roster) (current : Roster) : List Bytes :=
  let known := (previous.map Roster.tombstoneIds).getD []
  (current.tombstones.filter fun tombstone => tombstone.deviceId ∉ known).map (·.deviceId)

/-- `core_roster_safety_changes`: fork, recovery and revocation, in this order. A first
roster is an introduction, not a change. -/
def coreRosterSafetyChanges (previous : Option Roster) (incoming : Roster)
    (verdict : RosterUpdateDecision) : List ContactSafetyChange :=
  match previous with
  | none => []
  | some previous =>
    match verdict.outcome with
    | .forkQuarantined =>
      if verdict.reason = .forkedContent then
        [{ reason := .rosterForked, deviceIds := [], recoveryEpoch := previous.recoveryEpoch,
           seq := previous.seq }]
      else []
    | .accepted =>
      let revoked := coreRosterNewlyRevoked (some previous) incoming
      (if previous.recoveryEpoch < incoming.recoveryEpoch then
        [{ reason := .identityRecovered, deviceIds := [], recoveryEpoch := incoming.recoveryEpoch,
           seq := incoming.seq }]
      else []) ++
      if revoked ≠ [] then
        [{ reason := .deviceRevoked, deviceIds := revoked, recoveryEpoch := incoming.recoveryEpoch,
           seq := incoming.seq }]
      else []
    | .ignored => []

/-- One `INSERT OR IGNORE` of `record_changes`. An ignored row takes no id. -/
def recordChange (personUserId : Bytes) (s : Store) (change : ContactSafetyChange) : Store :=
  let row : ContactSafetyFactRow :=
    { id := s.lastSafetyFactId + 1, personUserId, reason := change.reason.wire,
      recoveryEpoch := change.recoveryEpoch, seq := change.seq,
      deviceIds := change.deviceIds.flatten, acknowledged := false }
  if ∃ held ∈ s.contactSafetyFacts,
      (held.personUserId, held.reason, held.recoveryEpoch, held.seq) =
        (row.personUserId, row.reason, row.recoveryEpoch, row.seq) then s
  else
    { s with contactSafetyFacts := s.contactSafetyFacts ++ [row],
             lastSafetyFactId := s.lastSafetyFactId + 1 }

/-- `record_changes`. -/
def recordChanges (personUserId : Bytes) (changes : List ContactSafetyChange) (s : Store) : Store :=
  changes.foldl (recordChange personUserId) s

/-! ## The transaction -/

/-- A new recovery epoch reopens the contact's relay endpoint for an update. -/
def resetRelayEpoch (userId : Bytes) (s : Store) : Store :=
  { s with
    contacts := Table.update (·.userId) userId (fun row => { row with relayEpoch := 0 }) s.contacts }

section Apply
variable (P : Primitives)

/-- The verdict on a document about somebody who is not a contact. -/
def strangerVerdict (incoming : Roster) : RosterUpdateDecision where
  outcome := .ignored
  reason := .invalid
  rejection := some .personMismatch
  quarantined := false
  deviceCountOutcome := nonSurfacingDeviceCountOutcome incoming.deviceCountOutcome

/-- The verdict the contact path returns: `core_roster_accept`'s, with the soft-cap
warning stripped. -/
def contactVerdict (state : ContactRosterState) (incoming : Roster) (personRootSignPk : Bytes) :
    RosterUpdateDecision :=
  let verdict := coreRosterAccept P state.roster state.quarantined incoming personRootSignPk
  { verdict with
    deviceCountOutcome := nonSurfacingDeviceCountOutcome verdict.deviceCountOutcome }

/-- Write the verdict down. -/
def writeVerdict (previous : Option Roster) (incoming : Roster) (verdict : RosterUpdateDecision) :
    Tx Store CoreError Unit :=
  match verdict.outcome with
  | .accepted => do
    saveRoster P incoming verdict.quarantined
    if previous.any fun held => held.recoveryEpoch < incoming.recoveryEpoch then
      modify (resetRelayEpoch incoming.personId)
  | .forkQuarantined => modify (setQuarantined incoming.personId true)
  | .ignored => pure ()

/-- `apply_contact_roster`. -/
def applyContactRoster (incoming : Roster) : Prog Store CoreError RosterUpdateDecision :=
  transaction do
    let s ← get
    match s.contactSignPk incoming.personId with
    | none => pure (strangerVerdict incoming)
    | some personRootSignPk => do
      let state ← loadState P incoming.personId
      let verdict := contactVerdict P state incoming personRootSignPk
      modify (recordChanges incoming.personId
        (coreRosterSafetyChanges state.roster incoming verdict))
      writeVerdict P state.roster incoming verdict
      pure verdict

/-- What a document about this contact does to the held state. -/
def ContactRosterState.absorb (root : Bytes) (st : ContactRosterState) (incoming : Roster) :
    ContactRosterState :=
  match (coreRosterAccept P st.roster st.quarantined incoming root).outcome with
  | .accepted => ⟨some incoming, false⟩
  | .forkQuarantined => ⟨st.roster, true⟩
  | .ignored => st

end Apply

/-! ## The store follows the state -/

section Follows
variable {P : Primitives} {s s' : Store} {person : Bytes} {st : ContactRosterState}

theorem sameRows_recordChanges (who : Bytes) (changes : List ContactSafetyChange) :
    SameRows person s (recordChanges who changes s) := by
  unfold recordChanges
  induction changes generalizing s with
  | nil => exact ⟨rfl, rfl, rfl⟩
  | cons change rest ih =>
    rw [List.foldl_cons]
    have hone : SameRows person s (recordChange who s change) := by
      unfold recordChange
      dsimp only
      split
      · exact ⟨rfl, rfl, rfl⟩
      · exact ⟨rfl, rfl, rfl⟩
    exact hone.trans ih

theorem sameRows_resetRelayEpoch (who : Bytes) : SameRows person s (resetRelayEpoch who s) := by
  refine ⟨?_, rfl, rfl⟩
  unfold Store.contactSignPk resetRelayEpoch
  rw [Table.lookup_update]
  · split
    · rw [Option.map_map]; rfl
    · rfl
  · intro row
    rfl

variable {root : Bytes} {incoming : Roster}

/-- Writing an accepted verdict: the document is saved, and at most the relay epoch
moves beside it. -/
theorem writeVerdict_accepted {previous : Option Roster} {verdict : RosterUpdateDecision}
    (hout : verdict.outcome = .accepted) (hvalid : ValidRoster P incoming root) :
    ∃ s', writeVerdict P previous incoming verdict s = .ok ((), s') ∧
      ∀ who, SameRows who (savedRoster P incoming verdict.quarantined s) s' := by
  unfold writeVerdict
  rw [hout]
  dsimp only
  rw [Tx.bind_apply_ok (saveRoster_of_valid hvalid)]
  split
  · exact ⟨_, rfl, fun who => sameRows_resetRelayEpoch _⟩
  · exact ⟨_, rfl, fun who => ⟨rfl, rfl, rfl⟩⟩

/-- The transaction, past the lookup of the contact and the read of what is held. -/
theorem applyContactRoster_of_load (hroot : s.contactSignPk incoming.personId = some root)
    {s₁ s₂ : Store} (hload : loadState P incoming.personId s = .ok (st, s₁))
    (hwrite : writeVerdict P st.roster incoming (contactVerdict P st incoming root)
      (recordChanges incoming.personId
        (coreRosterSafetyChanges st.roster incoming (contactVerdict P st incoming root)) s₁) =
      .ok ((), s₂)) :
    (applyContactRoster P incoming).result s = .ok (contactVerdict P st incoming root) ∧
      (applyContactRoster P incoming).final s = s₂ := by
  refine transaction_ok ?_
  rw [Tx.get_bind, hroot]
  dsimp only
  rw [Tx.bind_apply_ok hload, Tx.bind_apply_ok (Tx.modify_apply _ s₁), Tx.bind_apply_ok hwrite]
  rfl

/-- **A document about the contact moves the held state by `absorb`.** -/
theorem applyContactRoster_self (hroot : s.contactSignPk incoming.personId = some root)
    (h : Holds P s incoming.personId st) :
    (applyContactRoster P incoming).result s = .ok (contactVerdict P st incoming root) ∧
      Holds P ((applyContactRoster P incoming).final s) incoming.personId
        (st.absorb P root incoming) ∧
      ((applyContactRoster P incoming).final s).contactSignPk incoming.personId = some root := by
  have hload := loadState_of_holds h
  have hrecord : SameRows incoming.personId s (recordChanges incoming.personId
      (coreRosterSafetyChanges st.roster incoming (contactVerdict P st incoming root)) s) :=
    sameRows_recordChanges _ _
  have hroot' := hrecord.signPk.trans hroot
  have h' := h.congr hrecord
  unfold ContactRosterState.absorb
  cases hout : (coreRosterAccept P st.roster st.quarantined incoming root).outcome with
  | accepted =>
    have hvalid := (coreRosterAccept_accepted_iff.mp hout).2.1
    have hbit : (contactVerdict P st incoming root).quarantined = false :=
      coreRosterAccept_quarantined_of_accepted hout
    obtain ⟨s₂, hwrite, hsame⟩ := writeVerdict_accepted (P := P) hout hvalid
    obtain ⟨hres, hfinal⟩ := applyContactRoster_of_load hroot hload hwrite
    rw [hfinal]
    refine ⟨hres, ?_, ?_⟩
    · rw [← hbit]
      exact (holds_savedRoster hvalid).congr (hsame _)
    · exact (hsame _).signPk.trans hroot'
  | forkQuarantined =>
    have hstored : st.roster ≠ none ∨ st.quarantined = true := by
      rcases coreRosterAccept_fork hout with ⟨hq, _⟩ | ⟨held, hheld, _⟩
      · exact .inr hq
      · exact .inl (by rw [hheld]; exact Option.some_ne_none held)
    have hwrite : ∀ t, writeVerdict P st.roster incoming (contactVerdict P st incoming root) t =
        .ok ((), setQuarantined incoming.personId true t) := by
      intro t
      unfold writeVerdict
      rw [show (contactVerdict P st incoming root).outcome = _ from hout]
      rfl
    obtain ⟨hres, hfinal⟩ := applyContactRoster_of_load hroot hload (hwrite _)
    rw [hfinal]
    exact ⟨hres, h'.setQuarantined_self hstored, hroot'⟩
  | ignored =>
    have hwrite : ∀ t, writeVerdict P st.roster incoming (contactVerdict P st incoming root) t =
        .ok ((), t) := by
      intro t
      unfold writeVerdict
      rw [show (contactVerdict P st incoming root).outcome = _ from hout]
      rfl
    obtain ⟨hres, hfinal⟩ := applyContactRoster_of_load hroot hload (hwrite _)
    rw [hfinal]
    exact ⟨hres, h', hroot'⟩

theorem writeVerdict_sameRows {u : Unit} (hne : incoming.personId ≠ person)
    (h : writeVerdict P st.roster incoming (contactVerdict P st incoming root) s = .ok (u, s')) :
    SameRows person s s' := by
  cases hout : (contactVerdict P st incoming root).outcome with
  | accepted =>
    have hvalid := (coreRosterAccept_accepted_iff.mp hout).2.1
    obtain ⟨s₂, hwrite, hsame⟩ := writeVerdict_accepted (P := P) hout hvalid
    obtain rfl : s₂ = s' := (ok_pair_inj (hwrite.symm.trans h)).2
    exact (sameRows_savedRoster hne).trans (hsame person)
  | forkQuarantined =>
    unfold writeVerdict at h
    rw [hout] at h
    cases h
    exact ⟨rfl, by rw [contactRosterRow_setQuarantined, if_neg hne], rfl⟩
  | ignored =>
    unfold writeVerdict at h
    rw [hout] at h
    cases h
    exact ⟨rfl, rfl, rfl⟩

/-- A document about somebody else leaves this contact's rows alone, whatever becomes
of it. -/
theorem applyContactRoster_other (hne : incoming.personId ≠ person) :
    SameRows person s ((applyContactRoster P incoming).final s) := by
  refine transaction_final ⟨rfl, rfl, rfl⟩ ?_
  intro verdict s' hbody
  rw [Tx.get_bind] at hbody
  cases hroot : s.contactSignPk incoming.personId with
  | none =>
    rw [hroot] at hbody
    cases hbody
    exact ⟨rfl, rfl, rfl⟩
  | some root =>
    rw [hroot] at hbody
    obtain ⟨st, s₁, hload, hbody⟩ := Tx.bind_eq_ok.mp hbody
    obtain ⟨_, s₂, hrecord, hbody⟩ := Tx.bind_eq_ok.mp hbody
    cases hrecord
    obtain ⟨_, s₃, hwrite, hbody⟩ := Tx.bind_eq_ok.mp hbody
    obtain rfl : s₃ = s' := (ok_pair_inj hbody).2
    exact (loadState_sameRows hne hload).trans
      ((sameRows_recordChanges _ _).trans (writeVerdict_sameRows hne hwrite))

end Follows

/-! ## What it leaves alone -/

section Frames
variable {P : Primitives} {τ : Type} {view : Store → τ}

theorem view_recordChanges
    (hfacts : ∀ s facts lastId,
      view { s with contactSafetyFacts := facts, lastSafetyFactId := lastId } = view s)
    (personUserId : Bytes) : ∀ (changes : List ContactSafetyChange) (s : Store),
      view (recordChanges personUserId changes s) = view s
  | [], _ => rfl
  | change :: rest, s => by
    have hone : view (recordChange personUserId s change) = view s := by
      unfold recordChange
      dsimp only
      split
      · rfl
      · exact hfacts s _ _
    exact (view_recordChanges hfacts personUserId rest _).trans hone

/-- The view sees none of the contact tables. -/
structure ContactFrame (view : Store → τ) : Prop where
  rosters : ∀ s rosters devices,
    view { s with contactRosters := rosters, contactDevices := devices } = view s
  facts : ∀ s facts lastId,
    view { s with contactSafetyFacts := facts, lastSafetyFactId := lastId } = view s
  contacts : ∀ s contacts, view { s with contacts } = view s

/-- A document about a contact is written to the contact's own tables. -/
theorem keeps_applyContactRoster (h : ContactFrame view) (incoming : Roster) :
    (applyContactRoster P incoming).Keeps view := by
  refine keeps_transaction (Tx.keeps_bind Tx.keeps_get fun s => ?_)
  split
  · exact Tx.keeps_pure _
  refine Tx.keeps_bind (keeps_loadState h.rosters _) fun state => ?_
  refine Tx.keeps_bind (Tx.keeps_modify fun s => view_recordChanges h.facts _ _ s) fun _ => ?_
  refine Tx.keeps_bind ?_ fun _ => Tx.keeps_pure _
  unfold writeVerdict
  split
  · refine Tx.keeps_bind (keeps_saveRoster h.rosters _ _) fun _ => ?_
    split
    · exact Tx.keeps_modify fun s => h.contacts s _
    · exact Tx.keeps_pure _
  · exact Tx.keeps_modify fun s => h.rosters s _ s.contactDevices
  · exact Tx.keeps_pure _

end Frames
end CruiseMesh
