import CruiseMesh.Roster.Validate
import CruiseMesh.Sample

/-!
# Accepting a roster

`core_roster_accept` of `device_roster.rs`: given what is stored for a person and
the document that arrived, keep, replace or quarantine. It is pure; the store calls
it and writes down what it says.

`ordering_verdict` has ten exits. `coreRosterAccept_accepted_iff` says which
documents reach the accepting ones: the document is valid, it supersedes whatever
is stored, and a quarantine is pierced only by the person root at a strictly higher
recovery epoch. The invariants of whole runs are read off that lemma, never off the
function itself.
-/

namespace CruiseMesh

inductive RosterUpdateOutcome where
  | accepted
  | ignored
  | forkQuarantined
deriving DecidableEq

inductive RosterUpdateReason where
  | firstRoster
  | superseded
  | rollback
  | idempotentRepeat
  | forkedContent
  | personQuarantined
  | invalid
  | recoveryEpochRequiresRoot
  | tombstoneResurrected
  | inboxGenerationRegressed
  | versionJumpTooLarge
deriving DecidableEq

/-- The verdict, plus the quarantine bit the caller must persist. -/
structure RosterUpdateDecision where
  outcome : RosterUpdateOutcome
  reason : RosterUpdateReason
  rejection : Option RosterRejection
  quarantined : Bool
  deviceCountOutcome : DeviceAddOutcome
deriving DecidableEq

/-- How far above the stored version a single document may claim to be. -/
def rosterMaxVersionJump : Nat := 1000000

def decision (outcome : RosterUpdateOutcome) (reason : RosterUpdateReason) (quarantined : Bool) :
    RosterUpdateDecision :=
  { outcome, reason, rejection := none, quarantined, deviceCountOutcome := .added }

def invalid (rejection : RosterRejection) : RosterUpdateDecision :=
  { decision .ignored .invalid false with rejection := some rejection }

/-- The person root at a strictly higher recovery epoch is heard through a
quarantine. -/
def piercesQuarantine (stored : Option Roster) (incoming : Roster) (personRootSignPk : Bytes) :
    Prop :=
  match stored with
  | none => False
  | some stored => stored.personId = incoming.personId ∧
      stored.recoveryEpoch < incoming.recoveryEpoch ∧ incoming.signerSignPk = personRootSignPk

instance (stored : Option Roster) (incoming : Roster) (root : Bytes) :
    Decidable (piercesQuarantine stored incoming root) :=
  match stored with
  | none => inferInstanceAs (Decidable False)
  | some _ => inferInstanceAs (Decidable (_ ∧ _ ∧ _))

section Accept
variable (P : Primitives)

/-- The document climbs further above the stored one than any honest sequence of
ceremonies could. -/
def jumpTooLarge (stored incoming : Roster) : Prop :=
  incoming.recoveryEpoch - stored.recoveryEpoch > rosterMaxVersionJump ∨
    (incoming.recoveryEpoch = stored.recoveryEpoch ∧
      incoming.seq - stored.seq > rosterMaxVersionJump)

instance (stored incoming : Roster) : Decidable (jumpTooLarge stored incoming) :=
  inferInstanceAs (Decidable (_ ∨ _))

/-- The document forgets one of the stored burials, or exhumes it. -/
def resurrects (stored incoming : Roster) : Prop :=
  ∃ tombstone ∈ stored.tombstones,
    tombstone.deviceId ∉ incoming.tombstoneIds ∨ tombstone.deviceId ∈ incoming.deviceIds P

instance (stored incoming : Roster) : Decidable (resurrects P stored incoming) :=
  inferInstanceAs (Decidable (∃ _ ∈ stored.tombstones, _ ∨ _))

/-- `ordering_verdict`: everything `core_roster_accept` decides except the device
cap. -/
def orderingVerdict (stored : Option Roster) (storedQuarantined : Bool) (incoming : Roster)
    (personRootSignPk : Bytes) : RosterUpdateDecision :=
  if storedQuarantined = true ∧ ¬ piercesQuarantine stored incoming personRootSignPk then
    decision .forkQuarantined .personQuarantined true
  else
    match validate P incoming personRootSignPk with
    | .error rejection => invalid rejection
    | .ok () =>
      match stored with
      | none => decision .accepted .firstRoster false
      | some stored =>
        if stored.personId ≠ incoming.personId then invalid .personMismatch
        else if incoming.version < stored.version then decision .ignored .rollback false
        else if incoming.version = stored.version then
          if rosterHeadHash P stored = rosterHeadHash P incoming then
            decision .ignored .idempotentRepeat false
          else decision .forkQuarantined .forkedContent true
        else if jumpTooLarge stored incoming then decision .ignored .versionJumpTooLarge false
        else if stored.recoveryEpoch < incoming.recoveryEpoch ∧
            incoming.signerSignPk ≠ personRootSignPk then
          decision .ignored .recoveryEpochRequiresRoot false
        else if resurrects P stored incoming then decision .ignored .tombstoneResurrected false
        else if incoming.recoveryEpoch = stored.recoveryEpoch ∧
            incoming.inboxKeyGeneration < stored.inboxKeyGeneration then
          decision .ignored .inboxGenerationRegressed false
        else decision .accepted .superseded false

/-- `core_roster_accept`. -/
def coreRosterAccept (stored : Option Roster) (storedQuarantined : Bool) (incoming : Roster)
    (personRootSignPk : Bytes) : RosterUpdateDecision :=
  { orderingVerdict P stored storedQuarantined incoming personRootSignPk with
    deviceCountOutcome := incoming.deviceCountOutcome }

/-- The soft-cap warning is never surfaced about a contact. -/
def nonSurfacingDeviceCountOutcome : DeviceAddOutcome → DeviceAddOutcome
  | .addedWithWarning => .added
  | other => other

end Accept

/-! ## Which documents are accepted -/

/-- What a document must be, against the stored roster, to replace it. -/
structure Supersedes (P : Primitives) (stored incoming : Roster) (root : Bytes) : Prop where
  person : stored.personId = incoming.personId
  version : stored.version < incoming.version
  jump : ¬ jumpTooLarge stored incoming
  epoch : stored.recoveryEpoch < incoming.recoveryEpoch → incoming.signerSignPk = root
  buried : ∀ id ∈ stored.tombstoneIds, id ∈ incoming.tombstoneIds ∧ id ∉ incoming.deviceIds P
  generation : incoming.recoveryEpoch = stored.recoveryEpoch →
    stored.inboxKeyGeneration ≤ incoming.inboxKeyGeneration

section Verdicts
variable {P : Primitives} {stored : Option Roster} {quarantined : Bool} {incoming : Roster}
  {root : Bytes}

theorem not_resurrects_iff {stored : Roster} : ¬ resurrects P stored incoming ↔
    ∀ id ∈ stored.tombstoneIds, id ∈ incoming.tombstoneIds ∧ id ∉ incoming.deviceIds P := by
  simp [resurrects, Roster.tombstoneIds]

/-- The exits of `ordering_verdict` on a valid document: it is accepted over what is
stored, it is ignored, or it is a fork of it. -/
theorem orderingVerdict_some {held : Roster}
    (hq : ¬ (quarantined = true ∧ ¬ piercesQuarantine (some held) incoming root))
    (hvalid : validate P incoming root = .ok ()) :
    (Supersedes P held incoming root ∧
      orderingVerdict P (some held) quarantined incoming root =
        decision .accepted .superseded false) ∨
    (¬ Supersedes P held incoming root ∧
      (orderingVerdict P (some held) quarantined incoming root).outcome = .ignored ∧
      (orderingVerdict P (some held) quarantined incoming root).quarantined = false) ∨
    (¬ Supersedes P held incoming root ∧ incoming.version = held.version ∧
      rosterHeadHash P held ≠ rosterHeadHash P incoming ∧
      orderingVerdict P (some held) quarantined incoming root =
        decision .forkQuarantined .forkedContent true) := by
  unfold orderingVerdict
  rw [if_neg hq, hvalid]
  dsimp only
  split
  · next hperson => exact .inr (.inl ⟨fun h => hperson h.person, rfl, rfl⟩)
  next hperson =>
  split
  · next hlt => exact .inr (.inl ⟨fun h => absurd (h.version.trans hlt) (lt_irrefl _), rfl, rfl⟩)
  next hlt =>
  split
  · next heq =>
    have hnot : ¬ Supersedes P held incoming root := fun h =>
      absurd h.version (by rw [heq]; exact lt_irrefl _)
    split
    · exact .inr (.inl ⟨hnot, rfl, rfl⟩)
    · next hhead => exact .inr (.inr ⟨hnot, heq, hhead, rfl⟩)
  next hne =>
  split
  · next hjump => exact .inr (.inl ⟨fun h => h.jump hjump, rfl, rfl⟩)
  next hjump =>
  split
  · next hepoch => exact .inr (.inl ⟨fun h => hepoch.2 (h.epoch hepoch.1), rfl, rfl⟩)
  next hepoch =>
  split
  · next hres => exact .inr (.inl ⟨fun h => not_resurrects_iff.mpr h.buried hres, rfl, rfl⟩)
  next hres =>
  split
  · next hgen => exact .inr (.inl ⟨fun h => absurd (h.generation hgen.1) (by omega), rfl, rfl⟩)
  next hgen =>
  refine .inl ⟨⟨not_not.mp hperson, ?_, hjump, ?_, not_resurrects_iff.mp hres, ?_⟩, rfl⟩
  · exact lt_of_le_of_ne (not_lt.mp hlt) (Ne.symm hne)
  · intro hlt'
    by_contra hsigner
    exact hepoch ⟨hlt', hsigner⟩
  · intro hsame
    by_contra hless
    exact hgen ⟨hsame, by omega⟩

/-- A quarantine that is not pierced answers every document the same way. -/
theorem orderingVerdict_quarantined (hq : quarantined = true)
    (hp : ¬ piercesQuarantine stored incoming root) :
    orderingVerdict P stored quarantined incoming root =
      decision .forkQuarantined .personQuarantined true := if_pos ⟨hq, hp⟩

/-- A document that may replace what is stored, whatever the quarantine bit says. -/
def Acceptable (P : Primitives) (stored : Option Roster) (incoming : Roster) (root : Bytes) :
    Prop :=
  ValidRoster P incoming root ∧ ∀ held, stored = some held → Supersedes P held incoming root

variable (P stored quarantined incoming root) in
/-- **The verdicts.** The quarantine stands; or the document is judged on its own, and is accepted,
ignored, or a fork at the stored version. -/
theorem coreRosterAccept_cases :
    let verdict := coreRosterAccept P stored quarantined incoming root
    ((quarantined = true ∧ ¬ piercesQuarantine stored incoming root) ∧
      verdict.outcome = .forkQuarantined) ∨
    ((quarantined = true → piercesQuarantine stored incoming root) ∧
      ((Acceptable P stored incoming root ∧ verdict.outcome = .accepted ∧
          verdict.quarantined = false) ∨
        (¬ Acceptable P stored incoming root ∧ verdict.outcome = .ignored ∧
          verdict.quarantined = false) ∨
        (¬ Acceptable P stored incoming root ∧ verdict.outcome = .forkQuarantined ∧
          ∃ held, stored = some held ∧ incoming.version = held.version))) := by
  dsimp only [coreRosterAccept]
  by_cases hq : quarantined = true ∧ ¬ piercesQuarantine stored incoming root
  · -- quarantined and not pierced: refused before anything is looked at
    rw [orderingVerdict_quarantined hq.1 hq.2]
    exact .inl ⟨hq, rfl⟩
  refine .inr ⟨fun hqt => not_not.mp fun hp => hq ⟨hqt, hp⟩, ?_⟩
  unfold Acceptable
  rw [← validate_eq_ok_iff]
  cases hv : validate P incoming root with
  | error rejection =>
    unfold orderingVerdict
    rw [if_neg hq, hv]
    exact .inr (.inl ⟨fun h => (nomatch h.1), rfl, rfl⟩)
  | ok u =>
    cases stored with
    | none =>
      unfold orderingVerdict
      rw [if_neg hq, hv]
      exact .inl ⟨⟨rfl, fun _ h => (nomatch h)⟩, rfl, rfl⟩
    | some held =>
      rcases orderingVerdict_some hq hv with ⟨hsup, heq⟩ | ⟨hnot, hbits⟩ | ⟨hnot, hver, _, heq⟩
      · rw [heq]
        exact .inl ⟨⟨rfl, fun _ h => Option.some.inj h ▸ hsup⟩, rfl, rfl⟩
      · exact .inr (.inl ⟨fun h => hnot (h.2 held rfl), hbits⟩)
      · rw [heq]
        exact .inr (.inr ⟨fun h => hnot (h.2 held rfl), rfl, held, rfl, hver⟩)

/-- **The accepted documents.** -/
theorem coreRosterAccept_accepted_iff :
    (coreRosterAccept P stored quarantined incoming root).outcome = .accepted ↔
      (quarantined = true → piercesQuarantine stored incoming root) ∧
      ValidRoster P incoming root ∧
      ∀ held, stored = some held → Supersedes P held incoming root := by
  rcases coreRosterAccept_cases P stored quarantined incoming root with ⟨hq, hout⟩ |
    ⟨hp, ⟨hacc, hout, _⟩ | ⟨hnot, hout, _⟩ | ⟨hnot, hout, _⟩⟩ <;> rw [hout]
  · exact iff_of_false (by decide) fun h => hq.2 (h.1 hq.1)
  · exact iff_of_true rfl ⟨hp, hacc⟩
  · exact iff_of_false (by decide) fun h => hnot h.2
  · exact iff_of_false (by decide) fun h => hnot h.2

/-- The quarantine bit of a verdict: down on an accepted document, up on a fork. -/
theorem coreRosterAccept_quarantined_of_accepted
    (h : (coreRosterAccept P stored quarantined incoming root).outcome = .accepted) :
    (coreRosterAccept P stored quarantined incoming root).quarantined = false := by
  rcases coreRosterAccept_cases P stored quarantined incoming root with ⟨_, hout⟩ |
    ⟨_, ⟨_, _, hbit⟩ | ⟨_, hout, _⟩ | ⟨_, hout, _⟩⟩
  · cases hout.symm.trans h
  · exact hbit
  · cases hout.symm.trans h
  · cases hout.symm.trans h

/-- A fork verdict has something to protect: a bit that was already set, or a stored
roster at the document's own version. -/
theorem coreRosterAccept_fork
    (h : (coreRosterAccept P stored quarantined incoming root).outcome = .forkQuarantined) :
    (quarantined = true ∧ ¬ piercesQuarantine stored incoming root) ∨
      ∃ held, stored = some held ∧ incoming.version = held.version := by
  rcases coreRosterAccept_cases P stored quarantined incoming root with ⟨hq, _⟩ |
    ⟨_, ⟨_, hout, _⟩ | ⟨_, hout, _⟩ | ⟨_, _, hversion⟩⟩
  · exact .inl hq
  · cases hout.symm.trans h
  · cases hout.symm.trans h
  · exact .inr hversion

/-- A document that pierces the quarantine is above the held one. -/
theorem piercesQuarantine.version_ne {held : Roster}
    (hp : piercesQuarantine (some held) incoming root) : incoming.version ≠ held.version :=
  fun hversion => hp.2.1.ne' (congrArg RosterVersion.recoveryEpoch hversion)

variable (P quarantined) in
/-- A document that pierces a quarantine is judged on its own, and whatever becomes of it the bit
comes back down. -/
theorem coreRosterAccept_pierced (hp : piercesQuarantine stored incoming root) :
    (coreRosterAccept P stored quarantined incoming root).quarantined = false := by
  rcases coreRosterAccept_cases P stored quarantined incoming root with ⟨hq, _⟩ |
    ⟨_, ⟨_, _, hbit⟩ | ⟨_, _, hbit⟩ | ⟨_, _, held, rfl, hversion⟩⟩
  · exact absurd hp hq.2
  · exact hbit
  · exact hbit
  · exact absurd hversion hp.version_ne

end Verdicts

/-- What a caller may rely on when the person is quarantined: the document is accepted, being
valid, signed by the root and of a higher recovery epoch, or the bit to persist is still set. -/
def KeepsQuarantine (P : Primitives) (stored : Option Roster) (incoming : Roster) (root : Bytes) :
    Prop :=
  let decision := coreRosterAccept P stored true incoming root
  decision.outcome = .accepted ∧ ValidRoster P incoming root ∧ incoming.signerSignPk = root ∧
      (∃ held, stored = some held ∧ held.recoveryEpoch < incoming.recoveryEpoch) ∨
    decision.quarantined = true

/-- The bit is kept exactly on the documents that do not name the root as their signer at a higher
recovery epoch, and on those that do and are accepted. -/
theorem quarantine_bit_kept_iff (P : Primitives) (stored : Option Roster) (incoming : Roster)
    (root : Bytes) : KeepsQuarantine P stored incoming root ↔
      ∀ held, stored = some held → piercesQuarantine stored incoming root →
        ValidRoster P incoming root ∧ ¬ jumpTooLarge held incoming ∧
          ¬ resurrects P held incoming := by
  by_cases hp : piercesQuarantine stored incoming root
  · have hdown := coreRosterAccept_pierced P true hp
    cases stored with
    | none => exact absurd hp id
    | some held =>
      obtain ⟨hperson, hepoch, hsigner⟩ := hp
      constructor
      · rintro (⟨haccepted, hvalid, _⟩ | hbit) held' hheld _
        · cases hheld
          obtain ⟨_, _, hsup⟩ := coreRosterAccept_accepted_iff.mp haccepted
          exact ⟨hvalid, (hsup _ rfl).jump, not_resurrects_iff.mpr (hsup _ rfl).buried⟩
        · exact absurd (hdown.symm.trans hbit) (by decide)
      · intro hall
        obtain ⟨hvalid, hjump, hburied⟩ := hall held rfl ⟨hperson, hepoch, hsigner⟩
        refine .inl ⟨coreRosterAccept_accepted_iff.mpr ⟨fun _ => ⟨hperson, hepoch, hsigner⟩, hvalid,
          ?_⟩, hvalid, hsigner, held, rfl, hepoch⟩
        intro held' hheld
        cases hheld
        exact ⟨hperson, RosterVersion.lt_iff.mpr (.inl hepoch), hjump, fun _ => hsigner,
          not_resurrects_iff.mp hburied, fun hsame => absurd hsame (Nat.ne_of_gt hepoch)⟩
  · refine iff_of_true (.inr ?_) fun _ _ hpierces => absurd hpierces hp
    show (orderingVerdict P stored true incoming root).quarantined = true
    rw [orderingVerdict_quarantined rfl hp]
    rfl

open Sample in
/-- A forged document that only names the root as its signer takes the bit down. -/
theorem forged_document_lifts_quarantine :
    (coreRosterAccept primitives (some firstRoster) true
      { firstRoster with recoveryEpoch := 1, signature := [] } personRoot) =
        { decision .ignored .invalid false with rejection := some .malformedField } ∧
    ¬ KeepsQuarantine primitives (some firstRoster)
      { firstRoster with recoveryEpoch := 1, signature := [] } personRoot := by
  have hverdict : (coreRosterAccept primitives (some firstRoster) true
      { firstRoster with recoveryEpoch := 1, signature := [] } personRoot) =
        { decision .ignored .invalid false with rejection := some .malformedField } := by
    decide +kernel
  refine ⟨hverdict, ?_⟩
  unfold KeepsQuarantine
  rw [hverdict]
  rintro (⟨haccepted, _⟩ | hbit)
  · cases haccepted
  · cases hbit

end CruiseMesh
