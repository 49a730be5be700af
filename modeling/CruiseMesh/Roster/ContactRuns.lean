import CruiseMesh.Lib.Runs
import CruiseMesh.Roster.ApplyContact

/-!
# Contact rosters over whole runs

A contact's documents arrive over gossip: honest, replayed, out of order, forked or
forged. What a device holds about the contact after any sequence of them is a history
in which later rosters descend from earlier ones. `Descends` is that relation; one
step of the store keeps it (`applyStep_cases`), and it is transitive, so it relates
any two moments of a run. The quarantine is the other half: once up, the state stands
still until the person root is heard at a higher recovery epoch.
-/

namespace CruiseMesh
open Durable Runs

/-- A later roster of the same person, as a contact may hold it. -/
structure Descends (P : Primitives) (earlier later : Roster) : Prop where
  version : earlier.version ≤ later.version
  buried : ∀ id ∈ earlier.tombstoneIds, id ∈ later.tombstoneIds ∧ id ∉ later.deviceIds P
  generation : earlier.recoveryEpoch = later.recoveryEpoch →
    earlier.inboxKeyGeneration ≤ later.inboxKeyGeneration

section Descends
variable {P : Primitives} {a b c : Roster} {root : Bytes}

theorem Descends.of_valid (h : ValidRoster P a root) : Descends P a a := by
  refine ⟨le_refl _, ?_, fun _ => le_refl _⟩
  intro id hid
  obtain ⟨tombstone, hmem, rfl⟩ := List.mem_map.mp hid
  exact ⟨hid, (h.tombstones tombstone hmem).2⟩

/-- Versions order epochs first. -/
theorem recoveryEpoch_le_of_version_le (h : a.version ≤ b.version) :
    a.recoveryEpoch ≤ b.recoveryEpoch := by
  rcases h.lt_or_eq with hlt | heq
  · rcases RosterVersion.lt_iff.mp hlt with h' | ⟨h', _⟩
    · exact le_of_lt h'
    · exact le_of_eq h'
  · exact le_of_eq (congrArg RosterVersion.recoveryEpoch heq)

theorem Descends.trans (hab : Descends P a b) (hbc : Descends P b c) : Descends P a c := by
  refine ⟨hab.version.trans hbc.version, ?_, ?_⟩
  · intro id hid
    exact hbc.buried id (hab.buried id hid).1
  · intro he
    -- the epoch between the two is squeezed
    have h₁ := recoveryEpoch_le_of_version_le hab.version
    have h₂ := recoveryEpoch_le_of_version_le hbc.version
    have hgen₁ := hab.generation (by omega)
    have hgen₂ := hbc.generation (by omega)
    omega

end Descends

/-! ## One step -/

section Step
variable (P : Primitives)

/-- `contact_roster_state`. -/
def contactRosterState (s : Store) (person : Bytes) : Except CoreError ContactRosterState :=
  (loadState P person s).map (·.1)

/-- One call of `apply_contact_roster`, as a step of the store. -/
def applyStep (s : Store) (incoming : Roster) : Store := (applyContactRoster P incoming).final s

/-- The call accepts the document. -/
def accepts (s : Store) (incoming : Roster) : Prop :=
  ∃ verdict, (applyContactRoster P incoming).result s = .ok verdict ∧ verdict.outcome = .accepted

/-- The store knows the contact under this root, and their rows are undamaged: they
stand for a state whose roster, if there is one, validated. -/
structure Tracks (root person : Bytes) (s : Store) (st : ContactRosterState) : Prop where
  contact : s.contactSignPk person = some root
  rows : Holds P s person st
  valid : ∀ held, st.roster = some held → ValidRoster P held root

end Step

section StepLemmas
variable {P : Primitives} {root person : Bytes} {s : Store} {st : ContactRosterState}

theorem Tracks.contactRosterState (h : Tracks P root person s st) :
    contactRosterState P s person = .ok st := by
  unfold CruiseMesh.contactRosterState
  rw [loadState_of_holds h.rows]
  rfl

/-- A roster state follows from the rows, so two readings agree. -/
theorem Tracks.unique {st' : ContactRosterState} (h : Tracks P root person s st)
    (h' : Tracks P root person s st') : st = st' :=
  Except.ok.inj (h.contactRosterState.symm.trans h'.contactRosterState)

/-- **What one call can do to a contact.** It accepts a valid document of theirs that
supersedes what is held, and that the quarantine, if it is up, lets through; or it
keeps the roster, and at most raises the quarantine. -/
theorem applyStep_cases (h : Tracks P root person s st) (incoming : Roster) :
    (incoming.personId = person ∧ accepts P s incoming ∧
      Tracks P root person (applyStep P s incoming) ⟨some incoming, false⟩ ∧
      ValidRoster P incoming root ∧
      (st.quarantined = true → piercesQuarantine st.roster incoming root) ∧
      ∀ held, st.roster = some held → Supersedes P held incoming root) ∨
    ((incoming.personId = person → ¬ accepts P s incoming) ∧
      ∃ quarantined, Tracks P root person (applyStep P s incoming) ⟨st.roster, quarantined⟩ ∧
        (st.quarantined = true → quarantined = true)) := by
  by_cases hperson : incoming.personId = person
  · subst hperson
    obtain ⟨hres, hrows, hcontact⟩ := applyContactRoster_self h.contact h.rows
    have haccepts : accepts P s incoming ↔
        (coreRosterAccept P st.roster st.quarantined incoming root).outcome = .accepted := by
      unfold accepts
      rw [hres]
      constructor
      · intro ⟨verdict, hverdict, hout⟩
        cases hverdict
        exact hout
      · intro hout
        exact ⟨_, rfl, hout⟩
    unfold ContactRosterState.absorb at hrows
    cases hout : (coreRosterAccept P st.roster st.quarantined incoming root).outcome with
    | accepted =>
      obtain ⟨hpierce, hvalid, hsup⟩ := coreRosterAccept_accepted_iff.mp hout
      rw [hout] at hrows
      refine .inl ⟨rfl, haccepts.mpr hout, ⟨hcontact, hrows, ?_⟩, hvalid, hpierce, hsup⟩
      intro held hheld
      exact Option.some.inj hheld ▸ hvalid
    | forkQuarantined =>
      rw [hout] at hrows
      refine .inr ⟨fun _ hacc => ?_, true, ⟨hcontact, hrows, h.valid⟩, fun _ => rfl⟩
      exact absurd (hout.symm.trans (haccepts.mp hacc)) (by decide)
    | ignored =>
      rw [hout] at hrows
      refine .inr ⟨fun _ hacc => ?_, st.quarantined, ⟨hcontact, hrows, h.valid⟩, id⟩
      exact absurd (hout.symm.trans (haccepts.mp hacc)) (by decide)
  · have hsame : SameRows person s (applyStep P s incoming) := applyContactRoster_other hperson
    refine .inr ⟨fun h' => absurd h' hperson, st.quarantined, ?_, id⟩
    exact ⟨hsame.signPk.trans h.contact, h.rows.congr hsame, h.valid⟩

end StepLemmas

/-! ## Whole runs -/

section Runs
variable (P : Primitives)

/-- The store after the first `n` of the documents. -/
def storeAt (s₀ : Store) (docs : List Roster) (n : Nat) : Store :=
  stateAt (applyStep P) s₀ docs n

/-- What is held about the contact at that moment. -/
def heldAt (person : Bytes) (s₀ : Store) (docs : List Roster) (n : Nat) : ContactRosterState :=
  match contactRosterState P (storeAt P s₀ docs n) person with
  | .ok st => st
  | .error _ => ⟨none, false⟩

/-- The `n`-th document is `doc`, it is about this contact, and it is accepted. -/
def AcceptedAt (person : Bytes) (s₀ : Store) (docs : List Roster) (n : Nat) (doc : Roster) : Prop :=
  docs[n]? = some doc ∧ doc.personId = person ∧ accepts P (storeAt P s₀ docs n) doc

/-- The history of one contact's roster over a run of documents. `signed m` stands for
"the holder of the person root signed `m`". -/
structure RosterHistory (root person : Bytes) (signed : Bytes → Prop) (s₀ : Store)
    (docs : List Roster) : Prop where
  /-- What is held can always be read, and only an accepted document replaces it. -/
  read : ∀ n, contactRosterState P (storeAt P s₀ docs n) person = .ok (heldAt P person s₀ docs n)
  stored : ∀ n, (heldAt P person s₀ docs (n + 1)).roster = (heldAt P person s₀ docs n).roster ∨
    ∃ doc, AcceptedAt P person s₀ docs n doc
  accepted : ∀ n doc, AcceptedAt P person s₀ docs n doc →
    heldAt P person s₀ docs (n + 1) = ⟨some doc, false⟩
  /-- Every accepted document is above what was held, and so above all accepted before it. -/
  raises : ∀ n doc held, AcceptedAt P person s₀ docs n doc →
    (heldAt P person s₀ docs n).roster = some held → held.version < doc.version
  raises_accepted : ∀ i j doc doc', i < j → AcceptedAt P person s₀ docs i doc →
    AcceptedAt P person s₀ docs j doc' → doc.version < doc'.version
  /-- A burial is never forgotten, and what was buried is never active again. -/
  buried : ∀ i j held, i ≤ j → (heldAt P person s₀ docs i).roster = some held →
    ∃ later, (heldAt P person s₀ docs j).roster = some later ∧
      ∀ id ∈ held.tombstoneIds, id ∈ later.tombstoneIds ∧ id ∉ later.deviceIds P
  /-- The recovery epoch rises on the person root's signature alone. -/
  epoch : ∀ n held later, (heldAt P person s₀ docs n).roster = some held →
    (heldAt P person s₀ docs (n + 1)).roster = some later →
    held.recoveryEpoch < later.recoveryEpoch →
    AcceptedAt P person s₀ docs n later ∧ later.signerSignPk = root ∧
      signed (rosterSignedBytes later)
  generation : ∀ i j held later, i ≤ j → (heldAt P person s₀ docs i).roster = some held →
    (heldAt P person s₀ docs j).roster = some later →
    held.recoveryEpoch = later.recoveryEpoch →
    held.inboxKeyGeneration ≤ later.inboxKeyGeneration
  /-- A quarantine holds everything still until the root is heard at a higher epoch. -/
  quarantine : ∀ i j, i ≤ j → (heldAt P person s₀ docs i).quarantined = true →
    heldAt P person s₀ docs j = heldAt P person s₀ docs i ∨
    ∃ k doc held, i ≤ k ∧ k < j ∧ AcceptedAt P person s₀ docs k doc ∧
      (heldAt P person s₀ docs i).roster = some held ∧
      held.recoveryEpoch < doc.recoveryEpoch ∧ doc.signerSignPk = root ∧
      signed (rosterSignedBytes doc)

end Runs

section RunLemmas
variable {P : Primitives} {root person : Bytes} {s₀ : Store} {st₀ : ContactRosterState}
  (docs : List Roster) (h₀ : Tracks P root person s₀ st₀)

include h₀

/-- Every state of the run is one the rows stand for. -/
theorem tracks_heldAt (n : Nat) :
    Tracks P root person (storeAt P s₀ docs n) (heldAt P person s₀ docs n) := by
  obtain ⟨st, hst⟩ : ∃ st, Tracks P root person (storeAt P s₀ docs n) st := by
    refine stateAt_invariant (fun s => ∃ st, Tracks P root person s st) ?_ ⟨st₀, h₀⟩ n
    intro s doc h
    obtain ⟨st, h⟩ := h
    rcases applyStep_cases h doc with ⟨_, _, h', _⟩ | ⟨_, quarantined, h', _⟩
    · exact ⟨_, h'⟩
    · exact ⟨_, h'⟩
  unfold heldAt
  rw [hst.contactRosterState]
  exact hst

/-- The step between two moments of a run. -/
theorem heldAt_succ_cases (n : Nat) :
    (∃ doc, AcceptedAt P person s₀ docs n doc ∧
      heldAt P person s₀ docs (n + 1) = ⟨some doc, false⟩ ∧ ValidRoster P doc root ∧
      ((heldAt P person s₀ docs n).quarantined = true →
        piercesQuarantine (heldAt P person s₀ docs n).roster doc root) ∧
      ∀ held, (heldAt P person s₀ docs n).roster = some held → Supersedes P held doc root) ∨
    ((∀ doc, ¬ AcceptedAt P person s₀ docs n doc) ∧
      (heldAt P person s₀ docs (n + 1)).roster = (heldAt P person s₀ docs n).roster ∧
      ((heldAt P person s₀ docs n).quarantined = true →
        (heldAt P person s₀ docs (n + 1)).quarantined = true)) := by
  have hn : Tracks P root person (storeAt P s₀ docs n) (heldAt P person s₀ docs n) :=
    tracks_heldAt docs h₀ n
  have hn₁ : Tracks P root person (storeAt P s₀ docs (n + 1)) (heldAt P person s₀ docs (n + 1)) :=
    tracks_heldAt docs h₀ (n + 1)
  by_cases hlen : n < docs.length
  · have hdoc : docs[n]? = some docs[n] := List.getElem?_eq_getElem hlen
    have hsucc : storeAt P s₀ docs (n + 1) = applyStep P (storeAt P s₀ docs n) docs[n] :=
      stateAt_succ hlen
    rw [hsucc] at hn₁
    rcases applyStep_cases hn docs[n] with
      ⟨hperson, hacc, h', hvalid, hpierce, hsup⟩ | ⟨hnot, quarantined, h', hq⟩
    · exact .inl ⟨docs[n], ⟨hdoc, hperson, hacc⟩, hn₁.unique h', hvalid, hpierce, hsup⟩
    · refine .inr ⟨?_, ?_, ?_⟩
      · intro doc ⟨hget, hperson, hacc⟩
        cases hdoc.symm.trans hget
        exact hnot hperson hacc
      · rw [hn₁.unique h']
      · rw [hn₁.unique h']; exact hq
  · -- the documents are used up
    have hsucc : storeAt P s₀ docs (n + 1) = storeAt P s₀ docs n :=
      stateAt_succ_of_length_le (by omega)
    rw [hsucc] at hn₁
    have hsame := hn₁.unique hn
    refine .inr ⟨?_, by rw [hsame], fun hq => by rw [hsame]; exact hq⟩
    intro doc ⟨hget, _⟩
    exact absurd (List.getElem?_eq_some_iff.mp hget).1 hlen

/-- The held roster, once there is one, is only ever followed by its descendants. -/
theorem heldAt_descends {i j : Nat} (hij : i ≤ j) :
    ∀ held, (heldAt P person s₀ docs i).roster = some held →
      ∃ later, (heldAt P person s₀ docs j).roster = some later ∧ Descends P held later := by
  refine seq_related (x := heldAt P person s₀ docs) (R := fun a b =>
    ∀ held, a.roster = some held → ∃ later, b.roster = some later ∧ Descends P held later)
    ?_ ?_ ?_ hij
  · intro n held hheld
    exact ⟨held, hheld, Descends.of_valid ((tracks_heldAt docs h₀ n).valid held hheld)⟩
  · intro a b c hab hbc held hheld
    obtain ⟨mid, hmid, hdesc⟩ := hab held hheld
    obtain ⟨later, hlater, hdesc'⟩ := hbc mid hmid
    exact ⟨later, hlater, hdesc.trans hdesc'⟩
  · intro n held hheld
    rcases heldAt_succ_cases docs h₀ n with ⟨doc, _, hsucc, _, _, hsup⟩ | ⟨_, hkeep, _⟩
    · have hover := hsup held hheld
      exact ⟨doc, by rw [hsucc], hover.version.le, hover.buried, fun he => hover.generation he.symm⟩
    · refine ⟨held, hkeep.trans hheld, ?_⟩
      exact Descends.of_valid ((tracks_heldAt docs h₀ n).valid held hheld)

/-- An accepted document is what is held next; it is valid, and it supersedes. -/
theorem heldAt_succ_of_accepted {n : Nat} {doc : Roster}
    (hacc : AcceptedAt P person s₀ docs n doc) :
    heldAt P person s₀ docs (n + 1) = ⟨some doc, false⟩ ∧ ValidRoster P doc root ∧
      ∀ held, (heldAt P person s₀ docs n).roster = some held → Supersedes P held doc root := by
  rcases heldAt_succ_cases docs h₀ n with ⟨doc', hacc', hsucc, hvalid, _, hsup⟩ | ⟨hnot, _⟩
  · obtain rfl : doc' = doc := Option.some.inj (hacc'.1.symm.trans hacc.1)
    exact ⟨hsucc, hvalid, hsup⟩
  · exact absurd hacc (hnot doc)

/-- While the quarantine is up, nothing changes on a call that does not accept a
root-signed document at a higher epoch. -/
theorem heldAt_quarantined (n : Nat)
    (hq : (heldAt P person s₀ docs n).quarantined = true) :
    (∃ doc held, AcceptedAt P person s₀ docs n doc ∧
      (heldAt P person s₀ docs n).roster = some held ∧
      held.recoveryEpoch < doc.recoveryEpoch ∧ doc.signerSignPk = root) ∨
    heldAt P person s₀ docs (n + 1) = heldAt P person s₀ docs n := by
  rcases heldAt_succ_cases docs h₀ n with ⟨doc, hacc, _, _, hpierce, _⟩ | ⟨_, hkeep, hq'⟩
  · have hp := hpierce hq
    cases hheld : (heldAt P person s₀ docs n).roster with
    | none => rw [hheld] at hp; exact hp.elim
    | some held =>
      rw [hheld] at hp
      exact .inl ⟨doc, held, hacc, rfl, hp.2.1, hp.2.2⟩
  · refine .inr ?_
    have hbit := (hq' hq).trans hq.symm
    cases hnext : heldAt P person s₀ docs (n + 1)
    cases hnow : heldAt P person s₀ docs n
    simp_all

omit h₀ in
/-- **Roster acceptance over whole runs.** -/
theorem contact_roster_history (h₀ : Tracks P root person s₀ st₀) {signed : Bytes → Prop}
    (unforgeable : ∀ m sig, P.verifyRaw root m sig = .ok () → signed m) :
    RosterHistory P root person signed s₀ docs := by
  -- a valid document that names the root as its signer was signed by its holder
  have hsigned : ∀ doc, ValidRoster P doc root → doc.signerSignPk = root →
      signed (rosterSignedBytes doc) := by
    intro doc hvalid hsigner
    exact unforgeable _ _ (hsigner ▸ hvalid.signature)
  refine ⟨?_, ?_, ?_, ?_, ?_, ?_, ?_, ?_, ?_⟩
  · intro n
    exact (tracks_heldAt docs h₀ n).contactRosterState
  · intro n
    rcases heldAt_succ_cases docs h₀ n with ⟨doc, hacc, _⟩ | ⟨_, hkeep, _⟩
    · exact .inr ⟨doc, hacc⟩
    · exact .inl hkeep
  · intro n doc hacc
    exact (heldAt_succ_of_accepted docs h₀ hacc).1
  · intro n doc held hacc hheld
    exact ((heldAt_succ_of_accepted docs h₀ hacc).2.2 held hheld).version
  · intro i j doc doc' hij hacc hacc'
    have hheld : (heldAt P person s₀ docs (i + 1)).roster = some doc := by
      rw [(heldAt_succ_of_accepted docs h₀ hacc).1]
    obtain ⟨later, hlater, hdesc⟩ := heldAt_descends docs h₀ hij doc hheld
    have hsup := (heldAt_succ_of_accepted docs h₀ hacc').2.2 later hlater
    exact lt_of_le_of_lt hdesc.version hsup.version
  · intro i j held hij hheld
    obtain ⟨later, hlater, hdesc⟩ := heldAt_descends docs h₀ hij held hheld
    exact ⟨later, hlater, hdesc.buried⟩
  · intro n held later hheld hlater hlt
    rcases heldAt_succ_cases docs h₀ n with ⟨doc, hacc, hsucc, hvalid, _, hsup⟩ | ⟨_, hkeep, _⟩
    · obtain rfl : doc = later := by rw [hsucc] at hlater; exact Option.some.inj hlater
      have hroot := (hsup held hheld).epoch hlt
      exact ⟨hacc, hroot, hsigned doc hvalid hroot⟩
    · -- the roster did not change, so its epoch did not rise
      cases hheld.symm.trans (hkeep.symm.trans hlater)
      exact absurd hlt (lt_irrefl _)
  · intro i j held later hij hheld hlater hepoch
    obtain ⟨later', hlater', hdesc⟩ := heldAt_descends docs h₀ hij held hheld
    cases hlater'.symm.trans hlater
    exact hdesc.generation hepoch
  · intro i j hij hq
    rcases seq_unless (fun st : ContactRosterState => st.quarantined = true)
      (heldAt_quarantined docs h₀) hij hq with hsame | ⟨k, hik, hkj, hk, hrel⟩
    · exact .inl hsame
    · obtain ⟨doc, held, hacc, hheld, hepoch, hroot⟩ := hrel
      have hvalid := (heldAt_succ_of_accepted docs h₀ hacc).2.1
      exact .inr ⟨k, doc, held, hik, hkj, hacc, hk ▸ hheld, hepoch, hroot,
        hsigned doc hvalid hroot⟩

end RunLemmas

/-! ## A run -/

namespace Sample

def cert (signPk : Bytes) (flags : UInt32) : DeviceCert := certBy (secretKey 1) signPk 0 flags

/-- A root-signed roster of one approving device. -/
def roster (epoch seq generation : Nat) (more : List DeviceCert) (buried : List DeviceTombstone) :
    Roster :=
  Roster.signedBy primitives
    { personId := person, recoveryEpoch := epoch, seq, devices := cert deviceKey 1 :: more,
      tombstones := buried, approvingDeviceId := primitives.deriveUserId deviceKey,
      inboxKeyGeneration := generation, signerSignPk := [], signature := [] } (secretKey 1)

/-- Genesis, a revocation, a fork of the revocation, and the recovery that is heard
through the quarantine. -/
def documents : List Roster :=
  [roster 0 0 0 [cert otherDeviceKey 0] [],
   roster 0 1 1 [] [⟨primitives.deriveUserId otherDeviceKey, 1⟩],
   roster 0 1 2 [] [⟨primitives.deriveUserId otherDeviceKey, 1⟩],
   roster 1 0 0 [] [⟨primitives.deriveUserId otherDeviceKey, 1⟩]]

def contactStore : Store :=
  { contacts := [{ userId := person, name := ascii "Ana", signPk := personRoot, agreePk := [] }] }

end Sample

open Sample in
theorem contact_roster_history_sample :
    heldAt primitives person contactStore documents 4 = ⟨documents[3]?, false⟩ ∧
    RosterHistory primitives personRoot person
      (fun m => ∃ sig, primitives.verifyRaw personRoot m sig = .ok ()) contactStore documents := by
  refine ⟨by decide +kernel, ?_⟩
  have hfresh : Tracks primitives personRoot person contactStore ⟨none, false⟩ :=
    ⟨by decide +kernel, .inl ⟨rfl, rfl⟩, nofun⟩
  refine contact_roster_history documents hfresh ?_
  exact fun m sig h => ⟨sig, h⟩

end CruiseMesh
