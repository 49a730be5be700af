import CruiseMesh.Lib.Runs
import CruiseMesh.Roster.OwnState
import CruiseMesh.Roster.RevocationResume

/-!
# The own roster over a history

Four calls replace the roster a device holds of its own person. The handoff and the
notice ask `core_roster_accept` first, so what they write is above what is held. The other
two, `adopt_own_roster` and the commit of a rotation, write the document before the fleet
writer compares versions, so a document that does not follow the held one is on disk when
the fleet writer refuses it. `Follows` is what such a document must satisfy, and
`own_roster_monotone_iff` says that a history whose documents do is exactly one that keeps
the document from going back and the fleet in step with it.
-/

namespace CruiseMesh.OwnRoster
open Durable Runs

/-! ## Calls -/

inductive Call where
  | adopt (roster : Roster) (personRootSignPk ownDeviceId : Bytes)
  | commit (update : RevocationUpdate) (personRootSignPk : Bytes) (ownDevice : DeviceKeypair)
      (supersededInboxKey : Option InboxKey) (nowMs : Int) (entropy : CommitEntropy)
  | handoff (body personRootSignPk : Bytes) (ownDevice : DeviceKeypair)
      (supersededInboxKey : Option InboxKey) (nowMs : Int) (entropy : Nat → SealEntropy)
  | notice (document personRootSignPk ownDeviceId : Bytes) (nowMs : Int)

section Runs
variable (P : Primitives)

/-- The store a call leaves, whether it returns or fails. -/
def Call.next (s : Store) : Call → Store
  | .adopt roster root id => (adoptOwnRoster P roster root id).final s
  | .commit update root device superseded nowMs entropy =>
    (commitOwnRevocation P update root device superseded nowMs entropy).final s
  | .handoff body root device superseded nowMs entropy =>
    (adoptRevocationHandoff P body root device superseded nowMs entropy).final s
  | .notice document root id nowMs =>
    (applyOwnRosterNotice P document root id nowMs).final s

/-- The store after the first `n` calls. -/
def storeAt (s : Store) (calls : List Call) (n : Nat) : Store := stateAt (Call.next P) s calls n

/-- A stored fleet that names this device was projected from the stored document. -/
def FleetAgrees (s : Store) : Prop :=
  s.ownDeviceFleet.ownDeviceId.isSome → ∃ roster, s.ownRoster = some roster ∧
    s.ownDeviceFleet.projectedFrom = roster.version ∧
      s.ownDeviceFleet.deviceIds = roster.deviceIds P

/-- The stored document is not below what it was. -/
def NotBelow (s s' : Store) : Prop :=
  ∀ held ∈ s.ownRoster, ∃ later ∈ s'.ownRoster, held.version ≤ later.version

/-- The document that an adoption brings is above the held one, or repeats its version
without changing which devices a projected fleet lists. -/
def Follows (s : Store) (roster : Roster) : Prop :=
  ∀ held ∈ s.ownRoster, held.version < roster.version ∨
    held.version = roster.version ∧
      (s.ownDeviceFleet.ownDeviceId.isSome → roster.deviceIds P = held.deviceIds P)

/-- A call that writes a document without asking `core_roster_accept` brings one that
follows the held one. -/
def Call.Orderly (s : Store) : Call → Prop
  | .adopt roster root id =>
    ValidRoster P roster root → id ∈ roster.deviceIds P → Follows P s roster
  | .commit update root device superseded _ entropy =>
    CommitAdopts P s update root device superseded entropy → Follows P s update.roster
  | .handoff .. => True
  | .notice .. => True

end Runs

/-! ## Reading a projected fleet -/

section Fleet
variable {P : Primitives} {s s' : Store} {own : OwnState} {roster : Roster} {id : Bytes}

/-- Some row of the fleet is this device. -/
def NamesSelf (own : OwnState) : Prop := ∃ row ∈ own.fleet, row.isSelf = true

/-- The device ids of the fleet, in the order they are read. -/
def listedIds (own : OwnState) : List Bytes :=
  (own.fleet.insertionSort fun a b => a.ordinal ≤ b.ordinal).map (·.deviceId)

theorem ownDeviceId_isSome_iff : s.ownDeviceFleet.ownDeviceId.isSome ↔ NamesSelf s.own := by
  unfold Store.ownDeviceFleet NamesSelf
  simp only [Option.isSome_map, List.getLast?_isSome, ne_eq]
  rw [List.filter_eq_nil_iff]
  simp only [List.mem_insertionSort, not_forall, not_not]
  exact ⟨fun ⟨row, hmem, h⟩ => ⟨row, hmem, h⟩, fun ⟨row, hmem, h⟩ => ⟨row, hmem, h⟩⟩

/-- The rows of a fleet are stored in the order they are read. -/
theorem listedIds_rows (fleet : OwnDeviceFleet) (h : own.fleet = fleet.rows) :
    listedIds own = fleet.deviceIds := by
  have hsorted : fleet.rows.insertionSort (fun a b => a.ordinal ≤ b.ordinal) = fleet.rows := by
    refine List.Pairwise.insertionSort_eq ?_
    unfold OwnDeviceFleet.rows
    rw [List.pairwise_map]
    exact zipIdx_ordered fleet.deviceIds 0
  unfold listedIds
  rw [h, hsorted]
  unfold OwnDeviceFleet.rows
  rw [List.map_map]
  exact List.zipIdx_map_fst 0 _

/-! ## What every orderly call keeps -/

/-- The fleet is never ahead of the document, and where it names this device it is the
document's. -/
structure Coherent (P : Primitives) (own : OwnState) : Prop where
  bounded : ∀ version ∈ own.fleetVersion, ∃ roster ∈ own.roster, version ≤ roster.version
  projected : NamesSelf own → ∃ roster ∈ own.roster,
    own.fleetVersion = some roster.version ∧ listedIds own = roster.deviceIds P

theorem Coherent.fleetAgrees (h : Coherent P s.own) : FleetAgrees P s := by
  intro hself
  obtain ⟨roster, hroster, hversion, hids⟩ := h.projected (ownDeviceId_isSome_iff.mp hself)
  refine ⟨roster, hroster, ?_, hids⟩
  show s.own.fleetVersion.getD _ = _
  rw [hversion]
  rfl

/-- `Follows`, over the four tables. -/
theorem follows_iff : Follows P s roster ↔ ∀ held ∈ s.own.roster, held.version < roster.version ∨
    held.version = roster.version ∧
      (NamesSelf s.own → roster.deviceIds P = held.deviceIds P) := by
  unfold Follows
  simp only [ownDeviceId_isSome_iff]
  rfl

/-- A document that follows the held one can be adopted. -/
theorem Coherent.adopting (h : Coherent P s.own) (hfollows : Follows P s roster) :
    Coherent P (s.own.adopting P roster id) := by
  rw [follows_iff] at hfollows
  unfold OwnState.adopting
  split
  · next hold =>
    -- the fleet was not moved, so the document repeats the version of the held one
    obtain ⟨stored, hstored, hle⟩ := hold
    obtain ⟨held, hheld, hbound⟩ := h.bounded stored hstored
    rcases hfollows held hheld with hlt | ⟨heq, hids⟩
    · exact absurd (hlt.trans_le (hle.trans hbound)) (lt_irrefl _)
    refine ⟨fun version hversion => ⟨roster, rfl, ?_⟩, fun hself => ⟨roster, rfl, ?_⟩⟩
    · obtain ⟨held', hheld', hbound'⟩ := h.bounded version hversion
      rwa [← heq, ← Option.mem_unique hheld' hheld]
    · obtain ⟨held', hheld', hversion, hlisted⟩ := h.projected hself
      obtain rfl := Option.mem_unique hheld' hheld
      exact ⟨hversion.trans (congrArg some heq), hlisted.trans (hids hself).symm⟩
  · refine ⟨fun version hversion => ⟨roster, rfl, ?_⟩, fun _ => ⟨roster, rfl, rfl, ?_⟩⟩
    · exact le_of_eq (Option.some.inj hversion).symm
    · exact listedIds_rows (OwnState.projection P roster id) rfl

/-- A burial takes the fleet's rows away, and its version is the document's. -/
theorem Coherent.ejected {held : Roster} {nowMs : Int} (h : Coherent P own)
    (hheld : own.roster = some held) (hversion : held.version < roster.version) :
    Coherent P (own.ejected roster id nowMs) := by
  refine ⟨fun version hmem => ⟨roster, rfl, ?_⟩, fun ⟨row, hrow, _⟩ => absurd hrow List.not_mem_nil⟩
  obtain rfl : buriedVersion roster own.fleetVersion = version := Option.some.inj hmem
  unfold buriedVersion
  split
  · next stored hstored =>
    obtain ⟨held', hheld', hbound⟩ := h.bounded stored hstored
    cases hheld.symm.trans hheld'
    rw [if_pos (lt_of_le_of_lt hbound hversion)]
  · exact le_refl _

/-- What asks `core_roster_accept` keeps the two in step. -/
theorem Coherent.ownStep {own' : OwnState} {nowMs : Int} (h : Coherent P s.own)
    (hstep : OwnStep P s.own id nowMs own') : Coherent P own' := by
  cases hstep with
  | stays => exact h
  | adopts hheld _ hversion =>
    refine h.adopting (follows_iff.mpr fun held hmem => .inl ?_)
    cases hheld.symm.trans hmem
    exact hversion
  | ejects hheld _ hversion => exact h.ejected hheld hversion

/-! ## One call -/

theorem NotBelow.refl (s : Store) : NotBelow s s := fun held hheld => ⟨held, hheld, le_refl _⟩

theorem NotBelow.trans {s₁ s₂ s₃ : Store} (h₁₂ : NotBelow s₁ s₂) (h₂₃ : NotBelow s₂ s₃) :
    NotBelow s₁ s₃ := by
  intro held hheld
  obtain ⟨mid, hmid, hle⟩ := h₁₂ held hheld
  obtain ⟨later, hlater, hle'⟩ := h₂₃ mid hmid
  exact ⟨later, hlater, hle.trans hle'⟩

theorem notBelow_of_own (h : s'.own = s.own) : NotBelow s s' := by
  intro held hheld
  have hroster : s'.ownRoster = s.ownRoster := congrArg OwnState.roster h
  exact ⟨held, hroster ▸ hheld, le_refl _⟩

theorem notBelow_ownStep {nowMs : Int} (hstep : OwnStep P s.own id nowMs s'.own) :
    NotBelow s s' := by
  intro held hheld
  generalize hown : s'.own = own' at hstep
  have hroster : s'.ownRoster = own'.roster := congrArg OwnState.roster hown
  cases hstep with
  | stays => exact ⟨held, hroster ▸ hheld, le_refl _⟩
  | @adopts held' incoming hheld' _ hversion =>
    cases hheld.symm.trans hheld'
    refine ⟨incoming, ?_, le_of_lt hversion⟩
    rw [hroster, OwnState.adopting_roster]
    rfl
  | @ejects held' incoming hheld' _ hversion =>
    cases hheld.symm.trans hheld'
    exact ⟨incoming, hroster, le_of_lt hversion⟩

/-- An adoption keeps the document from going back and the fleet in step exactly when its
document follows the held one. -/
theorem adopting_ok_iff (h : Coherent P s.own) (hown : s'.own = s.own.adopting P roster id) :
    NotBelow s s' ∧ FleetAgrees P s' ↔ Follows P s roster := by
  have hroster : s'.ownRoster = some roster :=
    (congrArg OwnState.roster hown).trans (OwnState.adopting_roster P _ _ _)
  constructor
  · intro ⟨hbelow, hagrees⟩
    rw [follows_iff]
    intro held hheld
    obtain ⟨later, hlater, hle⟩ := hbelow held hheld
    cases hroster.symm.trans hlater
    rcases lt_or_eq_of_le hle with hlt | heq
    · exact .inl hlt
    refine .inr ⟨heq, fun hself => ?_⟩
    -- the fleet of the held document stays, and it must be the new one's too
    obtain ⟨held', hheld', hversion, hids⟩ := h.projected hself
    obtain rfl := Option.mem_unique hheld' hheld
    have hkept : s'.own = { s.own with roster := some roster } := by
      rw [hown, OwnState.adopting, if_pos ⟨held'.version, hversion, le_of_eq heq.symm⟩]
    have hself' : NamesSelf s'.own := by
      rw [hkept]
      exact hself
    obtain ⟨roster', hroster', _, hids'⟩ := hagrees (ownDeviceId_isSome_iff.mpr hself')
    cases hroster.symm.trans hroster'
    have hsame : listedIds s'.own = listedIds s.own := by rw [hkept]; rfl
    exact hids'.symm.trans (hsame.trans hids)
  · intro hfollows
    refine ⟨fun held hheld => ⟨roster, hroster, ?_⟩, Coherent.fleetAgrees ?_⟩
    · rcases hfollows held hheld with hlt | ⟨heq, _⟩
      · exact le_of_lt hlt
      · exact le_of_eq heq
    · rw [hown]
      exact h.adopting hfollows

/-- **One call.** From a coherent store, it neither takes the document back nor the fleet
out of step exactly when it is orderly. -/
theorem Call.ok_iff (call : Call) (h : Coherent P s.own) :
    NotBelow s (call.next P s) ∧ FleetAgrees P (call.next P s) ↔ call.Orderly P s := by
  cases call with
  | adopt roster root id =>
    by_cases hok : ValidRoster P roster root ∧ id ∈ roster.deviceIds P
    · refine (adopting_ok_iff h (own_adoptOwnRoster hok.1 hok.2)).trans ?_
      exact ⟨fun hf _ _ => hf, fun hf => hf hok.1 hok.2⟩
    · have hsame : Call.next P s (.adopt roster root id) = s := final_adoptOwnRoster_refused hok
      rw [hsame]
      exact ⟨fun _ hv hl => absurd ⟨hv, hl⟩ hok, fun _ => ⟨.refl s, h.fleetAgrees⟩⟩
  | commit update root device superseded nowMs entropy =>
    rcases own_commitOwnRevocation (s := s) update root device superseded nowMs entropy with
      ⟨hadopts, hown⟩ | ⟨hnot, hown⟩
    · refine (adopting_ok_iff h hown).trans ?_
      exact ⟨fun hf _ => hf, fun hf => hf hadopts⟩
    · refine ⟨fun _ hadopts => absurd hadopts hnot, fun _ => ⟨notBelow_of_own hown, ?_⟩⟩
      exact Coherent.fleetAgrees (hown ▸ h)
  | handoff body root device superseded nowMs entropy =>
    have hstep := own_adoptRevocationHandoff (P := P) (s := s) body root device superseded nowMs
      entropy
    exact ⟨fun _ => trivial, fun _ => ⟨notBelow_ownStep hstep, (h.ownStep hstep).fleetAgrees⟩⟩
  | notice document root id nowMs =>
    have hstep := own_applyOwnRosterNotice (P := P) (s := s) document root id nowMs
    exact ⟨fun _ => trivial, fun _ => ⟨notBelow_ownStep hstep, (h.ownStep hstep).fleetAgrees⟩⟩

theorem Call.coherent_next {call : Call} (h : Coherent P s.own) (horderly : call.Orderly P s) :
    Coherent P (call.next P s).own := by
  cases call with
  | adopt roster root id =>
    by_cases hok : ValidRoster P roster root ∧ id ∈ roster.deviceIds P
    · show Coherent P ((adoptOwnRoster P roster root id).final s).own
      rw [own_adoptOwnRoster hok.1 hok.2]
      exact h.adopting (horderly hok.1 hok.2)
    · have hsame : Call.next P s (.adopt roster root id) = s := final_adoptOwnRoster_refused hok
      rw [hsame]
      exact h
  | commit update root device superseded nowMs entropy =>
    show Coherent P
      ((commitOwnRevocation P update root device superseded nowMs entropy).final s).own
    rcases own_commitOwnRevocation (s := s) update root device superseded nowMs entropy with
      ⟨hadopts, hown⟩ | ⟨_, hown⟩
    · rw [hown]
      exact h.adopting (horderly hadopts)
    · rw [hown]
      exact h
  | handoff body root device superseded nowMs entropy =>
    exact h.ownStep (own_adoptRevocationHandoff body root device superseded nowMs entropy)
  | notice document root id nowMs =>
    exact h.ownStep (own_applyOwnRosterNotice document root id nowMs)

end Fleet

/-! ## Histories -/

section Histories
variable {P : Primitives} {s : Store} {calls : List Call}

theorem storeAt_succ {n : Nat} (hn : n < calls.length) :
    storeAt P s calls (n + 1) = calls[n].next P (storeAt P s calls n) := stateAt_succ hn

/-- The law of a whole history: the document is never below what it was, and a fleet that
names this device is the document's. -/
structure KeepsOwnRoster (P : Primitives) (s : Store) (calls : List Call) : Prop where
  never_back : ∀ i j, i ≤ j → NotBelow (storeAt P s calls i) (storeAt P s calls j)
  in_step : ∀ n, FleetAgrees P (storeAt P s calls n)

/-- As long as each call is orderly the store is coherent. -/
theorem coherent_storeAt (h : Coherent P s.own) {m : Nat}
    (horderly : ∀ n (hn : n < calls.length), n < m → calls[n].Orderly P (storeAt P s calls n)) :
    Coherent P (storeAt P s calls m).own := by
  refine stateAt_from (fun s : Store => Coherent P s.own) (Nat.zero_le m) (by simpa using h) ?_
  intro k call _ hkm hcall ih
  obtain ⟨hk, rfl⟩ := List.getElem?_eq_some_iff.mp hcall
  exact Call.coherent_next ih (horderly k hk hkm)

/-- A history that starts coherent keeps the document from going back, and the fleet in
step with it, exactly when every document it adopts follows the one held by then. -/
theorem own_roster_monotone_iff (hs : Coherent P s.own) :
    KeepsOwnRoster P s calls ↔
      ∀ n (hn : n < calls.length), calls[n].Orderly P (storeAt P s calls n) := by
  constructor
  · intro hkeeps n
    -- the calls before this one were orderly, so the store is still coherent
    induction n using Nat.strong_induction_on with
    | _ n ih =>
      intro hn
      have hco : Coherent P (storeAt P s calls n).own :=
        coherent_storeAt hs fun k hk hkn => ih k hkn hk
      refine (Call.ok_iff calls[n] hco).mp ?_
      rw [← storeAt_succ hn]
      exact ⟨hkeeps.never_back n (n + 1) (by omega), hkeeps.in_step (n + 1)⟩
  · intro horderly
    have hco : ∀ n, Coherent P (storeAt P s calls n).own := fun n =>
      coherent_storeAt hs fun k hk _ => horderly k hk
    refine ⟨fun i j hij => ?_, fun n => (hco n).fleetAgrees⟩
    refine seq_related (fun n => NotBelow.refl _) NotBelow.trans (fun n => ?_) hij
    refine stateAt_step (NotBelow.refl _) fun call hcall => ?_
    obtain ⟨hn, rfl⟩ := List.getElem?_eq_some_iff.mp hcall
    exact ((Call.ok_iff calls[n] (hco n)).mpr (horderly n hn)).1

end Histories

open Sample in
/-- A fresh install adopts the roster of one device and then the roster of two. -/
theorem own_roster_monotone_iff_pair :
    Coherent primitives ({} : Store).own ∧
    KeepsOwnRoster primitives {}
      [.adopt firstRoster personRoot device.deviceId,
       .adopt pairRoster personRoot device.deviceId] := by
  have hco : Coherent primitives ({} : Store).own := by
    refine ⟨fun version h => ?_, fun ⟨row, h, _⟩ => absurd h List.not_mem_nil⟩
    exact absurd h (Option.not_mem_none version)
  refine ⟨hco, (own_roster_monotone_iff hco).mpr ?_⟩
  intro n hn
  rcases n with _ | _ | n
  · -- nothing is held yet
    exact fun _ _ held hheld => absurd hheld (Option.not_mem_none held)
  · intro _ _ held hheld
    have hheld' : held = firstRoster :=
      Option.some.inj (hheld.symm.trans (by decide +kernel : _ = some firstRoster))
    rw [hheld']
    exact .inl (by decide +kernel)
  · exact absurd hn (by simp)

open Sample in
/-- The roster of one device, adopted again after the roster of two: the call fails, and
the old document is what it leaves beside the fleet of the new one. -/
theorem old_own_roster_overwrites :
    validate primitives firstRoster personRoot = .ok () ∧
    FleetAgrees primitives pairStore ∧
    pairStore.ownRoster.map (·.version) = some ⟨0, 1⟩ ∧
    (adoptOwnRoster primitives firstRoster personRoot device.deviceId).result pairStore =
      .error (.store ("own device fleet rollback: a projection from (0, 0) does not supersede the " ++
        "stored (0, 1)")) ∧
    (Call.next primitives pairStore (.adopt firstRoster personRoot device.deviceId)).ownRoster =
      some firstRoster ∧
    ¬ NotBelow pairStore
      (Call.next primitives pairStore (.adopt firstRoster personRoot device.deviceId)) ∧
    ¬ FleetAgrees primitives
      (Call.next primitives pairStore (.adopt firstRoster personRoot device.deviceId)) := by
  have hnext : (Call.next primitives pairStore
      (.adopt firstRoster personRoot device.deviceId)).ownRoster = some firstRoster := by
    decide +kernel
  refine ⟨by decide +kernel, ?_, by decide +kernel, by decide +kernel, hnext, ?_, ?_⟩
  · intro _
    exact ⟨pairRoster, rfl, by decide +kernel, by decide +kernel⟩
  · intro h
    obtain ⟨later, hlater, hle⟩ := h pairRoster rfl
    cases hnext.symm.trans hlater
    exact absurd hle (by decide +kernel)
  · intro h
    obtain ⟨roster, hroster, hversion, _⟩ := h (by decide +kernel)
    cases hnext.symm.trans hroster
    exact absurd hversion (by decide +kernel)

end CruiseMesh.OwnRoster
