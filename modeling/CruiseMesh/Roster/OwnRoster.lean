import CruiseMesh.Roster.Builders
import CruiseMesh.Roster.Wire
import CruiseMesh.Store.Schema

/-!
# The own roster and its projections

A device keeps its person's roster three times over: the document itself, the fleet
that routing and acks read, and the context inbound sync records are admitted against.
The document is overwritten whatever it replaces. The fleet refuses a version that is
not above the stored one; the sync context skips it and succeeds.
-/

namespace CruiseMesh
open Wire Durable Prog

/-! ## The fleet projection -/

/-- Which devices a person holds, and which of them is this one. -/
structure OwnDeviceFleet where
  ownDeviceId : Option Bytes := none
  deviceIds : List Bytes := []
  projectedFrom : RosterVersion := ⟨0, 0⟩
deriving DecidableEq

variable (fleet : OwnDeviceFleet)

/-- `validate_own_device_fleet`. -/
def validateOwnDeviceFleet : Except CoreError Unit := do
  refuseWhen (∃ id ∈ fleet.deviceIds, id.length ≠ deviceIdLen ∨ id = legacyDeviceId)
    (.store "own device fleet lists a device id that is not a real device id")
  refuseWhen (¬ fleet.deviceIds.Nodup) (.store "own device fleet lists the same device twice")
  refuseWhen (coreDeviceAddOutcome (fleet.deviceIds.length % 2 ^ 32) = .refused)
    (.store "own device fleet holds more devices than the hard cap")
  match fleet.ownDeviceId with
  | some ownDeviceId =>
    refuseWhen (ownDeviceId ∉ fleet.deviceIds)
      (.store "own device fleet does not list this device among its own devices")
  | none =>
    refuseWhen (fleet.deviceIds ≠ [])
      (.store "own device fleet names siblings without naming which device is this one")

/-- A version as the refusal prints it. -/
def RosterVersion.show (version : RosterVersion) : String :=
  "(" ++ toString version.recoveryEpoch ++ ", " ++ toString version.seq ++ ")"

/-- The refusal of a projection that does not supersede the stored one. -/
def fleetRefusal (incoming stored : RosterVersion) : CoreError :=
  .store ("own device fleet " ++ (if incoming = stored then "idempotent repeat" else "rollback") ++
    ": a projection from " ++ incoming.show ++ " does not supersede the stored " ++ stored.show)

/-- The rows of a fleet, in roster order. -/
def OwnDeviceFleet.rows : List OwnFleetRow :=
  fleet.deviceIds.zipIdx.map fun (deviceId, ordinal) =>
    { deviceId, ordinal, isSelf := fleet.ownDeviceId = some deviceId }

/-- `set_own_device_fleet`: whole-record replacement, monotone in the version. -/
def setOwnDeviceFleet : Prog Store CoreError Unit := do
  validateOwnDeviceFleet fleet
  transaction do
    let s ← get
    refuseWhen (∃ stored ∈ s.ownFleetVersion, fleet.projectedFrom ≤ stored)
      (fleetRefusal fleet.projectedFrom (s.ownFleetVersion.getD ⟨0, 0⟩))
    set { s with ownFleetVersion := some fleet.projectedFrom, ownFleet := fleet.rows }

/-- `own_device_fleet`. -/
def Store.ownDeviceFleet (s : Store) : OwnDeviceFleet :=
  let rows := s.ownFleet.insertionSort fun a b => a.ordinal ≤ b.ordinal
  { ownDeviceId := (rows.filter (·.isSelf)).getLast?.map (·.deviceId)
    deviceIds := rows.map (·.deviceId)
    projectedFrom := s.ownFleetVersion.getD ⟨0, 0⟩ }

section Adopt
variable (P : Primitives) (roster : Roster)

/-- `project_own_fleet`. -/
def projectOwnFleet (ownDeviceId : Bytes) : Prog Store CoreError Unit :=
  setOwnDeviceFleet
    { ownDeviceId := some ownDeviceId, deviceIds := roster.deviceIds P,
      projectedFrom := roster.version }

/-- `store_own_roster`. -/
def storeOwnRoster : Prog Store CoreError Unit :=
  write fun s => { s with ownRoster := some roster }

/-- `adopt_own_roster`. -/
def adoptOwnRoster (personRootSignPk ownDeviceId : Bytes) : Prog Store CoreError Unit := do
  (validate P roster personRootSignPk).mapError fun rejection =>
    CoreError.malformed ("own roster is not acceptable: " ++ rejection.debug)
  refuseWhen (ownDeviceId ∉ roster.deviceIds P)
    (CoreError.store "own roster does not list this device")
  storeOwnRoster roster
  projectOwnFleet P roster ownDeviceId

end Adopt

/-- `core_set_own_sync_context`: `false`, and nothing written, when the stored context
is not older. -/
def coreSetOwnSyncContext (roster : Roster) (inboxKeyGeneration : Nat) :
    Prog Store CoreError Bool := do
  let current ← inspect (·.ownSyncContext)
  if ∃ row ∈ current, roster.version ≤ row.version then pure false
  else do
    let encoded ← coreEncodeRoster roster
    write fun s => { s with
      ownSyncContext :=
        some ⟨encoded, roster.recoveryEpoch, roster.seq, inboxKeyGeneration⟩ }
    pure true

/-! ## What the writers do -/

section Specs
variable {P : Primitives} {roster : Roster} {root ownDeviceId : Bytes} {s s' : Store}

/-- The store once a fleet has been projected. -/
def Store.withFleet (s : Store) (fleet : OwnDeviceFleet) : Store :=
  { s with ownFleetVersion := some fleet.projectedFrom, ownFleet := fleet.rows }

variable {fleet : OwnDeviceFleet} {u : Unit} {I : Store → Prop} {generation : Nat}

theorem setFleet_tx {u : Unit} :
    (do
      let s ← get
      refuseWhen (∃ stored ∈ s.ownFleetVersion, fleet.projectedFrom ≤ stored)
        (fleetRefusal fleet.projectedFrom (s.ownFleetVersion.getD ⟨0, 0⟩))
      set { s with ownFleetVersion := some fleet.projectedFrom, ownFleet := fleet.rows } :
        Tx Store CoreError Unit) s = .ok (u, s') ↔
      (∀ stored ∈ s.ownFleetVersion, stored < fleet.projectedFrom) ∧ s.withFleet fleet = s' := by
  rw [Tx.get_bind]
  by_cases hold : ∃ stored ∈ s.ownFleetVersion, fleet.projectedFrom ≤ stored
  · rw [refuseWhen_pos hold]
    obtain ⟨stored, hmem, hle⟩ := hold
    constructor
    · intro h
      cases h
    · intro ⟨hall, _⟩
      exact absurd (hall stored hmem) (not_lt.mpr hle)
  · rw [refuseWhen_neg hold]
    have hall : ∀ stored ∈ s.ownFleetVersion, stored < fleet.projectedFrom :=
      fun stored hmem => not_le.mp fun hle => hold ⟨stored, hmem, hle⟩
    constructor
    · intro h
      exact ⟨hall, (ok_pair_inj h).2⟩
    · intro ⟨_, h⟩
      rw [← h]
      rfl

theorem returns_setOwnDeviceFleet :
    (setOwnDeviceFleet fleet).Returns s u s' ↔
      validateOwnDeviceFleet fleet = .ok () ∧
        (∀ stored ∈ s.ownFleetVersion, stored < fleet.projectedFrom) ∧ s.withFleet fleet = s' := by
  unfold setOwnDeviceFleet
  rw [returns_bind]
  constructor
  · intro ⟨_, mid, ⟨hval, hmid⟩, htx⟩
    obtain rfl : s = mid := hmid
    exact ⟨hval, setFleet_tx.mp (returns_transaction.mp htx)⟩
  · intro ⟨hval, htx⟩
    exact ⟨(), s, ⟨hval, rfl⟩, returns_transaction.mpr (setFleet_tx.mpr htx)⟩

/-- The fleet a valid roster projects to is one the writer takes. -/
theorem validateOwnDeviceFleet_of_valid (hvalid : ValidRoster P roster root)
    (hlisted : ownDeviceId ∈ roster.deviceIds P) :
    validateOwnDeviceFleet
      { ownDeviceId := some ownDeviceId, deviceIds := roster.deviceIds P,
        projectedFrom := roster.version } = .ok () := by
  have hreal : ¬ ∃ id ∈ roster.deviceIds P, id.length ≠ deviceIdLen ∨ id = legacyDeviceId := by
    intro ⟨id, hid, hbad⟩
    obtain ⟨cert, hcert, rfl⟩ := List.mem_map.mp hid
    rcases hbad with hlen | hlegacy
    · exact hlen (P.deriveUserId_length _)
    · exact (hvalid.certs cert hcert).2.2 hlegacy
  have hcap : ¬ coreDeviceAddOutcome ((roster.deviceIds P).length % 2 ^ 32) = .refused := by
    have h := hvalid.cap
    rwa [Roster.deviceIds, List.length_map]
  unfold validateOwnDeviceFleet
  rw [refuseWhen_neg hreal, refuseWhen_neg (not_not.mpr hvalid.devices_nodup), refuseWhen_neg hcap]
  exact refuseWhen_neg (not_not.mpr hlisted)

/-- The store once a roster has been adopted. -/
def Store.adopted (P : Primitives) (s : Store) (roster : Roster) (ownDeviceId : Bytes) : Store :=
  Store.withFleet { s with ownRoster := some roster }
    { ownDeviceId := some ownDeviceId, deviceIds := roster.deviceIds P,
      projectedFrom := roster.version }

/-- Adoption of a valid roster that lists this device succeeds exactly when the stored
fleet is older. -/
theorem returns_adoptOwnRoster (hvalid : ValidRoster P roster root)
    (hlisted : ownDeviceId ∈ roster.deviceIds P) :
    (adoptOwnRoster P roster root ownDeviceId).Returns s u s' ↔
      (∀ stored ∈ s.ownFleetVersion, stored < roster.version) ∧
        s.adopted P roster ownDeviceId = s' := by
  unfold adoptOwnRoster
  rw [validate_eq_ok_iff.mpr hvalid, refuseWhen_neg (not_not.mpr hlisted)]
  simp only [returns_bind]
  constructor
  · intro ⟨_, _, ⟨_, h₁⟩, _, _, ⟨_, h₂⟩, _, _, hstore, hfleet⟩
    subst h₁ h₂
    obtain rfl := returns_write.mp hstore
    exact (returns_setOwnDeviceFleet.mp hfleet).2
  · intro hver
    refine ⟨(), s, ⟨rfl, rfl⟩, (), s, ⟨rfl, rfl⟩, (), _, returns_write.mpr rfl, ?_⟩
    exact returns_setOwnDeviceFleet.mpr ⟨validateOwnDeviceFleet_of_valid hvalid hlisted, hver⟩

/-- Adoption touches the document and the fleet and nothing else. -/
theorem throughout_adoptOwnRoster (hs : I s) (hdoc : ∀ s doc, I s → I { s with ownRoster := doc })
    (hfleet : ∀ s fleet, I s → I (s.withFleet fleet)) :
    (adoptOwnRoster P roster root ownDeviceId).Throughout s I := by
  refine throughout_lift_bind hs fun _ _ => throughout_lift_bind hs fun _ _ => ?_
  refine throughout_bind (throughout_write.mpr ⟨hs, hdoc _ _ hs⟩) fun _ s₁ _ hs₁ => ?_
  refine throughout_lift_bind hs₁ fun _ _ => throughout_transaction hs₁ fun _ s₂ htx => ?_
  rw [← (setFleet_tx.mp htx).2]
  exact hfleet _ _ hs₁

/-- The store once the sync context has been moved to `roster`. -/
def Store.withSyncContext (s : Store) (roster : Roster) (encoded : Bytes)
    (inboxKeyGeneration : Nat) : Store :=
  { s with
    ownSyncContext := some ⟨encoded, roster.recoveryEpoch, roster.seq, inboxKeyGeneration⟩ }

/-- The sync context moves forward, or stays where it is. -/
theorem returns_coreSetOwnSyncContext {moved : Bool} :
    (coreSetOwnSyncContext roster generation).Returns s moved s' ↔
      (moved = false ∧ s = s' ∧ ∃ row ∈ s.ownSyncContext, roster.version ≤ row.version) ∨
      (moved = true ∧ (∀ row ∈ s.ownSyncContext, row.version < roster.version) ∧
        ∃ encoded, coreEncodeRoster roster = .ok encoded ∧
          s.withSyncContext roster encoded generation = s') := by
  unfold coreSetOwnSyncContext
  rw [returns_bind]
  simp only [returns_inspect]
  by_cases hold : ∃ row ∈ s.ownSyncContext, roster.version ≤ row.version
  · constructor
    · rintro ⟨_, _, ⟨rfl, rfl⟩, h⟩
      rw [if_pos hold, returns_pure] at h
      exact .inl ⟨h.1.symm, h.2, hold⟩
    · rintro (⟨rfl, rfl, _⟩ | ⟨_, hall, _⟩)
      · refine ⟨_, s, ⟨rfl, rfl⟩, ?_⟩
        rw [if_pos hold]
        exact ⟨rfl, rfl⟩
      · obtain ⟨row, hmem, hle⟩ := hold
        exact absurd (hall row hmem) (not_lt.mpr hle)
  · have hall : ∀ row ∈ s.ownSyncContext, row.version < roster.version :=
      fun row hmem => not_le.mp fun hle => hold ⟨row, hmem, hle⟩
    constructor
    · rintro ⟨_, _, ⟨rfl, rfl⟩, h⟩
      rw [if_neg hold] at h
      simp only [returns_bind, returns_write, returns_pure] at h
      obtain ⟨encoded, _, ⟨henc, hmid⟩, _, _, hwrite, hmoved, hs'⟩ := h
      subst hmid hwrite hs'
      exact .inr ⟨hmoved.symm, hall, encoded, henc, rfl⟩
    · rintro (⟨_, _, hold'⟩ | ⟨rfl, _, encoded, henc, rfl⟩)
      · exact absurd hold' hold
      · refine ⟨_, s, ⟨rfl, rfl⟩, ?_⟩
        rw [if_neg hold]
        simp only [returns_bind, returns_write, returns_pure]
        exact ⟨encoded, s, ⟨henc, rfl⟩, (), _, rfl, trivial, rfl⟩

theorem throughout_coreSetOwnSyncContext (hs : I s)
    (hctx : ∀ s row, I s → I { s with ownSyncContext := row }) :
    (coreSetOwnSyncContext roster generation).Throughout s I := by
  refine throughout_inspect_bind.mpr ?_
  split
  · exact throughout_pure.mpr hs
  · refine throughout_lift_bind hs fun _ _ => ?_
    refine throughout_bind (throughout_write.mpr ⟨hs, hctx _ _ hs⟩) fun _ s₁ _ hs₁ => ?_
    exact throughout_pure.mpr hs₁

end Specs
end CruiseMesh
