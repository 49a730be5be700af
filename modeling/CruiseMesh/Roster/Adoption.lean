import CruiseMesh.Roster.ApplyContact
import CruiseMesh.Roster.Revocation
import CruiseMesh.Sync.Admit

/-!
# Adopting a roster a sibling signed

A device learns of a new roster of its own person in two ways: a notice on a link that
is already known to be a sibling's, and the sealed announcement of a rotated inbox key.
Both ask `core_roster_accept`, and both take the device off the mesh when the document
buries it. Otherwise the notice adopts only a roster whose inbox key the device already
holds, and the announcement brings the key along.
-/

namespace CruiseMesh
open Durable Prog

inductive RevocationAdoptionOutcome where
  | adopted
  | notSuperseding
  | revokedSelf
  | awaitingRotationKey
  | refused
  | forkQuarantined
deriving DecidableEq

structure RevocationAdoption where
  outcome : RevocationAdoptionOutcome
  reason : RosterUpdateReason
  revokedDeviceIds : List Bytes := []
  inboxKey : Option InboxKey := none
  resealedRecords : Nat := 0
  unresealableRecords : Nat := 0
deriving DecidableEq

/-- What an ignored document is called: an ordinary silence, or a refusal. -/
def ignoredOutcome : RosterUpdateReason → RevocationAdoptionOutcome
  | .rollback => .notSuperseding
  | .idempotentRepeat => .notSuperseding
  | _ => .refused

/-- `mark_quarantined`: the bit, on a row of its own where the person has none. -/
def markQuarantined (personUserId : Bytes) (s : Store) : Store :=
  match s.contactRosterRow personUserId with
  | some row => { s with
      contactRosters := Table.upsert (·.personUserId) { row with quarantined := true }
        s.contactRosters }
  | none => { s with contactRosters := s.contactRosters ++ [quarantineOnlyRow personUserId] }

/-- The fleet version a burial leaves: never lower than the stored one. -/
def buriedVersion (roster : Roster) : Option RosterVersion → RosterVersion
  | some stored => if stored < roster.version then roster.version else stored
  | none => roster.version

/-- `eject_self_from_fleet`: the document, the fleet and the gate in one transaction. -/
def ejectSelfFromFleet (roster : Roster) (ownDeviceId : Bytes) (nowMs : Int) :
    Prog Store CoreError Unit :=
  transaction (modify fun s => { s with
    ownRoster := some roster
    ownFleetVersion := some (buriedVersion roster s.ownFleetVersion)
    ownFleet := []
    linkActivation := some { s.linkActivation.getD { startedAtMs := nowMs } with
      stage := .revoked, expectedRosterHead := none, ownDeviceId := some ownDeviceId
      channelBinding := none } })

section Adopt
variable (P : Primitives)

/-- `self_heal_damaged_roster` on a bare connection: each statement is a write of its own. -/
def healDamagedRoster (personId : Bytes) (quarantined : Bool) : Prog Store CoreError Unit := do
  write fun s => { s with
    contactRosters := s.contactRosters.filter fun row => row.personUserId ≠ personId }
  write fun s => { s with
    contactDevices := s.contactDevices.filter fun row => row.personUserId ≠ personId }
  if quarantined then
    write fun s => { s with contactRosters := s.contactRosters ++ [quarantineOnlyRow personId] }

/-- The document under the header cannot be rebuilt. -/
def Store.Damaged (s : Store) (personId : Bytes) (state : ContactRosterState) : Prop :=
  state.roster.isNone ∧ (s.contactRosterRow personId).any fun header => header.headHash ≠ []

instance (s : Store) (personId : Bytes) (state : ContactRosterState) :
    Decidable (s.Damaged personId state) := inferInstanceAs (Decidable (_ ∧ _))

/-- The quarantine bit stored for a person, as `load_state` reads it outside of a transaction:
rows that are damaged are dropped one statement after the other. -/
def storedQuarantine (personId : Bytes) : Prog Store CoreError Bool := do
  let loaded ← inspect (loadState P personId)
  let (state, _) ← loaded
  if (← inspect fun s => decide (s.Damaged personId state)) then
    healDamagedRoster personId state.quarantined
  pure state.quarantined

/-! ## A notice on a link -/

/-- `core_roster_person_root_sign_pk`. -/
def coreRosterPersonRootSignPk (roster : Roster) : Option Bytes :=
  let derivesToPerson (key : Bytes) : Bool :=
    key.length = keyLen ∧ P.deriveUserId key = roster.personId
  if derivesToPerson roster.signerSignPk then some roster.signerSignPk
  else (roster.devices.map (·.signerSignPk)).find? derivesToPerson

/-- The key a notice is checked against: the caller's when it is this person's root, and
otherwise the one the held roster is rooted in. -/
def noticeAnchor (held : Roster) (personRootSignPk : Bytes) : Except CoreError Bytes :=
  if P.deriveUserId personRootSignPk = held.personId then .ok personRootSignPk
  else okOr (coreRosterPersonRootSignPk P held) (.store
    "this device's roster names no person root to check a notice against")

/-- What follows once the document has been accepted. -/
def adoptNotice (held incoming : Roster) (reason : RosterUpdateReason) (ownDeviceId : Bytes)
    (nowMs : Int) : Prog Store CoreError RevocationAdoption :=
  let revokedDeviceIds := coreRosterNewlyRevoked (some held) incoming
  if ownDeviceId ∈ incoming.tombstoneIds then do
    ejectSelfFromFleet incoming ownDeviceId nowMs
    pure { outcome := .revokedSelf, reason, revokedDeviceIds }
  else if ownDeviceId ∉ incoming.deviceIds P then
    -- neither listed nor buried
    pure { outcome := .refused, reason := .invalid }
  else if incoming.inboxKeyGeneration ≠ held.inboxKeyGeneration then
    pure { outcome := .awaitingRotationKey, reason, revokedDeviceIds }
  else do
    storeOwnRoster incoming
    projectOwnFleet P incoming ownDeviceId
    pure { outcome := .adopted, reason, revokedDeviceIds }

/-- `apply_own_roster_notice`. -/
def applyOwnRosterNotice (document personRootSignPk ownDeviceId : Bytes) (nowMs : Int) :
    Prog Store CoreError RevocationAdoption := do
  let stored ← inspect (·.ownRoster)
  let held ← okOr stored (CoreError.store
    "this device has no roster of its own, so it has no fleet to be removed from")
  let incoming ← coreDecodeRoster document
  refuseWhen (incoming.personId ≠ held.personId)
    (CoreError.malformed "an own-roster notice names a different person")
  let storedQuarantined ← storedQuarantine P held.personId
  let anchor ← noticeAnchor P held personRootSignPk
  let decision := coreRosterAccept P (some held) storedQuarantined incoming anchor
  match decision.outcome with
  | .accepted => adoptNotice P held incoming decision.reason ownDeviceId nowMs
  | .forkQuarantined => do
    write (markQuarantined held.personId)
    pure { outcome := .forkQuarantined, reason := decision.reason }
  | .ignored => pure { outcome := ignoredOutcome decision.reason, reason := decision.reason }

/-! ## The announcement of a rotation -/

/-- What follows once the announced roster has been accepted. -/
def adoptAnnounced (held : Roster) (payload : SyncOwnRosterPayload) (reason : RosterUpdateReason)
    (personRootSignPk : Bytes) (ownDevice : DeviceKeypair) (supersededInboxKey : Option InboxKey)
    (nowMs : Int) (entropy : Nat → SealEntropy) : Prog Store CoreError RevocationAdoption :=
  let incoming := payload.roster
  let revokedDeviceIds := coreRosterNewlyRevoked (some held) incoming
  if ownDevice.deviceId ∈ incoming.tombstoneIds then do
    ejectSelfFromFleet incoming ownDevice.deviceId nowMs
    pure { outcome := .revokedSelf, reason, revokedDeviceIds }
  else do
    let inboxKey ← okOr
      (payload.inboxKeys.find? fun key => key.generation = incoming.inboxKeyGeneration)
      (CoreError.malformed
        "a rotation handoff announced a generation it did not carry the key for")
    let (resealedRecords, unresealableRecords) ←
      resealOwnBacklog P ownDevice supersededInboxKey incoming inboxKey entropy
    adoptOwnRoster P incoming personRootSignPk ownDevice.deviceId
    let _ ← coreSetOwnSyncContext incoming inboxKey.generation
    pure { outcome := .adopted, reason, revokedDeviceIds, inboxKey := some inboxKey
           resealedRecords, unresealableRecords }

/-- `adopt_revocation_handoff`. -/
def adoptRevocationHandoff (body personRootSignPk : Bytes) (ownDevice : DeviceKeypair)
    (supersededInboxKey : Option InboxKey) (nowMs : Int) (entropy : Nat → SealEntropy) :
    Prog Store CoreError RevocationAdoption := do
  let stored ← inspect (·.ownRoster)
  let held ← okOr stored (CoreError.store
    "this device has no roster of its own, so it has no fleet to be revoked from")
  let record ← coreOpenSyncHandoff P body ownDevice.agreeSk held personRootSignPk
  let payload ← coreDecodeSyncOwnRoster record.payload
  refuseWhen (payload.roster.personId ≠ held.personId)
    (CoreError.malformed "a rotation handoff names a different person")
  let storedQuarantined ← storedQuarantine P held.personId
  let decision := coreRosterAccept P (some held) storedQuarantined payload.roster personRootSignPk
  match decision.outcome with
  | .accepted =>
    adoptAnnounced P held payload decision.reason personRootSignPk ownDevice supersededInboxKey
      nowMs entropy
  | .forkQuarantined => do
    write (markQuarantined held.personId)
    pure { outcome := .forkQuarantined, reason := decision.reason }
  | .ignored => pure { outcome := ignoredOutcome decision.reason, reason := decision.reason }

end Adopt
end CruiseMesh
