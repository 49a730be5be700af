import CruiseMesh.Roster.Accept
import CruiseMesh.Roster.Wire
import CruiseMesh.Sync.Seal

/-!
# Who may speak inside a person's fleet

`sync_record.rs`: the gate a sync record passes before it is believed. The record must
name this person, and the device that authored it must be one the own roster lists and
has not buried; the outer signature must come from the same device set. The announcement
of a rotated inbox key has a gate of its own, which drops the check on the generation and
takes one kind of record, and which also believes a device the announced roster lists,
provided the held roster would accept that one.
-/

namespace CruiseMesh
open Wire

inductive SyncRecordRejection where
  | foreignPerson
  | staleInboxKey
  | legacyAuthorDevice
  | revokedAuthorDevice
  | unknownAuthorDevice
  | signatureInvalid
  | notARotationHandoff

/-- `sync_rejection_error`. -/
def syncRejectionError : SyncRecordRejection → CoreError
  | .signatureInvalid => .signatureInvalid
  | .foreignPerson => .crypto "sync record names another person"
  | .staleInboxKey => .crypto "sync record is sealed under a superseded inbox key"
  | .legacyAuthorDevice => .crypto "sync record claims the legacy device stream"
  | .revokedAuthorDevice => .crypto "sync record is authored by a revoked device"
  | .unknownAuthorDevice => .crypto "sync record is authored by an unknown device"
  | .notARotationHandoff =>
    .crypto "only an own-roster record may ride the rotation handoff channel"

section Gate
variable (P : Primitives) (record : SyncRecord)

/-- `core_verify_sync_record`. -/
def coreVerifySyncRecord (authorDeviceSignPk : Bytes) : Except CoreError Unit := do
  let signed ← syncRecordSignedBytes record
  P.verifyRaw authorDeviceSignPk (syncRecordSignDomain ++ lenPrefixed signed) record.signature

/-- `admit`. The generation is not looked at where there is none to compare with. -/
def admitRecord (inboxKeyGeneration : Option Nat) (ownRoster : Roster) :
    Option SyncRecordRejection :=
  if record.personId ≠ ownRoster.personId then some .foreignPerson
  else if ∃ generation ∈ inboxKeyGeneration, record.inboxKeyGeneration ≠ generation then
    some .staleInboxKey
  else if record.authorDeviceId.length ≠ deviceIdLen ∨ record.authorDeviceId = legacyDeviceId then
    some .legacyAuthorDevice
  else if record.authorDeviceId ∈ ownRoster.tombstoneIds then some .revokedAuthorDevice
  else
    match ownRoster.devices.find? fun cert => cert.deviceId P = record.authorDeviceId with
    | none => some .unknownAuthorDevice
    | some author =>
      match coreVerifySyncRecord P record author.deviceSignPk with
      | .ok _ => none
      | .error _ => some .signatureInvalid

/-- `core_sync_record_admit`. -/
def coreSyncRecordAdmit (inboxKeyGeneration : Nat) (ownRoster : Roster) :
    Option SyncRecordRejection :=
  admitRecord P record (some inboxKeyGeneration) ownRoster

/-- `core_sync_handoff_admit`. -/
def coreSyncHandoffAdmit (ownRoster : Roster) : Option SyncRecordRejection :=
  if record.kind ≠ .ownRoster then some .notARotationHandoff else admitRecord P record none ownRoster

/-- `outer_signer_is_own`. -/
def outerSignerIsOwn (signerId : Bytes) (ownRoster : Roster) : Bool :=
  if signerId ∈ ownRoster.tombstoneIds then false
  else if ownRoster.personId = signerId then true
  else signerId ∈ ownRoster.deviceIds P

/-- `core_open_sync_record`. -/
def coreOpenSyncRecord (body : Bytes) (inboxKey : InboxKey) (ownRoster : Roster) :
    Except CoreError SyncRecord := do
  let opened ← openSealedWithAgreeSk P inboxKey.agreeSk body
  refuseWhen (outerSignerIsOwn P opened.senderUserId ownRoster = false)
    (.crypto "sync record was not sealed by this person's own device set")
  let record ← coreDecodeSyncRecord opened.payload
  match coreSyncRecordAdmit P record inboxKey.generation ownRoster with
  | none => pure record
  | some rejection => .error (syncRejectionError rejection)

end Gate

/-! ## The announcement of a rotation -/

structure SyncOwnRosterPayload where
  roster : Roster
  inboxKeys : List InboxKey

/-- `take_payload_header`. -/
def takePayloadHeader : Reader CoreError Nat := do
  let version ← takeNat syncTruncated 1
  refuseWhen (version ≠ syncRecordVersion.toNat)
    (CoreError.malformed ("unsupported sync payload version " ++ toString version))
  let count ← takeNat syncTruncated 2
  refuseWhen (syncRecordMaxEntries < count) (CoreError.malformed (
    "sync payload claims " ++ toString count ++ " entries, over the " ++
    toString syncRecordMaxEntries ++ " limit"))
  pure count

/-- One key of an own-roster payload. -/
def readInboxKey : Reader CoreError InboxKey := do
  let generation ← takeNat syncTruncated 8
  let agreePk ← take syncTruncated keyLen
  let agreeSk ← take syncTruncated keyLen
  pure { generation, agreePk, agreeSk }

/-- The fields of an own-roster payload. The roster is decoded where it stands. -/
def readSyncOwnRoster : Reader CoreError SyncOwnRosterPayload := do
  let count ← takePayloadHeader
  let document ← takePrefixed syncTruncated 4
  let roster ← coreDecodeRoster document
  let inboxKeys ← takeMany readInboxKey count
  pure { roster, inboxKeys }

/-- `core_decode_sync_own_roster`. -/
def coreDecodeSyncOwnRoster (bytes : Bytes) : Except CoreError SyncOwnRosterPayload :=
  readAll syncTrailing readSyncOwnRoster bytes

section Handoff
variable (P : Primitives)

/-- What the ordinary gate says of a handoff that did not pass. -/
def ordinaryRefusal (record : SyncRecord) (ownRoster : Roster) : CoreError :=
  match coreSyncHandoffAdmit P record ownRoster with
  | some rejection => syncRejectionError rejection
  | none => .crypto "rotation handoff was not sealed by this person's own device set"

/-- `core_open_sync_handoff`. The quarantine bit is not consulted here. -/
def coreOpenSyncHandoff (body ownDeviceAgreeSk : Bytes) (ownRoster : Roster)
    (personRootSignPk : Bytes) : Except CoreError SyncRecord := do
  let opened ← openSealedWithAgreeSk P ownDeviceAgreeSk body
  let record ← coreDecodeSyncRecord opened.payload
  if outerSignerIsOwn P opened.senderUserId ownRoster = true ∧
      coreSyncHandoffAdmit P record ownRoster = none then pure record
  else
    -- the recovery path: a device that only the announced roster lists
    match coreDecodeSyncOwnRoster record.payload with
    | .error _ => .error (ordinaryRefusal P record ownRoster)
    | .ok payload => do
      let decision := coreRosterAccept P (some ownRoster) false payload.roster personRootSignPk
      refuseWhen (decision.outcome ≠ .accepted) (ordinaryRefusal P record ownRoster)
      refuseWhen (outerSignerIsOwn P opened.senderUserId payload.roster = false)
        (ordinaryRefusal P record ownRoster)
      match coreSyncHandoffAdmit P record payload.roster with
      | none => pure record
      | some _ => .error (ordinaryRefusal P record ownRoster)

end Handoff
end CruiseMesh
