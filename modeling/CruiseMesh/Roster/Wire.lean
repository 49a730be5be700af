import CruiseMesh.Roster.Document

/-!
# The roster's wire form

The document as it travels: every field behind its length, the signature last. It is
what a contact is sent, what a sibling is sent inside a sync record, and what a removed
device is shown on a link.
-/

namespace CruiseMesh
open Wire

/-! ## Writing -/

/-- `push_wire_bytes`. -/
def pushWireBytes (bytes : Bytes) : Except CoreError Bytes := do
  refuseWhen (u16Max < bytes.length) (.malformed "roster field is too long to encode")
  pure (beBytes 2 bytes.length ++ bytes)

/-- `push_wire_count`. -/
def pushWireCount (count : Nat) (field : String) : Except CoreError Bytes := do
  refuseWhen (u16Max < count) (.malformed ("roster has too many " ++ field ++ " to encode"))
  pure (beBytes 2 count)

def rosterWireVersion : UInt8 := 1

/-- One certificate of `core_encode_roster`. -/
def encodeCert (cert : DeviceCert) : Except CoreError Bytes := do
  let personId ← pushWireBytes cert.personId
  let deviceSignPk ← pushWireBytes cert.deviceSignPk
  let deviceAgreePk ← pushWireBytes cert.deviceAgreePk
  let signerSignPk ← pushWireBytes cert.signerSignPk
  let signature ← pushWireBytes cert.signature
  pure (personId ++ deviceSignPk ++ deviceAgreePk ++ beBytes 8 cert.addedEpoch ++
    beBytes 4 cert.flags.toNat ++ signerSignPk ++ signature)

/-- One tombstone of `core_encode_roster`. -/
def encodeTombstone (tombstone : DeviceTombstone) : Except CoreError Bytes := do
  let deviceId ← pushWireBytes tombstone.deviceId
  pure (deviceId ++ beBytes 8 tombstone.revokedAtSeq)

/-- `core_encode_roster`. -/
def coreEncodeRoster (roster : Roster) : Except CoreError Bytes := do
  let personId ← pushWireBytes roster.personId
  let deviceCount ← pushWireCount roster.devices.length "devices"
  let devices ← roster.devices.mapM encodeCert
  let tombstoneCount ← pushWireCount roster.tombstones.length "tombstones"
  let tombstones ← roster.tombstones.mapM encodeTombstone
  let approvingDeviceId ← pushWireBytes roster.approvingDeviceId
  let signerSignPk ← pushWireBytes roster.signerSignPk
  let signature ← pushWireBytes roster.signature
  pure ([rosterWireVersion] ++ personId ++ beBytes 8 roster.recoveryEpoch ++ beBytes 8 roster.seq ++
    deviceCount ++ devices.flatten ++ tombstoneCount ++ tombstones.flatten ++ approvingDeviceId ++
    beBytes 8 roster.inboxKeyGeneration ++ signerSignPk ++ signature)

/-! ## Reading -/

def rosterTruncated (n pos : Nat) : CoreError :=
  .malformed ("truncated roster: need " ++ toString n ++ " more byte(s) at offset " ++ toString pos)

def rosterTrailing (left : Nat) : CoreError :=
  .malformed (toString left ++ " unexpected trailing byte(s) after the roster")

/-- One certificate of `core_decode_roster`. -/
def readCert : Reader CoreError DeviceCert := do
  let personId ← takePrefixed rosterTruncated 2
  let deviceSignPk ← takePrefixed rosterTruncated 2
  let deviceAgreePk ← takePrefixed rosterTruncated 2
  let addedEpoch ← takeNat rosterTruncated 8
  let flags ← takeNat rosterTruncated 4
  let signerSignPk ← takePrefixed rosterTruncated 2
  let signature ← takePrefixed rosterTruncated 2
  pure { personId, deviceSignPk, deviceAgreePk, addedEpoch, flags := UInt32.ofNat flags,
         signerSignPk, signature }

/-- One tombstone of `core_decode_roster`. -/
def readTombstone : Reader CoreError DeviceTombstone := do
  let deviceId ← takePrefixed rosterTruncated 2
  let revokedAtSeq ← takeNat rosterTruncated 8
  pure { deviceId, revokedAtSeq }

/-- The fields of a roster, in the order they are written. -/
def readRoster : Reader CoreError Roster := do
  let version ← takeNat rosterTruncated 1
  refuseWhen (version ≠ rosterWireVersion.toNat)
    (CoreError.malformed ("unsupported roster wire version " ++ toString version))
  let personId ← takePrefixed rosterTruncated 2
  let recoveryEpoch ← takeNat rosterTruncated 8
  let seq ← takeNat rosterTruncated 8
  let deviceCount ← takeNat rosterTruncated 2
  let devices ← takeMany readCert deviceCount
  let tombstoneCount ← takeNat rosterTruncated 2
  let tombstones ← takeMany readTombstone tombstoneCount
  let approvingDeviceId ← takePrefixed rosterTruncated 2
  let inboxKeyGeneration ← takeNat rosterTruncated 8
  let signerSignPk ← takePrefixed rosterTruncated 2
  let signature ← takePrefixed rosterTruncated 2
  pure { personId, recoveryEpoch, seq, devices, tombstones, approvingDeviceId,
         inboxKeyGeneration, signerSignPk, signature }

/-- `core_decode_roster`. -/
def coreDecodeRoster (bytes : Bytes) : Except CoreError Roster :=
  readAll rosterTrailing readRoster bytes

end CruiseMesh
