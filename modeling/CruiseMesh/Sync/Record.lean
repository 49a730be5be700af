import CruiseMesh.Crypto
import CruiseMesh.Lib.Durable
import CruiseMesh.Roster.Document

/-!
# Sync records

`sync_record.rs`: what one device of a person tells its siblings. A record names its
stream `(author, kind)` and its place in it, is signed by the authoring device, and is
sealed to the person's inbox key, a key every own device holds and nobody else.

`coreDecodeSyncRecord_encode` is the format's round trip.
-/

namespace CruiseMesh
open Wire List

/-! ## Kinds -/

inductive SyncRecordKind where
  | history
  | watermarks
  | contacts
  | ownRoster
  | groups
  | settings
  | digest
deriving DecidableEq

/-- `core_sync_record_kind_wire`. -/
def coreSyncRecordKindWire : SyncRecordKind → UInt8
  | .history => 10
  | .watermarks => 11
  | .contacts => 12
  | .ownRoster => 13
  | .groups => 14
  | .settings => 15
  | .digest => 20

/-- `core_sync_record_kind_of`. -/
def coreSyncRecordKindOf (kind : UInt8) : Option SyncRecordKind :=
  if kind = 10 then some .history
  else if kind = 11 then some .watermarks
  else if kind = 12 then some .contacts
  else if kind = 13 then some .ownRoster
  else if kind = 14 then some .groups
  else if kind = 15 then some .settings
  else if kind = 20 then some .digest
  else none

@[simp] theorem coreSyncRecordKindOf_wire (kind : SyncRecordKind) :
    coreSyncRecordKindOf (coreSyncRecordKindWire kind) = some kind := by
  cases kind <;> rfl

/-- A kind byte names at most one kind. -/
theorem coreSyncRecordKindOf_eq_some {wire : UInt8} {kind : SyncRecordKind} :
    coreSyncRecordKindOf wire = some kind ↔ wire = coreSyncRecordKindWire kind := by
  constructor
  · intro h
    unfold coreSyncRecordKindOf at h
    split_ifs at h <;> cases h <;> assumption
  · intro h
    rw [h, coreSyncRecordKindOf_wire]

/-- `core_sync_kind_is_stream`: every kind but the digest. -/
def coreSyncKindIsStream (kind : SyncRecordKind) : Bool := kind != .digest

/-! ## Keys -/

/-- The person-scoped key own devices seal each other's sync records to. -/
structure InboxKey where
  generation : Nat
  agreePk : Bytes
  agreeSk : Bytes
deriving DecidableEq

/-- A device's own keypairs. -/
structure DeviceKeypair where
  deviceId : Bytes
  signPk : Bytes
  signSk : Bytes
  agreePk : Bytes
  agreeSk : Bytes

/-- `core_device_sync_identity`. -/
def coreDeviceSyncIdentity (device : DeviceKeypair) : Identity where
  userId := device.deviceId
  signPk := device.signPk
  signSk := device.signSk
  agreePk := device.agreePk
  agreeSk := device.agreeSk

section Keys
variable (P : Primitives)

/-- `core_mint_inbox_key`, with the secret the generator gave. -/
def coreMintInboxKey (generation : Nat) (fresh : Bytes) : InboxKey where
  generation := generation
  agreePk := P.agreePublicKey fresh
  agreeSk := fresh

/-- `core_rotate_inbox_key`: nothing of the old key survives but its number. -/
def coreRotateInboxKey (current : InboxKey) (fresh : Bytes) : InboxKey :=
  coreMintInboxKey P (saturatingSucc current.generation) fresh

/-- `inbox_key_is_consistent`. -/
def InboxKey.Consistent (key : InboxKey) : Prop :=
  key.agreeSk.length = keyLen ∧ P.agreePublicKey key.agreeSk = key.agreePk

instance (key : InboxKey) : Decidable (key.Consistent P) := inferInstanceAs (Decidable (_ ∧ _))

/-- The keypair is one `generate_device_keypair` can give. -/
structure DeviceKeypair.WellFormed (device : DeviceKeypair) : Prop where
  signSk_length : device.signSk.length = keyLen
  signPk_eq : device.signPk = P.verifyingKey device.signSk
  deviceId_eq : device.deviceId = P.deriveUserId device.signPk

end Keys

/-! ## The record -/

structure SyncRecord where
  kind : SyncRecordKind
  personId : Bytes
  authorDeviceId : Bytes
  rosterVersion : RosterVersion
  inboxKeyGeneration : Nat
  streamSeq : Nat
  timestampMs : Int
  payload : Bytes
  signature : Bytes
deriving DecidableEq

structure SealedSyncRecord where
  body : Bytes
  sealedFor : RosterVersion
  inboxKeyGeneration : Nat
deriving DecidableEq

def syncRecordVersion : UInt8 := 1
def maxEnvelopeSealedBytes : Nat := 512 * 1024
def syncRecordMaxPayloadBytes : Nat := maxEnvelopeSealedBytes - 1024
def syncRecordMaxEntries : Nat := 4096

variable (bytes : Bytes)

/-- `push_bytes16`. -/
def pushBytes16 (field : String) : Except CoreError Bytes := do
  refuseWhen (u16Max < bytes.length) (.malformed (field ++ " is too long to encode"))
  pure (beBytes 2 bytes.length ++ bytes)

/-- `push_bytes32`. -/
def pushBytes32 (field : String) : Except CoreError Bytes := do
  refuseWhen (2 ^ 32 ≤ bytes.length) (.malformed (field ++ " is too long to encode"))
  pure (beBytes 4 bytes.length ++ bytes)

/-- `push_fixed`. -/
def pushFixed (expectedLen : Nat) (field : String) : Except CoreError Bytes := do
  refuseWhen (bytes.length ≠ expectedLen)
    (.malformed (field ++ " must be exactly " ++ toString expectedLen ++ " bytes"))
  pure bytes

def payloadTooLong (len : Nat) : CoreError :=
  .malformed ("sync record payload is " ++ toString len ++ " bytes, over the " ++
    toString syncRecordMaxPayloadBytes ++ "-byte limit")

variable (record : SyncRecord)

/-- `sync_record_signed_bytes`. -/
def syncRecordSignedBytes : Except CoreError Bytes := do
  refuseWhen (syncRecordMaxPayloadBytes < record.payload.length)
    (payloadTooLong record.payload.length)
  let personId ← pushBytes16 record.personId "sync record person id"
  let authorDeviceId ← pushBytes16 record.authorDeviceId "sync record author device id"
  pure ([syncRecordVersion] ++ [coreSyncRecordKindWire record.kind] ++ personId ++
    authorDeviceId ++ beBytes 8 record.rosterVersion.recoveryEpoch ++
    beBytes 8 record.rosterVersion.seq ++ beBytes 8 record.inboxKeyGeneration ++
    beBytes 8 record.streamSeq ++ intBytes 8 record.timestampMs ++
    beBytes 4 record.payload.length ++ record.payload)

/-- `core_encode_sync_record`. -/
def coreEncodeSyncRecord : Except CoreError Bytes := do
  let out ← syncRecordSignedBytes record
  let signature ← pushBytes16 record.signature "sync record signature"
  pure (out ++ signature)

def syncTruncated (n pos : Nat) : CoreError :=
  .malformed ("truncated sync payload: need " ++ toString n ++ " more byte(s) at offset " ++
    toString pos)

def syncTrailing (left : Nat) : CoreError :=
  .malformed (toString left ++ " unexpected trailing byte(s) after the sync payload")

/-- The kind byte of a record. An unknown kind fails closed. -/
def readKind : Reader CoreError SyncRecordKind := do
  let wireKind ← takeNat syncTruncated 1
  match coreSyncRecordKindOf (UInt8.ofNat wireKind) with
  | some kind => pure kind
  | none => throw (.malformed ("unknown sync record kind " ++ toString wireKind))

/-- The fields of a sync record, in the order they are written. -/
def readSyncRecord : Reader CoreError SyncRecord := do
  let version ← takeNat syncTruncated 1
  refuseWhen (version ≠ syncRecordVersion.toNat)
    (CoreError.malformed ("unsupported sync record version " ++ toString version))
  let kind ← readKind
  let personId ← takePrefixed syncTruncated 2
  let authorDeviceId ← takePrefixed syncTruncated 2
  let recoveryEpoch ← takeNat syncTruncated 8
  let seq ← takeNat syncTruncated 8
  let inboxKeyGeneration ← takeNat syncTruncated 8
  let streamSeq ← takeNat syncTruncated 8
  let timestampMs ← takeInt syncTruncated 8
  let payload ← takePrefixed syncTruncated 4
  refuseWhen (syncRecordMaxPayloadBytes < payload.length) (payloadTooLong payload.length)
  let signature ← takePrefixed syncTruncated 2
  pure { kind, personId, authorDeviceId, rosterVersion := ⟨recoveryEpoch, seq⟩,
         inboxKeyGeneration, streamSeq, timestampMs, payload, signature }

/-- `core_decode_sync_record`. -/
def coreDecodeSyncRecord : Except CoreError SyncRecord :=
  readAll syncTrailing readSyncRecord bytes

/-! ## Its round trip -/

/-- The record with its counters cut down to the width they are written in. In the
source they have that width already. -/
def SyncRecord.narrowed : SyncRecord :=
  { record with
    rosterVersion :=
      ⟨record.rosterVersion.recoveryEpoch % 256 ^ 8, record.rosterVersion.seq % 256 ^ 8⟩
    inboxKeyGeneration := record.inboxKeyGeneration % 256 ^ 8
    streamSeq := record.streamSeq % 256 ^ 8
    timestampMs := Int.bmod record.timestampMs (256 ^ 8) }

/-- Every variable field fits its length prefix. -/
structure SyncRecord.Encodable : Prop where
  payload : record.payload.length ≤ syncRecordMaxPayloadBytes
  personId : record.personId.length ≤ u16Max
  authorDeviceId : record.authorDeviceId.length ≤ u16Max

/-- The bytes of a record without its signature. -/
def SyncRecord.body : Bytes :=
  [syncRecordVersion] ++ ([coreSyncRecordKindWire record.kind] ++
    ((beBytes 2 record.personId.length ++ record.personId) ++
    ((beBytes 2 record.authorDeviceId.length ++ record.authorDeviceId) ++
    (beBytes 8 record.rosterVersion.recoveryEpoch ++ (beBytes 8 record.rosterVersion.seq ++
    (beBytes 8 record.inboxKeyGeneration ++ (beBytes 8 record.streamSeq ++
    (intBytes 8 record.timestampMs ++
    (beBytes 4 record.payload.length ++ record.payload)))))))))

variable {bytes out : Bytes} {record : SyncRecord}

theorem pushBytes16_eq_ok {field : String} :
    pushBytes16 bytes field = .ok out ↔
      bytes.length ≤ u16Max ∧ beBytes 2 bytes.length ++ bytes = out := by
  simp [pushBytes16, bind_eq_ok, pure, Except.pure]

theorem syncRecordSignedBytes_eq_ok :
    syncRecordSignedBytes record = .ok out ↔ record.Encodable ∧ record.body = out := by
  simp only [syncRecordSignedBytes, bind_eq_ok, refuseWhen_eq_ok, pushBytes16_eq_ok, pure,
    Except.pure, Except.ok.injEq, not_lt]
  constructor
  · intro ⟨_, hpayload, _, ⟨hperson, hp⟩, _, ⟨hauthor, ha⟩, hout⟩
    subst hp ha
    refine ⟨⟨hpayload, hperson, hauthor⟩, ?_⟩
    rw [← hout]
    simp only [SyncRecord.body, append_assoc]
  · intro ⟨⟨hpayload, hperson, hauthor⟩, hout⟩
    refine ⟨(), hpayload, _, ⟨hperson, rfl⟩, _, ⟨hauthor, rfl⟩, ?_⟩
    rw [← hout]
    simp only [SyncRecord.body, append_assoc]

theorem coreEncodeSyncRecord_eq_ok :
    coreEncodeSyncRecord record = .ok out ↔
      (record.Encodable ∧ record.signature.length ≤ u16Max) ∧
        record.body ++ (beBytes 2 record.signature.length ++ record.signature) = out := by
  simp only [coreEncodeSyncRecord, bind_eq_ok, syncRecordSignedBytes_eq_ok, pushBytes16_eq_ok,
    pure, Except.pure, Except.ok.injEq]
  constructor
  · intro ⟨_, ⟨henc, hb⟩, _, ⟨hsig, hs⟩, hout⟩
    subst hb hs
    exact ⟨⟨henc, hsig⟩, hout⟩
  · intro ⟨⟨henc, hsig⟩, hout⟩
    exact ⟨_, ⟨henc, rfl⟩, _, ⟨hsig, rfl⟩, hout⟩

theorem reads_kind (kind : SyncRecordKind) :
    Reads readKind [coreSyncRecordKindWire kind] kind := by
  rw [← append_nil [coreSyncRecordKindWire kind]]
  refine (reads_takeByte _).bind ?_
  rw [UInt8.ofNat_toNat, coreSyncRecordKindOf_wire]
  exact Reads.pure _

theorem reads_syncRecord (henc : record.Encodable) (hsig : record.signature.length ≤ u16Max) :
    Reads readSyncRecord
      (record.body ++ (beBytes 2 record.signature.length ++ record.signature)) record.narrowed := by
  have h16 : ∀ {n : Nat}, n ≤ u16Max → n < 256 ^ 2 := fun h => Nat.lt_succ_of_le h
  have h32 : record.payload.length < 256 ^ 4 :=
    lt_of_le_of_lt henc.payload (by decide)
  unfold SyncRecord.body
  simp only [append_assoc]
  refine (reads_takeNat 1 1).bind ?_
  refine (Reads.lift ()).bind ?_
  refine (reads_kind record.kind).bind ?_
  rw [← append_assoc (beBytes 2 record.personId.length)]
  refine (reads_takePrefixed (h16 henc.personId)).bind ?_
  rw [← append_assoc (beBytes 2 record.authorDeviceId.length)]
  refine (reads_takePrefixed (h16 henc.authorDeviceId)).bind ?_
  refine (reads_takeNat 8 _).bind ?_
  refine (reads_takeNat 8 _).bind ?_
  refine (reads_takeNat 8 _).bind ?_
  refine (reads_takeNat 8 _).bind ?_
  refine (reads_takeInt 8 _).bind ?_
  rw [← append_assoc (beBytes 4 record.payload.length)]
  refine (reads_takePrefixed h32).bind ?_
  rw [refuseWhen_neg (not_lt.mpr henc.payload)]
  refine (Reads.lift ()).bind ?_
  exact (reads_takePrefixed (h16 hsig)).bind_pure _

/-- An encoded record decodes to itself. -/
theorem coreDecodeSyncRecord_encode (h : coreEncodeSyncRecord record = .ok out) :
    coreDecodeSyncRecord out = .ok record.narrowed := by
  obtain ⟨⟨henc, hsig⟩, rfl⟩ := coreEncodeSyncRecord_eq_ok.mp h
  exact (reads_syncRecord henc hsig).readAll syncTrailing

/-- What the decoder returns fits the format's limits. -/
theorem coreDecodeSyncRecord_bounds (h : coreDecodeSyncRecord bytes = .ok record) :
    record.payload.length ≤ syncRecordMaxPayloadBytes ∧ record.personId.length ≤ u16Max := by
  obtain ⟨_, hread, _⟩ := readAll_eq_ok h
  -- only the person id and the payload matter; the other fields are read past
  unfold readSyncRecord at hread
  simp only [Durable.Tx.bind_eq_ok] at hread
  obtain ⟨_, _, _, _, _, _, _, _, _, personId, _, hperson, _, _, _, _, _, _, _, _, _, _, _, _, _,
    _, _, _, _, _, payload, _, _, _, s, hlimit, _, _, _, hrecord⟩ := hread
  obtain rfl := (ok_pair_inj hrecord).1
  refine ⟨?_, Nat.le_of_lt_succ (takePrefixed_eq_ok hperson).1⟩
  exact Nat.le_of_not_lt (refuseWhen_eq_ok.mp (Durable.Tx.lift_eq_ok.mp hlimit).1)

end CruiseMesh
