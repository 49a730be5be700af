import CruiseMesh.Store.Body
import CruiseMesh.Sync.Admit

/-!
# What sync records carry

`sync_record.rs` and `sync_stream.rs`: one payload format for each kind of record. All of
them start with a version and a count, and a payload is read as a whole or refused. The
own-roster payload stands with the gate that opens it; the digest is the one kind that is
read and never filed.
-/

namespace CruiseMesh
open Wire

/-- `payload_header`. -/
def payloadHeader (count : Nat) : Except CoreError Bytes := do
  refuseWhen (syncRecordMaxEntries < count) (.malformed (
    "sync payload has " ++ toString count ++ " entries, over the " ++
    toString syncRecordMaxEntries ++ " limit"))
  pure ([syncRecordVersion] ++ beBytes 2 count)

/-- The entries of a payload behind its header, each with the same reader. -/
def readEntries {α : Type} (readEntry : Reader CoreError α) : Reader CoreError (List α) := do
  let count ← takePayloadHeader
  takeMany readEntry count

/-! ## Message history -/

inductive SyncHistoryDirection where
  | authored
  | received

structure SyncHistoryEntry where
  originMsgId : Bytes
  direction : SyncHistoryDirection
  senderPersonId : Bytes
  senderDeviceId : Bytes
  body : Bytes

/-- `history_direction_of`. -/
def historyDirectionOf (wire : Nat) : Except CoreError SyncHistoryDirection :=
  if wire = 1 then .ok .authored
  else if wire = 2 then .ok .received
  else .error (.malformed ("unknown sync history direction " ++ toString wire))

def readHistoryEntry : Reader CoreError SyncHistoryEntry := do
  let originMsgId ← take syncTruncated msgIdLen
  let wire ← takeNat syncTruncated 1
  let direction ← historyDirectionOf wire
  let senderPersonId ← takePrefixed syncTruncated 2
  let senderDeviceId ← take syncTruncated deviceIdLen
  let body ← takePrefixed syncTruncated 4
  pure { originMsgId, direction, senderPersonId, senderDeviceId, body }

/-- `core_decode_sync_history`. -/
def coreDecodeSyncHistory (bytes : Bytes) : Except CoreError (List SyncHistoryEntry) :=
  readAll syncTrailing (readEntries readHistoryEntry) bytes

/-! ## Watermarks -/

structure SyncWatermarkEntry where
  chatId : Bytes
  subjectPersonId : Bytes
  deliveredThroughLamport : Nat
  readThroughLamport : Nat

def readWatermarkEntry : Reader CoreError SyncWatermarkEntry := do
  let chatId ← takePrefixed syncTruncated 2
  let subjectPersonId ← takePrefixed syncTruncated 2
  let deliveredThroughLamport ← takeNat syncTruncated 8
  let readThroughLamport ← takeNat syncTruncated 8
  pure { chatId, subjectPersonId, deliveredThroughLamport, readThroughLamport }

/-- `core_decode_sync_watermarks`. -/
def coreDecodeSyncWatermarks (bytes : Bytes) : Except CoreError (List SyncWatermarkEntry) :=
  readAll syncTrailing (readEntries readWatermarkEntry) bytes

/-! ## Contacts -/

structure SyncContactEntry where
  personId : Bytes
  cardJson : Bytes
  roster : Option Roster

/-- No bytes are no roster. -/
def rosterOfBytes (bytes : Bytes) : Except CoreError (Option Roster) :=
  if bytes = [] then .ok none
  else do
    let roster ← coreDecodeRoster bytes
    pure (some roster)

def readContactEntry : Reader CoreError SyncContactEntry := do
  let personId ← takePrefixed syncTruncated 2
  let cardJson ← takePrefixed syncTruncated 4
  requireUtf8 "synced contact card is not UTF-8: " cardJson
  let rosterBytes ← takePrefixed syncTruncated 4
  let roster ← rosterOfBytes rosterBytes
  pure { personId, cardJson, roster }

/-- `core_decode_sync_contacts`. -/
def coreDecodeSyncContacts (bytes : Bytes) : Except CoreError (List SyncContactEntry) :=
  readAll syncTrailing (readEntries readContactEntry) bytes

/-! ## Groups -/

/-- `encode_group_invite_content`. Neither the revision nor its author is part of it. -/
def encodeGroupInviteContent (group : Group) : Except CoreError Bytes := do
  validateGroup group
  let memberUserIds := canonicalizeMembers group.memberUserIds
  pure (group.id ++ group.key ++ (beBytes 2 group.name.length ++ group.name) ++
    beBytes 2 memberUserIds.length ++
    memberUserIds.flatMap fun member => beBytes 2 member.length ++ member)

/-- `take_user_id`. -/
def takeUserId (truncated : Nat → Nat → CoreError) (label : String) : Reader CoreError Bytes := do
  let userId ← takePrefixed truncated 2
  validateUserId userId label
  pure userId

def readGroupInvite (truncated : Nat → Nat → CoreError) : Reader CoreError Group := do
  let id ← take truncated groupIdLen
  let key ← take truncated groupKeyLen
  let name ← takePrefixed truncated 2
  requireUtf8 "group invite name is not UTF-8: " name
  validateGroupName name
  let memberCount ← takeNat truncated 2
  refuseWhen (maxGroupMembers < memberCount)
    (CoreError.malformed ("group has too many members: " ++ toString memberCount))
  let memberUserIds ← takeMany (takeUserId truncated "group member UserID") memberCount
  pure { id, name, memberUserIds := canonicalizeMembers memberUserIds, key
         metadataRevision := 0, metadataChangedBy := [] }

/-- `decode_group_invite_content`. -/
def decodeGroupInviteContent (bytes : Bytes) : Except CoreError Group := do
  let group ← readAll wireTrailing (readGroupInvite (wireTruncated bytes.length)) bytes
  validateGroup group
  pure group

/-- One group of `core_encode_sync_groups`. -/
def pushSyncGroup (group : Group) : Except CoreError Bytes := do
  let invite ← encodeGroupInviteContent group
  let invite ← pushBytes32 invite "synced group"
  let changedBy ← pushBytes16 group.metadataChangedBy "group metadata author"
  pure (invite ++ beBytes 8 group.metadataRevision ++ changedBy)

/-- `core_encode_sync_groups`. -/
def coreEncodeSyncGroups (groups : List Group) : Except CoreError Bytes := do
  let header ← payloadHeader groups.length
  let bodies ← groups.mapM pushSyncGroup
  pure (header ++ bodies.flatten)

def readSyncGroup : Reader CoreError Group := do
  let invite ← takePrefixed syncTruncated 4
  let group ← decodeGroupInviteContent invite
  let metadataRevision ← takeNat syncTruncated 8
  let metadataChangedBy ← takePrefixed syncTruncated 2
  pure { group with metadataRevision, metadataChangedBy }

/-- `core_decode_sync_groups`. -/
def coreDecodeSyncGroups (bytes : Bytes) : Except CoreError (List Group) :=
  readAll syncTrailing (readEntries readSyncGroup) bytes

/-! ## Settings -/

variable (entry : SyncSettingEntry)

/-- One entry of `core_encode_sync_settings`. -/
def pushSyncSetting : Except CoreError Bytes := do
  let key ← pushBytes16 entry.key "setting key"
  let author ← pushFixed entry.authorDeviceId deviceIdLen "setting author device id"
  let value ← pushBytes32 entry.value "setting value"
  pure (key ++ beBytes 8 entry.epoch ++ author ++ value)

/-- `core_encode_sync_settings`. -/
def coreEncodeSyncSettings (entries : List SyncSettingEntry) : Except CoreError Bytes := do
  let header ← payloadHeader entries.length
  let bodies ← entries.mapM pushSyncSetting
  pure (header ++ bodies.flatten)

def readSyncSetting : Reader CoreError SyncSettingEntry := do
  let key ← takePrefixed syncTruncated 2
  requireUtf8 "setting key is not UTF-8: " key
  let epoch ← takeNat syncTruncated 8
  let authorDeviceId ← take syncTruncated deviceIdLen
  let value ← takePrefixed syncTruncated 4
  pure { key, value, epoch, authorDeviceId }

/-- `core_decode_sync_settings`. -/
def coreDecodeSyncSettings (bytes : Bytes) : Except CoreError (List SyncSettingEntry) :=
  readAll syncTrailing (readEntries readSyncSetting) bytes

/-- What can be written of an entry. -/
def SyncSettingEntry.Encodable : Prop :=
  entry.key.length ≤ u16Max ∧ entry.authorDeviceId.length = deviceIdLen ∧
    entry.value.length < 2 ^ 32

/-- The bytes of an entry. -/
def SyncSettingEntry.bytes : Bytes :=
  (beBytes 2 entry.key.length ++ entry.key) ++ (beBytes 8 entry.epoch ++
    (entry.authorDeviceId ++ (beBytes 4 entry.value.length ++ entry.value)))

/-- What a key and an epoch always are, by their types in the source. -/
def SyncSettingEntry.WellTyped : Prop :=
  Utf8.fault entry.key = none ∧ entry.epoch < 2 ^ 64

theorem pushSyncSetting_eq_ok (entry : SyncSettingEntry) (out : Bytes) :
    pushSyncSetting entry = .ok out ↔ entry.Encodable ∧ entry.bytes = out := by
  simp [pushSyncSetting, pushBytes16, pushBytes32, pushFixed, SyncSettingEntry.Encodable,
    SyncSettingEntry.bytes, bind_eq_ok, pure, Except.pure, and_assoc]

theorem reads_takePayloadHeader {count : Nat} (h : count ≤ syncRecordMaxEntries) :
    Reads takePayloadHeader ([syncRecordVersion] ++ beBytes 2 count) count := by
  have hcount : count < 256 ^ 2 := h.trans_lt (by decide)
  have hrest : Reads (do
      let claimed ← takeNat syncTruncated 2
      refuseWhen (syncRecordMaxEntries < claimed) (CoreError.malformed (
        "sync payload claims " ++ toString claimed ++ " entries, over the " ++
        toString syncRecordMaxEntries ++ " limit"))
      pure claimed) (beBytes 2 count ++ []) count := by
    refine (reads_takeNat_of_lt hcount).bind ?_
    rw [refuseWhen_neg (not_lt.mpr h)]
    exact (Reads.lift ()).bind (Reads.pure _)
  rw [← List.append_nil (beBytes 2 count)]
  refine (reads_takeNat 1 1).bind ?_
  exact (Reads.lift ()).bind hrest

theorem reads_readSyncSetting {entry : SyncSettingEntry} (henc : entry.Encodable)
    (hwell : entry.WellTyped) : Reads readSyncSetting entry.bytes entry := by
  obtain ⟨hkey, hauthor, hvalue⟩ := henc
  have hutf8 : requireUtf8 "setting key is not UTF-8: " entry.key = .ok () := by
    rw [requireUtf8, hwell.1]
  refine (reads_takePrefixed (Nat.lt_succ_of_le hkey)).bind ?_
  rw [hutf8]
  refine (Reads.lift ()).bind ?_
  refine (reads_takeNat_of_lt hwell.2).bind ?_
  refine (reads_take hauthor).bind ?_
  exact (reads_takePrefixed hvalue).bind_pure _

variable {bytes : Bytes} {entries : List SyncSettingEntry}

/-- What is decoded names its authors by whole device ids. -/
theorem author_length_of_decoded (h : coreDecodeSyncSettings bytes = .ok entries) :
    ∀ entry ∈ entries, entry.authorDeviceId.length = deviceIdLen := by
  obtain ⟨_, hread, _⟩ := readAll_eq_ok h
  obtain ⟨_, _, _, hmany⟩ := reader_bind_eq_ok.mp hread
  refine forall_takeMany (fun hentry => ?_) hmany
  obtain ⟨_, _, _, hentry⟩ := reader_bind_eq_ok.mp hentry
  obtain ⟨_, _, _, hentry⟩ := reader_bind_eq_ok.mp hentry
  obtain ⟨_, _, _, hentry⟩ := reader_bind_eq_ok.mp hentry
  obtain ⟨_, _, hauthor, hentry⟩ := reader_bind_eq_ok.mp hentry
  obtain ⟨_, _, _, hentry⟩ := reader_bind_eq_ok.mp hentry
  cases hentry
  exact (take_eq_ok hauthor).1

/-- What was encoded is decoded again. -/
theorem coreDecodeSyncSettings_encoded (henc : coreEncodeSyncSettings entries = .ok bytes)
    (hwell : ∀ entry ∈ entries, entry.WellTyped) :
    coreDecodeSyncSettings bytes = .ok entries := by
  unfold coreEncodeSyncSettings payloadHeader at henc
  simp only [bind_eq_ok, refuseWhen_eq_ok, mapM_eq_ok_iff pushSyncSetting_eq_ok] at henc
  obtain ⟨header, ⟨_, hcount, hheader⟩, _, ⟨hfits, rfl⟩, hbytes⟩ := henc
  have hread : Reads (readEntries readSyncSetting)
      (([syncRecordVersion] ++ beBytes 2 entries.length) ++ entries.flatMap (·.bytes)) entries :=
    (reads_takePayloadHeader (not_lt.mp hcount)).bind
      (reads_takeMany entries fun entry hmem =>
        reads_readSyncSetting (hfits entry hmem) (hwell entry hmem))
  rw [← Except.ok.inj hbytes, ← Except.ok.inj hheader, ← List.flatMap_def]
  exact hread.readAll syncTrailing

/-! ## Digests -/

structure SyncStreamDigest where
  authorDeviceId : Bytes
  kind : UInt8
  throughSeq : Nat
  canServe : Bool

structure SyncDigest where
  personId : Bytes
  streams : List SyncStreamDigest

def syncDigestVersion : Nat := 1
def syncDigestMaxStreams : Nat := 512
def syncStreamFlagCanServe : Nat := 1

/-- `DigestCursor::take`. -/
def digestTruncated (_n _pos : Nat) : CoreError := .malformed "sync digest ended mid-field"

/-- `DigestCursor::finish`. -/
def digestTrailing (_left : Nat) : CoreError := .malformed "sync digest has trailing bytes"

def tooManyStreams (count : Nat) : CoreError :=
  .malformed ("sync digest names " ++ toString count ++ " streams, over the " ++
    toString syncDigestMaxStreams ++ " limit")

/-- The two hexadecimal digits of a byte, as `{:#04x}` writes them. -/
def hexByte (n : Nat) : String :=
  "0x" ++ String.ofList [Nat.digitChar (n / 16), Nat.digitChar (n % 16)]

def readStreamDigest : Reader CoreError SyncStreamDigest := do
  let authorDeviceId ← take digestTruncated deviceIdLen
  let kind ← takeNat digestTruncated 1
  let flags ← takeNat digestTruncated 1
  refuseWhen (syncStreamFlagCanServe < flags)
    (CoreError.malformed ("sync digest stream carries unknown flag bits " ++ hexByte flags))
  let throughSeq ← takeNat digestTruncated 8
  pure { authorDeviceId, kind := UInt8.ofNat kind, throughSeq
         canServe := flags = syncStreamFlagCanServe }

def readSyncDigest : Reader CoreError SyncDigest := do
  let version ← takeNat digestTruncated 1
  refuseWhen (version ≠ syncDigestVersion)
    (CoreError.malformed ("unsupported sync digest version " ++ toString version))
  let personId ← takePrefixed digestTruncated 2
  let count ← takeNat digestTruncated 2
  refuseWhen (syncDigestMaxStreams < count) (tooManyStreams count)
  let streams ← takeMany readStreamDigest count
  pure { personId, streams }

/-- `core_decode_sync_digest`. -/
def coreDecodeSyncDigest (bytes : Bytes) : Except CoreError SyncDigest :=
  readAll digestTrailing readSyncDigest bytes

end CruiseMesh
