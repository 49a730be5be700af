import CruiseMesh.Link.Activation
import CruiseMesh.Store.Card
import CruiseMesh.Sync.Payload
import CruiseMesh.Sync.Streams

/-!
# Applying a sync record

`sync_store.rs`: an admitted record is merged into the store by its kind, and its stream
slot is taken afterwards, so that a crash between the two only merges it again. A record
whose slot is held already changes nothing, and a digest is read and never filed.
-/

namespace CruiseMesh
open Wire Durable Prog Table

inductive SyncApplyOutcome where
  | applied
  | alreadyHeld
  | read

structure RelayEndpoint where
  url : Bytes
  token : Bytes
deriving DecidableEq

structure SyncApplyResult where
  outcome : SyncApplyOutcome
  appliedEntries : Nat
  throughSeq : Nat
  ownRoster : Option SyncOwnRosterPayload := none
  peerDigest : Option SyncDigest := none
  relayCredential : Option RelayEndpoint := none

/-! ## Settings -/

def syncBlockedSettingKey : Bytes := ascii "privacy.blocked"
def syncRelayCredentialSettingKey : Bytes := ascii "relay.credential"
def relayEpochMaxSkewMs : Int := 3 * 24 * 60 * 60 * 1000

/-- `supersedes`: the order of `(epoch, author_device_id, value)`. -/
def SyncSettingEntry.supersedes (entry stored : SyncSettingEntry) : Prop :=
  stored.epoch < entry.epoch ∨ stored.epoch = entry.epoch ∧
    (stored.authorDeviceId < entry.authorDeviceId ∨
      stored.authorDeviceId = entry.authorDeviceId ∧ stored.value < entry.value)

instance (entry stored : SyncSettingEntry) : Decidable (entry.supersedes stored) :=
  inferInstanceAs (Decidable (_ ∨ _))

/-- `setting`. -/
def Store.setting (s : Store) (key : Bytes) : Option SyncSettingEntry :=
  lookup SyncSettingEntry.key key s.syncSettings

/-- The store with one setting written. -/
def Store.withSetting (s : Store) (entry : SyncSettingEntry) : Store :=
  { s with syncSettings := upsert SyncSettingEntry.key entry s.syncSettings }

/-- `put_setting`. -/
def putSetting (entry : SyncSettingEntry) : Prog Store CoreError Bool := do
  refuseWhen (entry.authorDeviceId.length ≠ deviceIdLen)
    (CoreError.malformed "a shared setting must name the device that wrote it")
  let stored ← inspect fun s => s.setting entry.key
  if ∃ held ∈ stored, ¬ entry.supersedes held then pure false
  else do
    write fun s => s.withSetting entry
    pure true

/-- `encode_block_list`. -/
def encodeBlockList (ids : List Bytes) : Bytes :=
  let ids := (ids.insertionSort (· ≤ ·)).destutter (· ≠ ·)
  beBytes 2 (min ids.length u16Max) ++
    (ids.take u16Max).flatMap fun id => beBytes 2 id.length ++ id

/-- The loop of `decode_block_list`, on the bytes behind the count. What does not fit ends
the list. -/
def decodeBlockIds : Nat → Bytes → List Bytes
  | 0, _ => []
  | count + 1, bytes =>
    if bytes.length < 2 then []
    else
      let len := natOfBe (bytes.take 2)
      let rest := bytes.drop 2
      if rest.length < len then [] else rest.take len :: decodeBlockIds count (rest.drop len)

variable (bytes : Bytes)

/-- `decode_block_list`. -/
def decodeBlockList : List Bytes :=
  if bytes.length < 2 then [] else decodeBlockIds (natOfBe (bytes.take 2)) (bytes.drop 2)

/-- One field of `decode_relay_credential`, and what stands behind it. -/
def takeCredentialField : Option (Bytes × Bytes) :=
  if bytes.length < 2 then none
  else
    let len := natOfBe (bytes.take 2)
    let rest := bytes.drop 2
    if rest.length < len ∨ Utf8.fault (rest.take len) ≠ none then none
    else some (rest.take len, rest.drop len)

/-- `decode_relay_credential`. -/
def decodeRelayCredential : Option RelayEndpoint := do
  let (url, rest) ← takeCredentialField bytes
  let (token, _) ← takeCredentialField rest
  if url = [] ∨ token = [] then none else some { url, token }

/-- `relay_credential_entry_is_admissible`: not from a device the own roster buried, and
not from a clock that runs far ahead. -/
def relayCredentialEntryIsAdmissible (entry : SyncSettingEntry) (ownRoster : Option Roster)
    (nowMs : Int) : Prop :=
  (∀ roster ∈ ownRoster, entry.authorDeviceId ∉ roster.tombstoneIds) ∧
    (entry.epoch : Int) ≤ max (min (nowMs + relayEpochMaxSkewMs) (2 ^ 63 - 1)) 0

instance (entry : SyncSettingEntry) (ownRoster : Option Roster) (nowMs : Int) :
    Decidable (relayCredentialEntryIsAdmissible entry ownRoster nowMs) :=
  inferInstanceAs (Decidable (_ ∧ _))

/-- `block_user`. The first date stays. -/
def blockUser (userId : Bytes) (nowMs : Int) : Prog Store CoreError Unit :=
  write fun s => { s with
    blockedIdentities := insertOrIgnore BlockedIdentityRow.userId
      { userId, blockedAtMs := nowMs } s.blockedIdentities }

/-- `block_user` for each of a list. -/
def blockUsers (nowMs : Int) : List Bytes → Prog Store CoreError Unit
  | [] => pure ()
  | userId :: rest => do
    blockUser userId nowMs
    blockUsers nowMs rest

/-- What the loop of `apply_settings` has found so far: the list of the last block entry
that was taken, and the last credential. -/
structure SettingsFound where
  applied : Nat := 0
  newlyBlocked : List Bytes := []
  relayCredential : Option RelayEndpoint := none

/-- The loop of `apply_settings`. -/
def mergeSettings (ownRoster : Option Roster) (nowMs : Int) :
    List SyncSettingEntry → SettingsFound → Prog Store CoreError SettingsFound
  | [], found => pure found
  | entry :: rest, found =>
    if entry.key = syncRelayCredentialSettingKey ∧
        ¬ relayCredentialEntryIsAdmissible entry ownRoster nowMs then
      mergeSettings ownRoster nowMs rest { found with applied := found.applied + 1 }
    else do
      let took ← putSetting entry
      mergeSettings ownRoster nowMs rest
        { applied := found.applied + 1
          newlyBlocked := if took = true ∧ entry.key = syncBlockedSettingKey then
            decodeBlockList entry.value else found.newlyBlocked
          relayCredential := if took = true ∧ entry.key = syncRelayCredentialSettingKey then
            decodeRelayCredential entry.value else found.relayCredential }

/-- `apply_settings`. -/
def applySettings (record : SyncRecord) (nowMs : Int) :
    Prog Store CoreError (Nat × Option RelayEndpoint) := do
  let entries ← coreDecodeSyncSettings record.payload
  let ownRoster ← inspect (·.ownRoster)
  let found ← mergeSettings ownRoster nowMs entries {}
  blockUsers nowMs found.newlyBlocked
  pure (found.applied, found.relayCredential)

/-! ## Watermarks -/

/-- `validate_receipt_watermark`. -/
def validateReceiptWatermark (receiptType : UInt8) (throughLamport : Nat) :
    Except CoreError Unit := do
  refuseWhen (receiptType ≠ receiptTypeDelivered ∧ receiptType ≠ receiptTypeRead)
    (.malformed "invalid receipt type")
  validateSqliteU64 "receipt watermark" throughLamport

/-- `record_outgoing_receipt`: a watermark only rises. -/
def recordOutgoingReceipt (chatId senderUserId : Bytes) (receiptType : UInt8)
    (throughLamport : Nat) : Prog Store CoreError Unit := do
  validateReceiptWatermark receiptType throughLamport
  write fun s =>
    let held := lookup ReceiptRow.subject (chatId, senderUserId, receiptType) s.outgoingReceipts
    { s with
      outgoingReceipts := upsert ReceiptRow.subject
        { chatId, senderUserId, receiptType
          throughLamport := max ((held.map (·.throughLamport)).getD 0) throughLamport }
        s.outgoingReceipts }

/-- A watermark of zero says nothing. -/
def recordWatermark (entry : SyncWatermarkEntry) (receiptType : UInt8) (throughLamport : Nat) :
    Prog Store CoreError Unit :=
  if 0 < throughLamport then
    recordOutgoingReceipt entry.chatId entry.subjectPersonId receiptType throughLamport
  else pure ()

/-- The loop of `apply_watermarks`. -/
def mergeWatermarks : List SyncWatermarkEntry → Prog Store CoreError Unit
  | [] => pure ()
  | entry :: rest => do
    recordWatermark entry receiptTypeDelivered entry.deliveredThroughLamport
    recordWatermark entry receiptTypeRead entry.readThroughLamport
    mergeWatermarks rest

/-- `apply_watermarks`. -/
def applyWatermarks (record : SyncRecord) : Prog Store CoreError Nat := do
  let entries ← coreDecodeSyncWatermarks record.payload
  mergeWatermarks entries
  pure entries.length

/-! ## Groups -/

/-- `apply_groups`. -/
def applyGroups (record : SyncRecord) (clock : Nat → ClockReading) : Prog Store CoreError Nat := do
  let groups ← coreDecodeSyncGroups record.payload
  importGroups clock groups 0
  pure groups.length

section Apply
variable (P : Primitives)

/-! ## History -/

/-- `validate_msg_id`. -/
def validateMsgId (field : String) (msgId : Bytes) : Except CoreError Unit :=
  refuseWhen (msgId.length ≠ msgIdLen)
    (.malformed (field ++ " must be exactly " ++ toString msgIdLen ++ " bytes"))

/-- `insert_incoming_message_from_device`. -/
def insertIncomingMessageFromDevice (message : StoredMessage) (senderDeviceId : Option Bytes)
    (msgId : Bytes) (replyToMsgId : Option Bytes) (arrival : Option MessageArrival)
    (clock : ClockReading) : Prog Store CoreError IncomingMessageInsertOutcome := do
  validateMsgId "msg_id" msgId
  (replyToMsgId.forM (validateMsgId "reply_to_msg_id") : Except CoreError Unit)
  (arrival.forM validateMessageArrival : Except CoreError Unit)
  insertIncoming P message (coreDeviceStreamId senderDeviceId) (some msgId) replyToMsgId arrival
    clock

/-- One entry of `apply_history`. Nothing is claimed about how the message arrived. -/
def mergeHistoryEntry (entry : SyncHistoryEntry) (clock : ClockReading) :
    Prog Store CoreError IncomingMessageInsertOutcome := do
  let body ← decodeExtendedMessageBody entry.body
  insertIncomingMessageFromDevice P
    { chatId := body.chatId, senderUserId := entry.senderPersonId, lamport := body.lamport
      timestamp := body.timestamp, kind := body.kind, payload := body.content
      senderDeviceId := entry.senderDeviceId }
    (some entry.senderDeviceId) entry.originMsgId body.replyToMsgId none clock

/-- The loop of `apply_history`. -/
def mergeHistory (clock : Nat → ClockReading) :
    List SyncHistoryEntry → Nat → Prog Store CoreError Unit
  | [], _ => pure ()
  | entry :: rest, reading => do
    let _ ← mergeHistoryEntry P entry (clock reading)
    mergeHistory clock rest (reading + 1)

/-- `apply_history`. -/
def applyHistory (record : SyncRecord) (clock : Nat → ClockReading) :
    Prog Store CoreError Nat := do
  let entries ← coreDecodeSyncHistory record.payload
  mergeHistory P clock entries 0
  pure entries.length

/-! ## Contacts -/

/-- `contact_card_bytes`, of a contact or of the row of one. -/
def contactCardBytes (name signPk agreePk : Bytes) (relayUrl relayToken : Option Bytes) : Bytes :=
  [name, signPk, agreePk, relayUrl.getD [], relayToken.getD []].flatMap fun field =>
    beBytes 4 field.length ++ field

/-- A synced card is taken where nobody is filed, or where it comes later in the order of
the cards' bytes. -/
def mergeCard (incoming : Contact) : Prog Store CoreError Unit := do
  let existing ← inspect fun s => lookup ContactRow.userId incoming.userId s.contacts
  if ∀ row ∈ existing,
      contactCardBytes row.name row.signPk row.agreePk row.relayUrl row.relayToken <
        contactCardBytes incoming.name incoming.signPk incoming.agreePk incoming.relayUrl
          incoming.relayToken then
    upsertContact incoming
  else pure ()

/-- The roster of an entry, where there is one. -/
def mergeContactRoster : Option Roster → Prog Store CoreError Unit
  | none => pure ()
  | some roster => do
    let _ ← applyContactRoster P roster
    pure ()

variable (readCard : CardReader)

/-- One entry of `apply_contacts`. -/
def mergeContactEntry (entry : SyncContactEntry) : Prog Store CoreError Unit := do
  let card ← parseFriendCard P readCard entry.cardJson
  refuseWhen (P.deriveUserId card.signPk ≠ entry.personId) (CoreError.malformed
    "synced contact card does not belong to the person it is filed under")
  mergeCard
    { userId := entry.personId, name := card.name, signPk := card.signPk, agreePk := card.agreePk
      relayUrl := card.relayUrl, relayToken := card.relayToken }
  mergeContactRoster P entry.roster

/-- The loop of `apply_contacts`. -/
def mergeContacts (readCard : CardReader) : List SyncContactEntry → Prog Store CoreError Unit
  | [] => pure ()
  | entry :: rest => do
    mergeContactEntry P readCard entry
    mergeContacts readCard rest

variable (record : SyncRecord)

/-- `apply_contacts`. -/
def applyContacts : Prog Store CoreError Nat := do
  let entries ← coreDecodeSyncContacts record.payload
  mergeContacts P readCard entries
  pure entries.length

/-! ## Records -/

/-- What a merge reports: the entries, and what the caller has to act on. -/
structure Merged where
  appliedEntries : Nat
  ownRoster : Option SyncOwnRosterPayload := none
  relayCredential : Option RelayEndpoint := none

variable (nowMs : Int)

/-- The merge of a stream record, by its kind. An own-roster record is only handed on. -/
def mergeRecord (clock : Nat → ClockReading) : Prog Store CoreError Merged :=
  match record.kind with
  | .history => do
    let appliedEntries ← applyHistory P record clock
    pure { appliedEntries }
  | .watermarks => do
    let appliedEntries ← applyWatermarks record
    pure { appliedEntries }
  | .contacts => do
    let appliedEntries ← applyContacts P readCard record
    pure { appliedEntries }
  | .groups => do
    let appliedEntries ← applyGroups record clock
    pure { appliedEntries }
  | .settings => do
    let (appliedEntries, relayCredential) ← applySettings record nowMs
    pure { appliedEntries, relayCredential }
  | .ownRoster => do
    let payload ← coreDecodeSyncOwnRoster record.payload
    pure { appliedEntries := payload.inboxKeys.length, ownRoster := some payload }
  -- read before the slot tables are looked at
  | .digest => pure { appliedEntries := 0 }

/-- A digest: checked, counted and handed on. -/
def readDigest : Except CoreError SyncApplyResult := do
  let peerDigest ← coreDecodeSyncDigest record.payload
  refuseWhen (peerDigest.personId ≠ record.personId)
    (.malformed "a sync digest names a different person than the record carrying it")
  pure { outcome := .read, appliedEntries := peerDigest.streams.length, throughSeq := 0
         peerDigest := some peerDigest }

/-- The row that holds the slot of an applied record. It has no copy to serve. -/
def SyncRecord.appliedRow : SyncStreamRow where
  authorDeviceId := record.authorDeviceId
  kind := coreSyncRecordKindWire record.kind
  streamSeq := record.streamSeq
  personId := record.personId
  copy := none
  createdAtMs := nowMs

variable (s : Store)

/-- The stream a record belongs to has come this far. -/
def Store.throughSeq (record : SyncRecord) : Nat :=
  s.streamCursorByWire record.authorDeviceId (coreSyncRecordKindWire record.kind)

/-- Whether the record's slot is held. -/
def Store.holdsSlot (slot : Bytes × UInt8 × Nat) : Bool :=
  s.syncStreamRecords.any fun row => row.slot = slot

/-- The end of `apply`: the slot is taken, and the caller is told. -/
def fileRecord (merged : Merged) : Prog Store CoreError SyncApplyResult := do
  let _ ← holdSlot (record.appliedRow nowMs)
  let throughSeq ← inspect fun s => s.throughSeq record
  pure { outcome := .applied, appliedEntries := merged.appliedEntries, throughSeq
         ownRoster := merged.ownRoster, relayCredential := merged.relayCredential }

/-- `core_apply_sync_record`. -/
def coreApplySyncRecord (clock : Nat → ClockReading) : Prog Store CoreError SyncApplyResult :=
  if coreSyncKindIsStream record.kind = false then liftM (readDigest record)
  else do
    let held ← inspect fun s => s.holdsSlot record.slot
    if held then do
      let throughSeq ← inspect fun s => s.throughSeq record
      pure { outcome := .alreadyHeld, appliedEntries := 0, throughSeq }
    else do
      -- the slot last: a crash in between merges the record once more
      let merged ← mergeRecord P readCard record nowMs clock
      fileRecord record nowMs merged

/-- A record comes in: the record, the time it is applied at, and what the clock says while
it is merged. -/
structure Delivery where
  record : SyncRecord
  nowMs : Int
  clock : Nat → ClockReading

/-- The store after one delivery. -/
def deliver (delivery : Delivery) : Store :=
  (coreApplySyncRecord P readCard delivery.record delivery.nowMs delivery.clock).final s

/-- The store after a list of deliveries. -/
def deliverAll (deliveries : List Delivery) : Store :=
  deliveries.foldl (deliver P readCard) s

end Apply

/-! ## What a merge leaves alone -/

section Frames
variable {P : Primitives} {readCard : CardReader} {τ : Type} {view : Store → τ}

theorem keeps_putSetting (h : ∀ s settings, view { s with syncSettings := settings } = view s)
    (entry : SyncSettingEntry) : (putSetting entry).Keeps view := by
  refine keeps_lift_bind fun _ => ?_
  refine keeps_inspect_bind fun stored => ?_
  split
  · exact keeps_pure _
  · exact keeps_bind (keeps_write fun s => h s _) fun _ => keeps_pure _

theorem keeps_mergeSettings (h : ∀ s settings, view { s with syncSettings := settings } = view s)
    (ownRoster : Option Roster) (nowMs : Int) : ∀ (entries : List SyncSettingEntry)
      (found : SettingsFound), (mergeSettings ownRoster nowMs entries found).Keeps view
  | [], _ => keeps_pure _
  | entry :: rest, found => by
    unfold mergeSettings
    split
    · exact keeps_mergeSettings h ownRoster nowMs rest _
    · exact keeps_bind (keeps_putSetting h entry) fun _ =>
        keeps_mergeSettings h ownRoster nowMs rest _

theorem keeps_blockUsers (h : ∀ s rows, view { s with blockedIdentities := rows } = view s)
    (nowMs : Int) : ∀ userIds : List Bytes, (blockUsers nowMs userIds).Keeps view
  | [] => keeps_pure _
  | _ :: rest =>
    keeps_bind (keeps_write fun s => h s _) fun _ => keeps_blockUsers h nowMs rest

theorem keeps_recordWatermark (h : ∀ s rows, view { s with outgoingReceipts := rows } = view s)
    (entry : SyncWatermarkEntry) (receiptType : UInt8) (throughLamport : Nat) :
    (recordWatermark entry receiptType throughLamport).Keeps view := by
  unfold recordWatermark
  split
  · exact keeps_lift_bind fun _ => keeps_write fun s => h s _
  · exact keeps_pure _

theorem keeps_mergeWatermarks (h : ∀ s rows, view { s with outgoingReceipts := rows } = view s) :
    ∀ entries : List SyncWatermarkEntry, (mergeWatermarks entries).Keeps view
  | [] => keeps_pure _
  | entry :: rest =>
    keeps_bind (keeps_recordWatermark h entry _ _) fun _ =>
      keeps_bind (keeps_recordWatermark h entry _ _) fun _ => keeps_mergeWatermarks h rest

theorem keeps_importGroups {τ : Type} {view : Store → τ} {clock : Nat → ClockReading}
    (h : ∀ s groups groupMembers, view { s with groups, groupMembers } = view s) :
    ∀ (groups : List Group) (reading : Nat), (importGroups clock groups reading).Keeps view
  | [], _ => keeps_pure _
  | _ :: groups, reading =>
    keeps_bind (keeps_upsertGroup h) fun _ => keeps_importGroups h groups (reading + 1)

theorem keeps_mergeHistory (h : MessageFrame view) (clock : Nat → ClockReading) :
    ∀ (entries : List SyncHistoryEntry) (reading : Nat),
      (mergeHistory P clock entries reading).Keeps view
  | [], _ => keeps_pure _
  | _ :: rest, reading => by
    refine keeps_bind ?_ fun _ =>
      keeps_mergeHistory h clock rest (reading + 1)
    refine keeps_lift_bind fun _ => ?_
    refine keeps_lift_bind fun _ => ?_
    refine keeps_lift_bind fun _ => ?_
    exact keeps_lift_bind fun _ => keeps_insertIncoming h

theorem keeps_mergeContactEntry (h : ContactFrame view) (entry : SyncContactEntry) :
    (mergeContactEntry P readCard entry).Keeps view := by
  refine keeps_lift_bind fun _ => ?_
  refine keeps_lift_bind fun _ => ?_
  refine keeps_bind ?_ fun _ => ?_
  · refine keeps_inspect_bind fun existing => ?_
    split
    · exact keeps_upsertContact h.contacts
    · exact keeps_pure _
  · unfold mergeContactRoster
    split
    · exact keeps_pure _
    · exact keeps_bind (keeps_applyContactRoster h _) fun _ =>
        keeps_pure _

theorem keeps_mergeContacts (h : ContactFrame view) : ∀ entries : List SyncContactEntry,
    (mergeContacts P readCard entries).Keeps view
  | [] => keeps_pure _
  | entry :: rest =>
    keeps_bind (keeps_mergeContactEntry h entry) fun _ =>
      keeps_mergeContacts h rest

/-- The stream tables. -/
def Store.streams (s : Store) : List SyncStreamRow × List SyncCursorRow :=
  (s.syncStreamRecords, s.syncStreamCursors)

/-- The view does not see the tables that records other than the history merge into. -/
structure MergeFrame (view : Store → τ) : Prop where
  watermarks : ∀ s rows, view { s with outgoingReceipts := rows } = view s
  rosters : ∀ s rosters devices,
    view { s with contactRosters := rosters, contactDevices := devices } = view s
  facts : ∀ s facts lastId,
    view { s with contactSafetyFacts := facts, lastSafetyFactId := lastId } = view s
  contacts : ∀ s contacts, view { s with contacts } = view s
  groups : ∀ s groups groupMembers, view { s with groups, groupMembers } = view s
  settings : ∀ s settings, view { s with syncSettings := settings } = view s
  blocked : ∀ s rows, view { s with blockedIdentities := rows } = view s

variable {record : SyncRecord} {nowMs : Int} {clock : Nat → ClockReading}

theorem keeps_mergeRecord_of_ne (h : MergeFrame view) (hkind : record.kind ≠ .history) :
    (mergeRecord P readCard record nowMs clock).Keeps view := by
  unfold mergeRecord
  split
  · exact absurd ‹_› hkind
  · refine keeps_bind ?_ fun _ => keeps_pure _
    refine keeps_lift_bind fun entries => ?_
    exact keeps_bind (keeps_mergeWatermarks h.watermarks _) fun _ => keeps_pure _
  · refine keeps_bind ?_ fun _ => keeps_pure _
    refine keeps_lift_bind fun entries => ?_
    exact keeps_bind (keeps_mergeContacts ⟨h.rosters, h.facts, h.contacts⟩ _) fun _ =>
      keeps_pure _
  · refine keeps_bind ?_ fun _ => keeps_pure _
    refine keeps_lift_bind fun groups => ?_
    exact keeps_bind (keeps_importGroups h.groups _ _) fun _ => keeps_pure _
  · refine keeps_bind ?_ fun _ => keeps_pure _
    refine keeps_lift_bind fun entries => ?_
    refine keeps_inspect_bind fun ownRoster => ?_
    refine keeps_bind (keeps_mergeSettings h.settings _ _ _ _) fun found => ?_
    exact keeps_bind (keeps_blockUsers h.blocked _ _) fun _ => keeps_pure _
  · exact keeps_lift_bind fun _ => keeps_pure _
  · exact keeps_pure _

theorem keeps_mergeRecord (h : MergeFrame view) (hmessages : MessageFrame view) :
    (mergeRecord P readCard record nowMs clock).Keeps view := by
  by_cases hkind : record.kind = .history
  · unfold mergeRecord
    rw [hkind]
    refine keeps_bind ?_ fun _ => keeps_pure _
    refine keeps_lift_bind fun entries => ?_
    exact keeps_bind (keeps_mergeHistory hmessages clock _ _) fun _ =>
      keeps_pure _
  · exact keeps_mergeRecord_of_ne h hkind

/-- A merge does not touch the stream tables, whatever the kind of the record. -/
theorem streams_mergeRecord (record : SyncRecord) (nowMs : Int) (clock : Nat → ClockReading) :
    (mergeRecord P readCard record nowMs clock).Keeps Store.streams :=
  keeps_mergeRecord ⟨fun _ _ => rfl, fun _ _ _ => rfl, fun _ _ _ => rfl, fun _ _ => rfl,
    fun _ _ _ => rfl, fun _ _ => rfl, fun _ _ => rfl⟩ ⟨fun _ _ _ => rfl, fun _ _ _ => rfl⟩

/-- What a record leaves alone: what its merge leaves alone, and what is not of the streams. -/
theorem keeps_coreApplySyncRecord
    (hmerge : (mergeRecord P readCard record nowMs clock).Keeps view)
    (hstreams : ∀ s records cursors,
      view { s with syncStreamRecords := records, syncStreamCursors := cursors } = view s) :
    (coreApplySyncRecord P readCard record nowMs clock).Keeps view := by
  unfold coreApplySyncRecord
  split
  · exact keeps_lift _
  · refine keeps_inspect_bind fun held => ?_
    split
    · exact keeps_inspect_bind fun _ => keeps_pure _
    · refine keeps_bind hmerge fun merged => ?_
      refine keeps_bind ?_ fun _ => keeps_inspect_bind fun _ =>
        keeps_pure _
      refine keeps_inspect_bind fun taken => ?_
      split
      · exact keeps_pure _
      · refine keeps_bind (keeps_write fun s => hstreams s _ _) fun _ => ?_
        refine keeps_bind ?_ fun _ => keeps_pure _
        refine keeps_inspect_bind fun _ => ?_
        exact keeps_bind (keeps_write fun s => hstreams s _ _) fun _ => keeps_pure _

end Frames
end CruiseMesh
