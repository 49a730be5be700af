import CruiseMesh.Lib.Table
import CruiseMesh.Store.Schema

/-!
# Contacts, groups and messages from elsewhere

The writers through which somebody's card, a group and a message of another device land
in the store: `upsert_contact`, `set_contact_nickname`, `upsert_group` and the insert of
an incoming message. A card never touches the local nickname, a group never goes back to
older metadata, and of two messages at one position of a device's stream the first one
stays while the other is set aside.
-/

namespace CruiseMesh
open Wire Durable Prog Table

/-! ## Contacts -/

structure Contact where
  userId : Bytes
  name : Bytes
  signPk : Bytes
  agreePk : Bytes
  relayUrl : Option Bytes := none
  relayToken : Option Bytes := none
  nickname : Option Bytes := none
deriving DecidableEq

/-- The row a card leaves. Only a card that moves the endpoint clears what is known
about the endpoint's health. -/
def contactRow (contact : Contact) (held : Option ContactRow) : ContactRow :=
  let old := held.getD
    { userId := contact.userId, name := contact.name, signPk := contact.signPk,
      agreePk := contact.agreePk, relayUrl := contact.relayUrl, relayToken := contact.relayToken }
  let row := { old with
    name := contact.name, signPk := contact.signPk, agreePk := contact.agreePk,
    relayUrl := contact.relayUrl, relayToken := contact.relayToken }
  if contact.relayUrl ≠ old.relayUrl ∨ contact.relayToken ≠ old.relayToken then
    { row with
      relayRejectStreak := 0, relayRejectedAt := 0, relayUnreachableEndpointKey := none,
      relayUnreachableStreak := 0, relayUnreachableAt := 0 }
  else row

/-- `upsert_contact`. -/
def upsertContact (contact : Contact) : Prog Store CoreError Unit :=
  write fun s => { s with
    contacts := upsert (·.userId)
      (contactRow contact (lookup (·.userId) contact.userId s.contacts)) s.contacts }

/-- `set_contact_nickname`. A blank nickname is none; `false` for an unknown contact. -/
def setContactNickname (userId : Bytes) (nickname : Option Bytes) : Prog Store CoreError Bool := do
  let nickname := (nickname.map trim).filter (· ≠ [])
  let known ← inspect fun s => s.contacts.any fun row => row.userId = userId
  write fun s => { s with
    contacts := update (·.userId) userId (fun row => { row with nickname }) s.contacts }
  pure known

/-! ## Groups -/

def groupIdLen : Nat := 16
def groupKeyLen : Nat := 32
def maxGroupMembers : Nat := 64
def maxGroupNameBytes : Nat := 128

structure Group where
  id : Bytes
  name : Bytes
  memberUserIds : List Bytes
  key : Bytes
  metadataRevision : Nat
  metadataChangedBy : Bytes
deriving DecidableEq

/-- `validate_user_id` and `validate_group_id`: an id must have its width. -/
def validateIdWidth (id : Bytes) (width : Nat) (label : String) : Except CoreError Unit :=
  refuseWhen (id.length ≠ width) (.malformed (
    label ++ " must be " ++ toString width ++ " bytes, got " ++ toString id.length))

/-- `validate_user_id`. -/
def validateUserId (userId : Bytes) (label : String) : Except CoreError Unit :=
  validateIdWidth userId userIdLen label

/-- `validate_group_id`. -/
def validateGroupId (groupId : Bytes) : Except CoreError Unit :=
  validateIdWidth groupId groupIdLen "group id"

/-- `validate_group_name`. -/
def validateGroupName (name : Bytes) : Except CoreError Unit := do
  refuseWhen (trim name = []) (.malformed "group name must not be empty")
  refuseWhen (maxGroupNameBytes < name.length)
    (.malformed ("group name exceeds " ++ toString maxGroupNameBytes ++ " UTF-8 bytes"))

/-- `validate_member_user_ids`. -/
def validateMemberUserIds (memberUserIds : List Bytes) : Except CoreError Unit := do
  refuseWhen (maxGroupMembers < memberUserIds.length)
    (.malformed ("group exceeds " ++ toString maxGroupMembers ++ " members"))
  memberUserIds.forM fun member => validateUserId member "group member UserID"

variable (group : Group)

/-- `validate_group`. -/
def validateGroup : Except CoreError Unit := do
  validateGroupId group.id
  validateGroupName group.name
  validateMemberUserIds group.memberUserIds
  refuseWhen (group.key.length ≠ groupKeyLen) (.invalidKeyLength groupKeyLen group.key.length)
  if group.metadataChangedBy ≠ [] then
    validateUserId group.metadataChangedBy "group metadata changed_by"

/-- `canonicalize_members`. -/
def canonicalizeMembers (memberUserIds : List Bytes) : List Bytes :=
  (memberUserIds.insertionSort (· ≤ ·)).destutter (· ≠ ·)

/-- The stored metadata is newer than the group's, by revision and then by who changed it. -/
def GroupRow.newerThan (row : GroupRow) (group : Group) : Prop :=
  group.metadataRevision < row.metadataRevision ∨
    group.metadataRevision = row.metadataRevision ∧ group.metadataChangedBy < row.metadataChangedBy

instance (row : GroupRow) (group : Group) : Decidable (row.newerThan group) :=
  inferInstanceAs (Decidable (_ ∨ _))

/-- The member rows of a group that replaces `previous`. A founding member has no date. -/
def memberRows (previous : List GroupMemberRow) (unixNowMs : Int) : List GroupMemberRow :=
  (canonicalizeMembers group.memberUserIds).map fun userId =>
    { groupId := group.id, userId
      addedAtMs := match previous.find? fun row => row.userId = userId with
        | some row => row.addedAtMs
        | none => if previous = [] then 0 else unixNowMs }

variable (s : Store)

/-- The write of `upsert_group_tx`. -/
def Store.withGroup (group : Group) (unixNowMs : Int) : Store :=
  let previous := s.groupMembers.filter fun row => row.groupId = group.id
  { s with
    groups := upsert (·.groupId)
      { groupId := group.id, name := group.name, groupKey := group.key,
        metadataRevision := group.metadataRevision, metadataChangedBy := group.metadataChangedBy }
      s.groups
    groupMembers := s.groupMembers.filter (fun row => row.groupId ≠ group.id) ++
      memberRows group previous unixNowMs }

/-- A reading of the system clock: the milliseconds since the epoch, or why there are none. -/
abbrev ClockReading : Type := Except CoreError Int

variable (clock : ClockReading)

/-- `unix_now_ms`. -/
def unixNowMs : Int := clock.toOption.getD 0

/-- `upsert_group_tx`. -/
def upsertGroupTx : Tx Store CoreError Unit := do
  validateGroup group
  let s ← get
  if ∃ row ∈ lookup GroupRow.groupId group.id s.groups, row.newerThan group then pure ()
  else set (s.withGroup group (unixNowMs clock))

/-- `upsert_group`. The group is validated before the transaction and again in it. -/
def upsertGroup : Prog Store CoreError Unit := do
  validateGroup group
  transaction (upsertGroupTx group clock)

/-- `rotate_group`, with the key the generator gave. The revision stays. -/
def rotateGroup (memberUserIds : List Bytes) (freshKey : Bytes) : Except CoreError Group := do
  validateGroup group
  validateMemberUserIds memberUserIds
  pure { group with memberUserIds := canonicalizeMembers memberUserIds, key := freshKey }

/-- `load_group_members`. -/
def Store.groupMemberIds (groupId : Bytes) : List Bytes :=
  ((s.groupMembers.filter fun row => row.groupId = groupId).map (·.userId)).insertionSort (· ≤ ·)

/-- `get_group`. -/
def Store.getGroup (groupId : Bytes) : Option Group :=
  (lookup GroupRow.groupId groupId s.groups).map fun row =>
    { id := row.groupId, name := row.name, memberUserIds := s.groupMemberIds groupId
      key := row.groupKey, metadataRevision := row.metadataRevision
      metadataChangedBy := row.metadataChangedBy }

/-! ## Messages -/

structure StoredMessage where
  chatId : Bytes
  senderUserId : Bytes
  lamport : Nat
  timestamp : Int
  kind : UInt8
  payload : Bytes
  senderDeviceId : Bytes
deriving DecidableEq

structure MessageArrival where
  transport : UInt8
  hopsTaken : UInt8
  receivedAt : Int

inductive IncomingMessageInsertOutcome where
  | inserted
  | duplicate
  | quarantinedConflict
deriving DecidableEq

def messageConflictQuarantineLimit : Nat := 64
def messageConflictFingerprintLen : Nat := 16

/-- `validate_sqlite_u64`. -/
def validateSqliteU64 (field : String) (value : Nat) : Except CoreError Unit :=
  refuseWhen (2 ^ 63 - 1 < value) (.malformed (field ++ " exceeds the supported range"))

/-- `validate_stored_message`. -/
def validateStoredMessage (message : StoredMessage) : Except CoreError Unit :=
  validateSqliteU64 "message lamport" message.lamport

/-- `validate_message_arrival`. -/
def validateMessageArrival (arrival : MessageArrival) : Except CoreError Unit :=
  refuseWhen (4 < arrival.transport) (.malformed "invalid message arrival transport")

/-- `core_device_stream_id`. -/
def coreDeviceStreamId (senderDeviceId : Option Bytes) : Bytes :=
  match senderDeviceId with
  | some id => if id.length = deviceIdLen then id else legacyDeviceId
  | none => legacyDeviceId

section Insert
variable (P : Primitives)

/-- `message_conflict_fingerprint`. -/
def messageConflictFingerprint (chatId senderUserId : Bytes) (timestamp : Int) (kind : UInt8)
    (payload : Bytes) : Bytes :=
  P.blake2b messageConflictFingerprintLen
    (lenPrefixed chatId ++ lenPrefixed senderUserId ++ intBytes 8 timestamp ++ [kind] ++ payload)

/-- A conflict with the evidence of the same branch seen again. -/
def MessageConflictRow.seenAgain (held new : MessageConflictRow) : MessageConflictRow :=
  { held with
    existingFingerprint := new.existingFingerprint
    lastSeenAt := max held.lastSeenAt new.lastSeenAt
    seenCount := held.seenCount + 1
    incomingMsgId := held.incomingMsgId <|> new.incomingMsgId
    incomingReplyToMsgId := held.incomingReplyToMsgId <|> new.incomingReplyToMsgId
    arrivalTransport := held.arrivalTransport <|> new.arrivalTransport
    hopsTaken := held.hopsTaken <|> new.hopsTaken }

/-- The order in which the quarantine keeps its rows: those with an envelope id first,
and then the latest. -/
def MessageConflictRow.keptBefore (a b : MessageConflictRow) : Prop :=
  a.incomingMsgId.isSome > b.incomingMsgId.isSome ∨
    a.incomingMsgId.isSome = b.incomingMsgId.isSome ∧
      (b.lastSeenAt < a.lastSeenAt ∨ b.lastSeenAt = a.lastSeenAt ∧ b.id ≤ a.id)

instance : DecidableRel MessageConflictRow.keptBefore :=
  fun _ _ => inferInstanceAs (Decidable (_ ∨ _))

/-- The quarantine holds a bounded number of rows. -/
def boundConflicts (rows : List MessageConflictRow) : List MessageConflictRow :=
  let dropped := ((rows.insertionSort MessageConflictRow.keptBefore).drop
    messageConflictQuarantineLimit).map (·.id)
  rows.filter fun row => row.id ∉ dropped

/-- When a conflict was observed: on arrival, or now. -/
def conflictObservedAt (arrival : Option MessageArrival) (clock : ClockReading) :
    Except CoreError Int :=
  match arrival with
  | some arrival => .ok arrival.receivedAt
  | none => clock

/-- `quarantine_message_conflict`. -/
def quarantineMessageConflict (existing : MessageRow) (incoming : StoredMessage)
    (senderDeviceId : Bytes) (msgId replyToMsgId : Option Bytes) (arrival : Option MessageArrival)
    (clock : ClockReading) : Tx Store CoreError Unit := do
  let observedAt ← conflictObservedAt arrival clock
  modify fun s =>
    let row : MessageConflictRow :=
      { id := s.lastConflictId + 1, chatId := incoming.chatId
        senderUserId := incoming.senderUserId, senderDeviceId, lamport := incoming.lamport
        existingFingerprint := messageConflictFingerprint P incoming.chatId incoming.senderUserId
          existing.timestamp existing.kind existing.payload
        incomingFingerprint := messageConflictFingerprint P incoming.chatId incoming.senderUserId
          incoming.timestamp incoming.kind incoming.payload
        incomingTimestamp := incoming.timestamp, incomingKind := incoming.kind
        incomingPayload := incoming.payload, incomingMsgId := msgId
        incomingReplyToMsgId := replyToMsgId
        arrivalTransport := arrival.map (·.transport), hopsTaken := arrival.map (·.hopsTaken)
        firstSeenAt := observedAt, lastSeenAt := observedAt }
    match lookup MessageConflictRow.branch row.branch s.messageConflicts with
    | none => { s with
        messageConflicts := boundConflicts (s.messageConflicts ++ [row])
        lastConflictId := s.lastConflictId + 1 }
    | some _ => { s with
        messageConflicts := boundConflicts (update MessageConflictRow.branch row.branch
          (·.seenAgain row) s.messageConflicts) }

/-- The row of an incoming message. -/
def incomingRow (id : Nat) (message : StoredMessage) (senderDeviceId : Bytes)
    (msgId replyToMsgId : Option Bytes) (arrival : Option MessageArrival) : MessageRow where
  id := id
  chatId := message.chatId
  senderUserId := message.senderUserId
  senderDeviceId := senderDeviceId
  lamport := message.lamport
  timestamp := message.timestamp
  kind := message.kind
  payload := message.payload
  arrivalTransport := arrival.map (·.transport)
  hopsTaken := arrival.map (·.hopsTaken)
  receivedAt := arrival.map (·.receivedAt)
  msgId := msgId
  replyToMsgId := replyToMsgId

variable (message : StoredMessage)

/-- The transaction of `incoming_message_reference::insert`. -/
def insertIncomingTx (senderDeviceId : Bytes)
    (msgId replyToMsgId : Option Bytes) (arrival : Option MessageArrival) (clock : ClockReading) :
    Tx Store CoreError IncomingMessageInsertOutcome := do
  let s ← get
  match lookup MessageRow.slot
    (message.chatId, message.senderUserId, senderDeviceId, message.lamport) s.messages with
  | none => do
    set { s with
      messages := s.messages ++ [incomingRow (s.lastMessageId + 1) message senderDeviceId msgId
        replyToMsgId arrival]
      lastMessageId := s.lastMessageId + 1 }
    pure .inserted
  | some existing =>
    if existing.timestamp = message.timestamp ∧ existing.kind = message.kind ∧
        existing.payload = message.payload then do
      -- the same message again may bring the ids it lacked the first time
      if msgId.isSome ∨ replyToMsgId.isSome then
        set { s with
          messages := update MessageRow.slot existing.slot (fun held => { held with
            msgId := held.msgId <|> msgId
            replyToMsgId := held.replyToMsgId <|> replyToMsgId }) s.messages }
      pure .duplicate
    else do
      quarantineMessageConflict P existing message senderDeviceId msgId replyToMsgId arrival clock
      pure .quarantinedConflict

/-- `incoming_message_reference::insert`. -/
def insertIncoming (senderDeviceId : Bytes)
    (msgId replyToMsgId : Option Bytes) (arrival : Option MessageArrival) (clock : ClockReading) :
    Prog Store CoreError IncomingMessageInsertOutcome := do
  validateStoredMessage message
  (arrival.forM validateMessageArrival : Except CoreError Unit)
  transaction (insertIncomingTx P message senderDeviceId msgId replyToMsgId arrival clock)

/-- `insert_message_from_device`: a message without an envelope id. -/
def insertMessageFromDevice (senderDeviceId : Option Bytes)
    (clock : ClockReading) : Prog Store CoreError Bool := do
  let outcome ← insertIncoming P message (coreDeviceStreamId senderDeviceId) none none none clock
  pure (outcome = .inserted)

end Insert

/-! ## What they leave alone -/

section Frame
variable {τ : Type} {view : Store → τ} {P : Primitives}

theorem keeps_upsertContact {contact : Contact}
    (h : ∀ s contacts, view { s with contacts } = view s) : (upsertContact contact).Keeps view :=
  keeps_write fun s => h s _

variable {clock : ClockReading} {deviceId : Bytes} {msgId replyTo : Option Bytes}
  {arrival : Option MessageArrival} {message : StoredMessage}

theorem keeps_upsertGroup {group : Group}
    (h : ∀ s groups groupMembers, view { s with groups, groupMembers } = view s) :
    (upsertGroup group clock).Keeps view := by
  refine keeps_lift_bind fun _ => keeps_transaction ?_
  intro s u s' hrun
  obtain ⟨_, mid, hvalid, hrest⟩ := Tx.bind_eq_ok.mp hrun
  obtain rfl := (Tx.lift_eq_ok.mp hvalid).2
  rw [Tx.get_bind] at hrest
  split at hrest
  · rw [← (ok_pair_inj hrest).2]
  · rw [← (ok_pair_inj hrest).2]
    exact h s _ _

/-- The view sees neither the messages nor what conflicts with them. -/
structure MessageFrame (view : Store → τ) : Prop where
  messages : ∀ s messages lastMessageId, view { s with messages, lastMessageId } = view s
  conflicts : ∀ s messageConflicts lastConflictId,
    view { s with messageConflicts, lastConflictId } = view s

theorem keeps_insertIncoming (h : MessageFrame view) :
    (insertIncoming P message deviceId msgId replyTo arrival clock).Keeps view := by
  have htx : Tx.Keeps (insertIncomingTx P message deviceId msgId replyTo arrival clock) view := by
    intro s outcome s' hrun
    unfold insertIncomingTx at hrun
    rw [Tx.get_bind] at hrun
    cases hheld : lookup MessageRow.slot
        (message.chatId, message.senderUserId, deviceId, message.lamport) s.messages with
    | none =>
      rw [hheld] at hrun
      rw [← (ok_pair_inj hrun).2]
      exact h.messages s _ _
    | some existing =>
      rw [hheld] at hrun
      dsimp only at hrun
      split at hrun
      · split at hrun
        · rw [← (ok_pair_inj hrun).2]
          exact h.messages s _ _
        · rw [← (ok_pair_inj hrun).2]
      · refine Tx.keeps_bind (Tx.keeps_bind (Tx.keeps_lift _) fun _ => Tx.keeps_modify fun s => ?_)
          (fun _ => Tx.keeps_pure _) s _ _ hrun
        dsimp only
        split
        · exact h.conflicts s _ _
        · exact h.conflicts s _ _
  exact keeps_lift_bind fun _ =>
    keeps_lift_bind fun _ => keeps_transaction htx

end Frame
end CruiseMesh
