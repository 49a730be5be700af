import CruiseMesh.Inbound.Persist

/-!
# The other calls that author

`authoring.rs` beyond `author_pairwise_message`: what is sealed under a group's key, the invites
that are sealed for each member, the receipts that are sent again, and the re-seal of a message
that a peer misses; and `delete_contact`, which takes a conversation away and leaves the watermark
of its counter.

The group cipher is a parameter, as is what each call draws at random. Of the tables that
`delete_contact` clears, those of `AuthorStore` are modelled; whether the provenance of the contact
says that they were introduced is a parameter.
-/

namespace CruiseMesh
open Wire Durable Prog Table

/-! ## Sealing for a group -/

/-- `XChaCha20Poly1305` under a key and a nonce. -/
structure GroupCipher where
  encrypt : Bytes → Bytes → Bytes → Option Bytes
  decrypt : Bytes → Bytes → Bytes → Option Bytes
  decrypt_encrypt : ∀ key nonce plaintext ciphertext,
    encrypt key nonce plaintext = some ciphertext → decrypt key nonce ciphertext = some plaintext

def groupEnvelopeVersionLegacy : UInt8 := 1
def groupEnvelopeVersionBound : UInt8 := 2

def sealGroupEnvelopeVersion : UInt8 :=
  if sealBoundSignature then groupEnvelopeVersionBound else groupEnvelopeVersionLegacy

/-- `group_key_from_bytes`. -/
def groupKeyFromBytes (bytes : Bytes) : Except CoreError Bytes := do
  refuseWhen (bytes.length ≠ groupKeyLen) (.invalidKeyLength groupKeyLen bytes.length)
  pure bytes

section Author
variable (P : Primitives) (G : GroupCipher)

/-- `seal_group_message_as_version`. -/
def sealGroupMessageAsVersion (sender : Identity) (group : Group) (payload : Bytes)
    (version : UInt8) (nonce : Bytes) : Except CoreError Bytes := do
  validateGroup group
  refuseWhen (version ≠ groupEnvelopeVersionLegacy ∧ version ≠ groupEnvelopeVersionBound)
    (.crypto ("cannot seal group envelope version " ++ toString version.toNat))
  let binding := if version = groupEnvelopeVersionLegacy then .legacy else .group group.id
  let key ← groupKeyFromBytes group.key
  let padded ← signAndPad P sender binding payload
  let ciphertext ← okOr (G.encrypt key nonce padded) (.crypto "group seal failed")
  pure (version :: (nonce ++ ciphertext))

/-- `seal_group_message`. -/
def sealGroupMessage (sender : Identity) (group : Group) (payload nonce : Bytes) :
    Except CoreError Bytes :=
  sealGroupMessageAsVersion P G sender group payload sealGroupEnvelopeVersion nonce

variable (identity : Identity) (contact : Contact)

/-- `author_friend_request`. -/
def authorFriendRequest (friendCardJson : Bytes)
    (timestampMs : Int) (draw : AuthorDraw) : Prog AuthorStore CoreError AuthoredEnvelope :=
  authorPairwiseMessage P identity contact kindFriendRequest friendCardJson none timestampMs draw

/-! ## Messages to a group -/

variable (group : Group) (message : StoredMessage) (replyToMsgId : Option Bytes)

/-- The envelope that all members of a group share. -/
def buildGroupEnvelope (timestampMs : Int) (draw : AuthorDraw) :
    Except CoreError OutboundEnvelope := do
  let body ← encodedBody message group.id replyToMsgId
  let sealedBody ← sealGroupMessage P G identity group body draw.entropy.nonce
  pure {
    msgId := draw.msgId
    recipientUserId := group.id
    chatId := group.id
    senderUserId := message.senderUserId
    kind := message.kind
    lamport := message.lamport
    timestamp := message.timestamp
    hopTtl := defaultHopTtl
    expiry := defaultExpiry timestampMs
    recipientHint := computeRecipientHint P group.id timestampMs
    body := sealedBody }

/-- The transaction of `author_group_message`. -/
def authorGroupTx (kind : UInt8) (payload : Bytes)
    (replyToMsgId : Option Bytes) (timestampMs : Int) (draw : AuthorDraw) :
    Tx AuthorStore CoreError AuthoredEnvelope := do
  let s ← get
  let message := s.authoredMessage identity group.id kind payload timestampMs
  let envelope ← buildGroupEnvelope P G identity group message replyToMsgId timestampMs draw
  insertAuthoredRows message envelope replyToMsgId timestampMs
  pure (authored message envelope (s.nextAuthoredLamport group.id identity.userId).2)

/-- `author_group_message`. -/
def authorGroupMessage (kind : UInt8) (payload : Bytes)
    (replyToMsgId : Option Bytes) (timestampMs : Int) (draw : AuthorDraw) :
    Prog AuthorStore CoreError AuthoredEnvelope := do
  let gate ← inspect (·.guardLinkGate .author)
  gate
  refuseWhen (kind ≠ kindText ∧ kind ≠ kindAttachmentManifest ∧ kind ≠ kindReaction)
    (CoreError.malformed ("unsupported group authored kind " ++ toString kind.toNat))
  refuseWhen (identity.userId ∉ group.memberUserIds)
    (CoreError.malformed "group author is not a member")
  transaction (authorGroupTx P G identity group kind payload replyToMsgId timestampMs draw)

/-! ## Group metadata -/

/-- `create_group_metadata_update`. -/
def createGroupMetadataUpdate (changedBy name : Bytes) (memberUserIds : List Bytes) :
    Except CoreError GroupMetadataUpdate := do
  validateGroup group
  refuseWhen (changedBy ∉ group.memberUserIds) (.malformed "group metadata author is not a member")
  let name := trim name
  validateGroupName name
  validateMemberUserIds memberUserIds
  let memberUserIds := canonicalizeMembers memberUserIds
  refuseWhen (∃ member ∈ group.memberUserIds, member ∉ memberUserIds)
    (.malformed "group metadata update cannot remove members")
  refuseWhen (2 ^ 64 ≤ group.metadataRevision + 1) (.malformed "group metadata revision overflow")
  pure { groupId := group.id, name, revision := group.metadataRevision + 1, changedBy, memberUserIds }

/-- `encode_group_metadata_update`. -/
def encodeGroupMetadataUpdate (update : GroupMetadataUpdate) : Except CoreError Bytes := do
  validateGroupMetadataUpdate update
  let members := canonicalizeMembers update.memberUserIds
  pure (beBytes 1 groupMetadataVersion ++ update.groupId ++ beBytes 8 update.revision ++
    (beBytes 2 update.changedBy.length ++ update.changedBy) ++
    (beBytes 2 update.name.length ++ update.name) ++ beBytes 2 members.length ++
    members.flatMap fun member => beBytes 2 member.length ++ member)

structure AuthoredGroupMetadataUpdate where
  group : Group
  update : GroupMetadataUpdate
  authored : AuthoredEnvelope

/-- The transaction of `author_group_metadata_update`. -/
def authorMetadataTx (group updatedGroup : Group)
    (update : GroupMetadataUpdate) (payload : Bytes) (timestampMs : Int) (draw : AuthorDraw)
    (clock : ClockReading) : Tx AuthorStore CoreError AuthoredGroupMetadataUpdate := do
  let s ← get
  let message := s.authoredMessage identity group.id kindGroupMetadataUpdate payload timestampMs
  let envelope ← buildGroupEnvelope P G identity group message none timestampMs draw
  txOnStore (transaction (upsertGroupTx updatedGroup clock))
  insertAuthoredRows message envelope none timestampMs
  pure { group := updatedGroup, update
         authored := authored message envelope (s.nextAuthoredLamport group.id identity.userId).2 }

/-- `author_group_metadata_update`. -/
def authorGroupMetadataUpdate (name : Bytes)
    (memberUserIds : List Bytes) (timestampMs : Int) (draw : AuthorDraw) (clock : ClockReading) :
    Prog AuthorStore CoreError AuthoredGroupMetadataUpdate := do
  let gate ← inspect (·.guardLinkGate .author)
  gate
  let update ← createGroupMetadataUpdate group identity.userId name memberUserIds
  let applied ← applyGroupMetadataUpdate group update identity.userId
  let updatedGroup ← okOr applied (CoreError.malformed "group metadata update had no effect")
  let payload ← encodeGroupMetadataUpdate update
  transaction (authorMetadataTx P G identity group updatedGroup update payload timestampMs draw clock)

/-! ## Invites -/

/-- The loop of `queue_group_invites`: one envelope for each member, and one message. -/
def inviteMembers (identity : Identity) (message : StoredMessage) (acknowledgedDelivered : Nat)
    (timestampMs : Int) (draws : Nat → AuthorDraw) :
    List Contact → Nat → Tx AuthorStore CoreError (List AuthoredEnvelope)
  | [], _ => pure []
  | member :: rest, n =>
    if member.userId = identity.userId then
      inviteMembers identity message acknowledgedDelivered timestampMs draws rest (n + 1)
    else do
      let envelope ← buildPairwiseEnvelope P identity member message none timestampMs (draws n)
        (authoredExpiry kindGroupInvite timestampMs)
      insertAuthoredRows message envelope none timestampMs
      let invites ← inviteMembers identity message acknowledgedDelivered timestampMs draws rest (n + 1)
      pure (authored message envelope acknowledgedDelivered :: invites)

/-- `queue_group_invites`. -/
def queueGroupInvites (members : List Contact) (timestampMs : Int) (draws : Nat → AuthorDraw) :
    Prog AuthorStore CoreError (List AuthoredEnvelope) := do
  let gate ← inspect (·.guardLinkGate .author)
  gate
  let invite ← encodeGroupInviteContent group
  transaction do
    let s ← get
    inviteMembers P identity (s.authoredMessage identity group.id kindGroupInvite invite timestampMs)
      (s.nextAuthoredLamport group.id identity.userId).2 timestampMs draws members 0

/-! ## Receipts that are sent again -/

/-- The sealed receipt for a group's messages. -/
def sealGroupReceipt (author : Contact) (groupId : Bytes)
    (receiptType : UInt8) (timestampMs : Int) (draw : AuthorDraw) (desired : Nat) :
    Except CoreError OutgoingReceiptEnvelope := do
  let content ← encodeReceiptContent
    { chatId := identity.userId, senderUserId := author.userId, lamport := desired, receiptType
      groupId := some groupId }
  let body ← encodeMessageBody
    { kind := kindReceipt, chatId := identity.userId, lamport := 0, timestamp := timestampMs
      content }
  let sealedBody ← sealMessage P identity author.agreePk body draw.entropy
  pure {
    msgId := draw.msgId
    recipientUserId := author.userId
    chatId := groupId
    senderUserId := author.userId
    receiptType := receiptType
    throughLamport := desired
    timestamp := timestampMs
    hopTtl := defaultHopTtl
    expiry := defaultExpiry timestampMs
    recipientHint := computeRecipientHint P author.userId timestampMs
    body := sealedBody }

/-- The transaction both calls make: a queued receipt for as much is sent again as it is. Since
`desired` is at least the stored watermark, the larger of the two is `desired`. -/
def ensureReceiptTx (chatId senderUserId : Bytes) (receiptType : UInt8) (throughLamport : Nat)
    (timestampMs : Int) (build : Nat → Except CoreError OutgoingReceiptEnvelope) :
    Tx Store CoreError AuthoredReceipt := do
  let s ← get
  let current := lookup ReceiptRow.subject (chatId, senderUserId, receiptType)
    s.outgoingReceipts
  let desired := max throughLamport ((current.map (·.throughLamport)).getD 0)
  let existing := lookup OutgoingReceiptEnvelopeRow.subject (chatId, senderUserId, receiptType)
    s.outgoingReceiptEnvelopes
  match existing.filter fun row => desired ≤ row.throughLamport with
  | some row => pure { envelope := row.toOutgoingReceiptEnvelope
                       frame := frameReceipt row.toOutgoingReceiptEnvelope }
  | none => do
    let envelope ← build desired
    set (s.withReceipt envelope timestampMs)
    pure { envelope, frame := frameReceipt envelope }

/-- `ensure_authored_receipt`. -/
def ensureAuthoredReceipt (ackedSenderUserId : Bytes)
    (receiptType : UInt8) (throughLamport : Nat) (timestampMs : Int) (draw : AuthorDraw) :
    Prog Store CoreError AuthoredReceipt := do
  let gate ← inspect (·.guardLinkGate .author)
  gate
  refuseWhen (receiptType ≠ receiptTypeDelivered ∧ receiptType ≠ receiptTypeRead)
    (CoreError.malformed "invalid receipt type")
  refuseWhen (throughLamport = 0) (CoreError.malformed "receipt watermark must be positive")
  validateSqliteU64 "receipt watermark" throughLamport
  transaction <| ensureReceiptTx contact.userId ackedSenderUserId receiptType throughLamport
    timestampMs fun desired =>
      sealReceipt P identity contact ackedSenderUserId receiptType desired timestampMs draw

/-- `ensure_authored_group_receipt`. The gate comes after the first two checks. -/
def ensureAuthoredGroupReceipt (author : Contact) (groupId : Bytes)
    (receiptType : UInt8) (throughLamport : Nat) (timestampMs : Int) (draw : AuthorDraw) :
    Prog Store CoreError AuthoredReceipt := do
  refuseWhen (receiptType ≠ receiptTypeDelivered ∧ receiptType ≠ receiptTypeRead)
    (CoreError.malformed "invalid receipt type")
  refuseWhen (throughLamport = 0) (CoreError.malformed "receipt watermark must be positive")
  let gate ← inspect (·.guardLinkGate .author)
  gate
  refuseWhen (groupId.length ≠ groupIdLen) (CoreError.malformed
    ("group receipt id must be exactly " ++ toString groupIdLen ++ " bytes"))
  validateSqliteU64 "receipt watermark" throughLamport
  transaction <| ensureReceiptTx groupId author.userId receiptType throughLamport timestampMs
    (sealGroupReceipt P identity author groupId receiptType timestampMs draw)

/-! ## Sealing a message again -/

/-- `stable_backfill_msg_id`: the id the message was sent with, or one that is written back. -/
def stableBackfillMsgId (fresh : Bytes) : Tx AuthorStore CoreError Bytes := do
  let slot := (message.chatId, message.senderUserId,
    coreDeviceStreamId (some message.senderDeviceId), message.lamport)
  let s ← get
  match ((lookup MessageRow.slot slot s.messages).bind (·.msgId)).filter (· ≠ []) with
  | some msgId => pure msgId
  | none => do
    modify fun s => { s with
      messages := update MessageRow.slot slot
        (fun row => if row.msgId = none then { row with msgId := some fresh } else row) s.messages }
    pure fresh

/-- The queued envelope of a message for a contact. -/
def Store.queuedEnvelope (s : Store) (message : StoredMessage) (recipientUserId : Bytes) :
    Option OutboundEnvelopeRow :=
  s.outboundEnvelopes.find? fun row => row.chatId = message.chatId ∧
    row.senderUserId = message.senderUserId ∧ row.kind = message.kind ∧
    row.lamport = message.lamport ∧ row.recipientUserId = recipientUserId

/-- The transaction of `backfill_pairwise_envelope`. -/
def backfillTx (draw : AuthorDraw) : Tx AuthorStore CoreError AuthoredEnvelope := do
  let s ← get
  match s.queuedEnvelope message contact.userId with
  | some row => pure (authored message row.toOutboundEnvelope 0)
  | none => do
    let msgId ← stableBackfillMsgId message draw.msgId
    let envelope ← buildPairwiseEnvelope P identity contact message replyToMsgId message.timestamp
      { draw with msgId } (defaultExpiry message.timestamp)
    modify (·.recordAuthoredWatermark message)
    if (← get).backfillRejoinsTheQueue envelope then
      modify (·.queueOutboundRow envelope message.timestamp)
    pure (authored message envelope 0)

/-- `backfill_pairwise_envelope`. -/
def backfillPairwiseEnvelope (draw : AuthorDraw) : Prog AuthorStore CoreError AuthoredEnvelope := do
  let gate ← inspect (·.guardLinkGate .author)
  gate
  refuseWhen (isPairwiseKind message.kind = false ∨ message.chatId ≠ contact.userId ∨
      message.senderUserId ≠ identity.userId)
    (CoreError.malformed "legacy message does not match pairwise author or contact")
  transaction (backfillTx P identity contact message replyToMsgId draw)

end Author

/-! ## Deleting a contact -/

/-- `delete_contact`. The watermark of the conversation's counter stays. -/
def deleteContact (userId : Bytes) (nowMs : Int) (introduced : Bool) :
    Prog AuthorStore CoreError Bool := transaction do
  let removed := (← get).contacts.any fun row => row.userId = userId
  modify fun s => { s with
    contacts := s.contacts.filter (·.userId ≠ userId)
    blockedIdentities := if removed ∧ introduced then
        insertOrIgnore BlockedIdentityRow.userId { userId, blockedAtMs := nowMs }
          s.blockedIdentities
      else s.blockedIdentities
    messages := s.messages.filter (·.chatId ≠ userId)
    messageConflicts := s.messageConflicts.filter (·.chatId ≠ userId)
    receipts := s.receipts.filter (·.chatId ≠ userId)
    outgoingReceipts := s.outgoingReceipts.filter (·.chatId ≠ userId)
    outgoingReceiptEnvelopes := s.outgoingReceiptEnvelopes.filter (·.chatId ≠ userId)
    outboundEnvelopes := s.outboundEnvelopes.filter (·.chatId ≠ userId)
    contactRosters := s.contactRosters.filter (·.personUserId ≠ userId)
    contactDevices := s.contactDevices.filter (·.personUserId ≠ userId)
    contactSafetyFacts := s.contactSafetyFacts.filter (·.personUserId ≠ userId) }
  pure removed

end CruiseMesh
