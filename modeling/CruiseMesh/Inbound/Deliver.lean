import CruiseMesh.Inbound.Tables

/-!
# Delivering an opened body

`core_deliver_inbound`: an envelope has been opened and its sender verified, and now the body
is given its meaning. Three gates come first (a device its person has buried, a chat that is not
the sender's to write into, a kind the sender may not send), then one arm for each kind, and
last a receipt for what was taken.

A failure is either a property of the bytes, and then the body is dropped for good, or of the
device, and then the caller may try again. Which of the two it is, is decided here.

Every call of the store is named by a `StoreCall`, and the database may fail at any of them:
`Faults` says where, and with which text. Each of the calls is one statement or one
transaction, so a call that fails has done nothing.
-/

namespace CruiseMesh
open Durable Prog List

def kindGroupMetadataUpdate : UInt8 := 19

/-! ## Verdicts -/

inductive CoreDeliveryVerdict where
  | applied
  | droppedForeignChat
  | droppedUnauthorizedSender
  | droppedRevokedDevice
  | droppedMalformed
deriving DecidableEq

inductive DeliveryFailure where
  | malformed (kind : Option UInt8)
  | durability (error : CoreError)

variable (kind : UInt8)

/-- `classify_body_error`. -/
def classifyBodyError : CoreError → DeliveryFailure
  | .store detail => .durability (.store detail)
  | _ => .malformed (some kind)

structure CoreLanEndpointIntent where
  peerUserId : Bytes
  endpoint : LanEndpointContent
  observedAtMs : Int
deriving DecidableEq

structure CoreInboundDelivery where
  verdict : CoreDeliveryVerdict
  kind : UInt8
  persisted : Bool := false
  endpointHint : Option CoreLanEndpointIntent := none
deriving DecidableEq

/-! ## Inputs -/

structure CoreInboundCommit where
  msgId : Bytes
  groupId : Option Bytes
  hiddenKind : Option UInt8
  recipientHint : Bytes
  expiry : Int
  ownUserId : Bytes
  nowMs : Int

structure CoreDiscoveryPolicyState where
  enabled : Bool
  revision : Nat

/-- The arguments of `core_deliver_inbound`. -/
structure Inbound where
  identity : Identity
  senderUserId : Bytes
  payload : Bytes
  commit : CoreInboundCommit
  arrival : MessageArrival
  discovery : CoreDiscoveryPolicyState

/-- The body came sealed to this person, and not to a group. -/
def Inbound.pairwise (m : Inbound) : Bool := m.commit.groupId.isNone

/-- The calls of the store that a delivery makes. -/
inductive StoreCall where
  | deviceState
  | senderContact
  | sharerContact
  | sharerBlocked
  | dismissal
  | holdRequest
  | notePrompt
  | importCard
  | deviceStreams
  | insertMessage
  | recordReceipt
  | relayUpdate
  | contactRoster
  | profileContact
  | discoveryPolicy
  | avatar
  | rename
  | upsertGroup
  | receiptContact
  | highestLamport
  | authorReceipt

/-- Where the database fails, and what it says. -/
abbrev Faults : Type := StoreCall → Option String

/-- A call of the store, which may fail. -/
def Faults.call {σ α : Type} (faults : Faults) (site : StoreCall) (p : Prog σ CoreError α) :
    Prog σ CoreError α :=
  match faults site with
  | some detail => Prog.lift (.error (.store detail))
  | none => p

/-- The database is sound. -/
def noFaults : Faults := fun _ => none

/-- What a delivery takes from its surroundings: the database's moods, the clock, and the
generator. -/
structure Surroundings where
  faults : Faults
  clock : ClockReading
  draw : AuthorDraw

/-! ## Who may send what -/

/-- `core_is_sync_record_kind`. -/
def coreIsSyncRecordKind : Bool := (coreSyncRecordKindOf kind).isSome

def recognizedPairwiseKinds : List UInt8 :=
  [kindText, kindReceipt, kindFriendRequest, kindGroupInvite, kindProfileSync, kindFriendDirectory,
    kindIntroducedFriendRequest, kindLanEndpointHint, kindRelayUpdate, kindRosterGossip,
    kindAttachmentManifest, kindReaction]

/-- `core_pairwise_sender_authorized`. -/
def corePairwiseSenderAuthorized (senderIsContact senderIsSelf : Bool) : Bool :=
  if coreIsSyncRecordKind kind then senderIsSelf
  else kind ∈ recognizedPairwiseKinds ∧ (senderIsContact ∨ senderIsSelf ∨
    kind = kindFriendRequest ∨ kind = kindIntroducedFriendRequest)

inductive ContactDeviceState where
  | unknown
  | active
  | revoked
deriving DecidableEq

variable (s : Store)

/-- `device_state`. -/
def Store.contactDeviceState (personUserId deviceId : Bytes) : ContactDeviceState :=
  match s.contactDevices.find? fun row =>
      row.personUserId = personUserId ∧ row.deviceId = deviceId with
  | none => .unknown
  | some row => if row.revokedAtSeq.isSome then .revoked else .active

/-- The roster that counts for a sender has buried the device. -/
def Store.deviceRevoked (senderUserId ownUserId deviceId : Bytes) : Bool :=
  if senderUserId = ownUserId then s.ownRoster.any fun roster => deviceId ∈ roster.tombstoneIds
  else s.contactDeviceState senderUserId deviceId = .revoked

/-- `signer_device_revoked`. The legacy stream cannot be buried. -/
def signerDeviceRevoked (faults : Faults) (senderUserId ownUserId : Bytes)
    (senderDeviceId : Option Bytes) : Prog InboundStore CoreError Bool :=
  match senderDeviceId with
  | none => pure false
  | some deviceId =>
    if deviceId = legacyDeviceId then pure false
    else faults.call .deviceState
      (inspect fun s => s.deviceRevoked senderUserId ownUserId deviceId)

/-! ## Storing a body -/

/-- `message_stream_device_ids`. -/
def Store.messageStreamDeviceIds (chatId senderUserId : Bytes) : List Bytes :=
  (((s.messages.filter fun row => row.chatId = chatId ∧ row.senderUserId = senderUserId).map
    (·.senderDeviceId)).insertionSort (· ≤ ·)).dedup

/-- The device streams among them. -/
def Store.deviceStreams (chatId senderUserId : Bytes) : List Bytes :=
  (s.messageStreamDeviceIds chatId senderUserId).filter (· ≠ legacyDeviceId)

/-- The stream for a device, given those that there are. -/
def boundedStream (held : List Bytes) (stream : Bytes) : Bytes :=
  if stream ∈ held then stream
  else if deviceHardCap ≤ (held.filter (· ≠ legacyDeviceId)).length then legacyDeviceId
  else stream

/-- `bounded_device_stream`. -/
def boundedDeviceStream (faults : Faults) (chatId senderUserId : Bytes)
    (senderDeviceId : Option Bytes) : Prog InboundStore CoreError Bytes :=
  let stream := coreDeviceStreamId senderDeviceId
  if stream = legacyDeviceId then pure stream
  else do
    let held ← faults.call .deviceStreams
      (inspect fun s => s.messageStreamDeviceIds chatId senderUserId)
    pure (boundedStream held stream)

/-- What `persist_inbound` makes of the outcome of the insert. -/
def persistOutcome : IncomingMessageInsertOutcome → Except CoreError Unit
  | .inserted => .ok ()
  | .duplicate => .ok ()
  | .quarantinedConflict => .error (.store "message stream conflict was quarantined")

/-- The message that a body is stored as. -/
def ExtendedMessageBody.stored (body : ExtendedMessageBody) (senderUserId stream : Bytes) :
    StoredMessage where
  chatId := body.chatId
  senderUserId := senderUserId
  lamport := body.lamport
  timestamp := body.timestamp
  kind := body.kind
  payload := body.content
  senderDeviceId := stream

/-- The result of an arm. -/
structure ArmOutcome where
  persisted : Bool := false
  endpointHint : Option CoreLanEndpointIntent := none
  receiptFloor : Nat := 0

/-- An error of the store keeps the body for another try. -/
def durably {σ α : Type} (p : Prog σ CoreError α) : Prog σ DeliveryFailure α :=
  p.mapError .durability

/-- Content that does not decode never will. -/
def decoded {α : Type} (kind : UInt8) (x : Except CoreError α) : Except DeliveryFailure α :=
  x.mapError fun _ => .malformed (some kind)

section Deliver
variable (P : Primitives) (R : InboundReaders) (w : Surroundings) (m : Inbound)
  (body : ExtendedMessageBody)

/-- `persist_inbound`. -/
def persistInbound : Prog InboundStore CoreError Unit := do
  let stream ← boundedDeviceStream w.faults body.chatId m.senderUserId body.senderDeviceId
  let outcome ← w.faults.call .insertMessage (liftStore (insertIncomingMessageFromDevice P
    (body.stored m.senderUserId stream) (some stream) m.commit.msgId body.replyToMsgId
    (some m.arrival) w.clock))
  persistOutcome outcome

/-! ## Friend requests -/

variable (card : FriendCard) (shared : SharedFriendCard)

/-- The request that waits for the person's answer. -/
def Inbound.pendingRequest : PendingSharedRequest where
  requesterUserId := m.senderUserId
  name := card.name
  signPk := card.signPk
  agreePk := card.agreePk
  relayUrl := card.relayUrl
  relayToken := card.relayToken
  sharerUserId := shared.sharerUserId
  expiresAtMs := shared.expiresAtMs
  firstSeenMs := m.arrival.receivedAt
  lastPromptedMs := 0

/-- `hold_shared_friend_request`, past the checks of the sharer and of the card's owner. -/
def holdVerified (sharerSignPk : Bytes) : Prog InboundStore CoreError Unit := do
  let verified ← verifySharedFriendCard P shared sharerSignPk m.identity.userId
    m.discovery.revision m.arrival.receivedAt
  if verified = false then pure ()
  else if (← w.faults.call .dismissal (inspect (·.promptSuppressed m.senderUserId))) then
    pure ()
  else do
    w.faults.call .holdRequest (write (·.withPendingRequest (m.pendingRequest card shared)))
    let _ ← attempt (w.faults.call .notePrompt
      (write (·.withPrompt m.senderUserId m.arrival.receivedAt)))
    pure ()

/-- `hold_shared_friend_request`: no contact is made. -/
def holdSharedFriendRequest : Prog InboundStore CoreError Unit := do
  match ← w.faults.call .sharerContact (inspect (·.getContact shared.sharerUserId)) with
  | none => pure ()
  | some sharer =>
    if (← w.faults.call .sharerBlocked (inspect (·.isUserBlocked shared.sharerUserId))) then
      pure ()
    else if P.deriveUserId shared.card.signPk ≠ m.identity.userId then pure ()
    else if m.discovery.enabled = false then pure ()
    else holdVerified P w m card shared sharer.signPk

/-- The contact a card makes of its verified sender. -/
def Inbound.cardContact : Contact where
  userId := m.senderUserId
  name := card.name
  signPk := card.signPk
  agreePk := card.agreePk
  relayUrl := card.relayUrl
  relayToken := card.relayToken

/-- What a friend request says, once it is checked against its sender. -/
def Inbound.friendRequest (content : Bytes) : Except CoreError FriendRequestContent := do
  refuseWhen (Utf8.fault content ≠ none) (.malformed "friend request is not UTF-8")
  let request ← parseFriendRequestContent P R content
  refuseWhen (P.deriveUserId request.card.signPk ≠ m.senderUserId)
    (.invalidFriendCard "friend request card does not match its verified sender")
  pure request

/-- `apply_friend_request`. -/
def applyFriendRequest (content : Bytes) : Prog InboundStore CoreError Unit := do
  let request ← m.friendRequest P R content
  match request.shared with
  | some shared => holdSharedFriendRequest P w m request.card shared
  | none => do
    let _ ← w.faults.call .importCard
      (liftStore (upsertImportedContact (m.cardContact request.card)))
    pure ()

/-! ## The arms -/

/-- A body that is stored, and nothing else. -/
def deliverStored : Prog InboundStore DeliveryFailure ArmOutcome := do
  durably (persistInbound P w m body)
  pure { persisted := true }

def deliverFriendRequest : Prog InboundStore DeliveryFailure ArmOutcome := do
  (applyFriendRequest P R w m body.content).mapError (classifyBodyError body.kind)
  deliverStored P w m body

/-- The receipt as it is recorded: the peer acknowledges this person's messages. -/
def takeReceipt (receipt : ReceiptContent) : Prog InboundStore CoreError Unit :=
  w.faults.call .recordReceipt <|
    match receipt.groupId with
    | some groupId => recordGroupReceipt
        { groupId, authorUserId := m.identity.userId, memberUserId := m.senderUserId
          receiptType := receipt.receiptType, throughLamport := receipt.lamport }
    | none => liftStore (recordReceipt m.senderUserId m.identity.userId receipt.receiptType
        receipt.lamport)

def deliverReceipt : Prog InboundStore DeliveryFailure ArmOutcome := do
  let receipt ← decoded body.kind (decodeReceiptContent body.content)
  refuseWhen (receipt.senderUserId ≠ m.identity.userId)
    (DeliveryFailure.malformed (some body.kind))
  durably (takeReceipt w m receipt)
  pure {}

def deliverLanEndpointHint : Prog InboundStore DeliveryFailure ArmOutcome := do
  let endpoint ← decoded body.kind (decodeLanEndpointContent R.ipAddr body.content)
  durably (persistInbound P w m body)
  pure {
    persisted := true
    endpointHint := some
      { peerUserId := m.senderUserId, endpoint, observedAtMs := m.arrival.receivedAt } }

/-- The row stays even if the store refuses the update. -/
def deliverRelayUpdate : Prog InboundStore DeliveryFailure ArmOutcome := do
  let content ← decoded body.kind (decodeRelayUpdateContent body.content)
  durably (persistInbound P w m body)
  let _ ← attempt (w.faults.call .relayUpdate
    (liftStore (applyContactRelayUpdate m.senderUserId content m.arrival.receivedAt)))
  pure { persisted := true }

/-- Nobody gossips the devices of somebody else. -/
def deliverRosterGossip : Prog InboundStore DeliveryFailure ArmOutcome := do
  let roster ← decoded body.kind (coreDecodeRoster body.content)
  refuseWhen (roster.personId ≠ m.senderUserId) (DeliveryFailure.malformed (some body.kind))
  durably (persistInbound P w m body)
  let _ ← attempt (w.faults.call .contactRoster (liftStore (applyContactRoster P roster)))
  pure { persisted := true }

/-- What a profile changes about a contact. -/
def takeProfile (content : ProfileSyncContent) (contact : Contact) :
    Prog InboundStore CoreError Unit := do
  w.faults.call .discoveryPolicy (write (·.withDiscoveryPolicy
    { userId := m.senderUserId, protocolVersion := content.friendsOfFriendsVersion
      enabled := content.friendsOfFriendsEnabled, revision := content.friendsOfFriendsRevision }))
  w.faults.call .avatar (write (·.withAvatar m.senderUserId
    (if content.avatar = [] then none else some content.avatar) content.avatarEpoch))
  if contact.name ≠ content.name then
    w.faults.call .rename (liftStore (upsertContact { contact with name := content.name }))

def deliverProfileSync : Prog InboundStore DeliveryFailure ArmOutcome := do
  let content ← decoded body.kind (decodeProfileSyncContent body.content)
  durably (persistInbound P w m body)
  match ← durably (w.faults.call .profileContact (inspect (·.getContact m.senderUserId))) with
  | none => pure ()
  | some contact => durably (takeProfile w m content contact)
  pure { persisted := true }

/-- An invite must list both its sender and this person. -/
def Inbound.inviteGroup : Except DeliveryFailure Group := do
  let group ← decoded body.kind (decodeGroupInviteContent body.content)
  refuseWhen (m.senderUserId ∉ group.memberUserIds ∨ m.identity.userId ∉ group.memberUserIds)
    (.malformed (some body.kind))
  pure group

/-- The invite is filed under the group, and not under the chat it came by. -/
def deliverGroupInvite : Prog InboundStore DeliveryFailure ArmOutcome := do
  let group ← m.inviteGroup body
  durably (w.faults.call .upsertGroup (liftStore (upsertGroup group w.clock)))
  durably (persistInbound P w m { body with chatId := group.id })
  pure { persisted := true, receiptFloor := body.lamport }

/-- The arms of the match over the kind. -/
inductive DeliveryArm where
  | friendRequest
  | receipt
  | lanEndpointHint
  | relayUpdate
  | rosterGossip
  | profileSync
  | groupInvite
  | other
deriving DecidableEq

/-- The arm for a kind. All but the last are for pairwise bodies. -/
def deliveryArm (pairwise : Bool) (kind : UInt8) : DeliveryArm :=
  if pairwise = false then .other
  else if kind = kindFriendRequest then .friendRequest
  else if kind = kindReceipt then .receipt
  else if kind = kindLanEndpointHint then .lanEndpointHint
  else if kind = kindRelayUpdate then .relayUpdate
  else if kind = kindRosterGossip then .rosterGossip
  else if kind = kindProfileSync then .profileSync
  else if kind = kindGroupInvite then .groupInvite
  else .other

/-- The match over the kind. -/
def applyBody : Prog InboundStore DeliveryFailure ArmOutcome :=
  match deliveryArm m.pairwise body.kind with
  | .friendRequest => deliverFriendRequest P R w m body
  | .receipt => deliverReceipt w m body
  | .lanEndpointHint => deliverLanEndpointHint P R w m body
  | .relayUpdate => deliverRelayUpdate P w m body
  | .rosterGossip => deliverRosterGossip P w m body
  | .profileSync => deliverProfileSync P w m body
  | .groupInvite => deliverGroupInvite P w m body
  | .other => deliverStored P w m body

/-! ## The whole -/

/-- The gates: the verdict of a body that is dropped by one. -/
def gateBody : Prog InboundStore CoreError (Option CoreDeliveryVerdict) := do
  if (← signerDeviceRevoked w.faults m.senderUserId m.identity.userId body.senderDeviceId) then
    pure (some .droppedRevokedDevice)
  else match m.commit.groupId with
    | some groupId =>
      if body.chatId ≠ groupId then pure (some .droppedForeignChat) else pure none
    | none =>
      if body.chatId ≠ m.senderUserId then pure (some .droppedForeignChat)
      else do
        let contact ← w.faults.call .senderContact (inspect (·.getContact m.senderUserId))
        if corePairwiseSenderAuthorized body.kind contact.isSome
            (m.senderUserId = m.identity.userId) then pure none
        else pure (some .droppedUnauthorizedSender)

/-- The receipt for what was taken. A receipt never acknowledges a receipt. -/
def answerWithReceipt (receiptFloor : Nat) : Prog InboundStore CoreError Unit :=
  if m.pairwise ∧ body.kind ≠ kindReceipt then do
    match ← w.faults.call .receiptContact (inspect (·.getContact m.senderUserId)) with
    | none => pure ()
    | some contact => do
      let highest ← w.faults.call .highestLamport
        (inspect (·.highestLamport m.senderUserId m.senderUserId))
      let _ ← w.faults.call .authorReceipt (liftStore (authorReceipt P m.identity contact
        m.senderUserId receiptTypeDelivered (max highest receiptFloor) m.arrival.receivedAt
        w.draw))
      pure ()
  else pure ()

/-- What follows the gates. -/
def deliverPastGates : Prog InboundStore DeliveryFailure CoreInboundDelivery := do
  let outcome ← applyBody P R w m body
  durably (answerWithReceipt P w m body outcome.receiptFloor)
  pure { verdict := .applied, kind := body.kind, persisted := outcome.persisted
         endpointHint := outcome.endpointHint }

/-- `deliver_inbound_body`. -/
def deliverInboundBody : Prog InboundStore DeliveryFailure CoreInboundDelivery := do
  let body ← (decodeExtendedMessageBody m.payload).mapError fun _ =>
    DeliveryFailure.malformed none
  match ← durably (gateBody w m body) with
  | some verdict => pure { verdict, kind := body.kind }
  | none => deliverPastGates P R w m body

/-- How a failure is reported. -/
def reportFailure : DeliveryFailure → Except CoreError CoreInboundDelivery
  | .malformed kind => .ok { verdict := .droppedMalformed, kind := kind.getD 0 }
  | .durability error => .error error

/-- `core_deliver_inbound`. -/
def coreDeliverInbound : Prog InboundStore CoreError CoreInboundDelivery := do
  match ← attempt (deliverInboundBody P R w m) with
  | .ok delivery => pure delivery
  | .error failure => reportFailure failure

end Deliver

/-! ## A device to deliver to -/

namespace Sample

/-- Nothing that comes as JSON can be read. -/
def noReaders : InboundReaders where
  card _ := .error ⟨.data, 1, 0⟩
  shared _ := .error ⟨.data, 1, 0⟩
  directory _ := .error ⟨.data, 1, 0⟩
  base64 _ := .error ""
  ipAddr _ := none

/-- A sound database, and a generator that draws what it draws. -/
def calm : Surroundings where
  faults := noFaults
  clock := .ok 0
  draw :=
    { msgId := replicate 16 9
      entropy := ⟨secretKey 8, replicate nonceLen 0, length_zeroNonce⟩ }

variable (n : UInt8)

/-- The person number `n`. -/
def userNumber : Bytes := replicate 16 n

/-- The person number 1, to whom everything is delivered. -/
def receiver : Identity where
  userId := userNumber 1
  signPk := publicKey (secretKey 1)
  signSk := secretKey 1
  agreePk := agreeKey (secretKey 1)
  agreeSk := secretKey 1

/-- The person number `n` as a contact. -/
def contactNumber : ContactRow where
  userId := userNumber n
  name := ascii "Bo"
  signPk := publicKey (secretKey n.toNat)
  agreePk := agreeKey (secretKey n.toNat)

/-- A body from the person number `n`, as it arrives. -/
def arriving (groupId : Option Bytes) (body : MessageBody) : Inbound where
  identity := receiver
  senderUserId := userNumber n
  payload := (encodeMessageBody body).toOption.getD []
  commit :=
    { msgId := replicate 16 5, groupId, hiddenKind := none, recipientHint := [], expiry := 1000
      ownUserId := userNumber 1, nowMs := 10 }
  arrival := { transport := 0, hopsTaken := 1, receivedAt := 10 }
  discovery := { enabled := true, revision := 0 }

end Sample
end CruiseMesh
