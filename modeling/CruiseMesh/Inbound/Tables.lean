import CruiseMesh.Inbound.Contents
import CruiseMesh.Routing.Authoring

/-!
# The tables that only delivery writes

Discovery policies, avatars, shared friend requests, group receipts and friend suggestions,
next to the tables of `Store`, with the one function that writes each; and `author_receipt`,
which queues the sealed answer to a delivery.

The transport a group receipt came by is not modelled, and a suggestion keeps its ticket
rather than the ticket's JSON.
-/

namespace CruiseMesh
open Wire Durable Prog Table

/-! ## The store -/

/-- `contact_discovery_policy`. -/
structure ContactDiscoveryPolicy where
  userId : Bytes
  protocolVersion : UInt8
  enabled : Bool
  revision : Nat

/-- The avatar columns of `contacts`. A contact without a row has neither. -/
structure ContactAvatarRow where
  userId : Bytes
  avatar : Option Bytes
  avatarEpoch : Int

/-- `pending_shared_requests`. -/
structure PendingSharedRequest where
  requesterUserId : Bytes
  name : Bytes
  signPk : Bytes
  agreePk : Bytes
  relayUrl : Option Bytes
  relayToken : Option Bytes
  sharerUserId : Bytes
  expiresAtMs : Int
  firstSeenMs : Int
  lastPromptedMs : Int

/-- `shared_request_dismissals`. -/
structure SharedRequestDismissal where
  requesterUserId : Bytes
  count : Nat
  suppressed : Bool

/-- `group_receipts`. -/
structure GroupReceiptRow where
  groupId : Bytes
  authorUserId : Bytes
  memberUserId : Bytes
  receiptType : UInt8
  throughLamport : Nat

def GroupReceiptRow.subject (row : GroupReceiptRow) : Bytes × Bytes × Bytes × UInt8 :=
  (row.groupId, row.authorUserId, row.memberUserId, row.receiptType)

/-- `friend_directory_state`. -/
structure FriendDirectoryStateRow where
  introducerUserId : Bytes
  appliedRevision : Nat

/-- `friend_suggestions`. -/
structure FriendSuggestionRow where
  candidateUserId : Bytes
  introducerUserId : Bytes
  name : Bytes
  signPk : Bytes
  agreePk : Bytes
  candidatePolicyRevision : Nat
  ticket : IntroductionTicket
  expiresAtMs : Int

def FriendSuggestionRow.pair (row : FriendSuggestionRow) : Bytes × Bytes :=
  (row.candidateUserId, row.introducerUserId)

/-- `friend_suggestion_state`. -/
structure FriendSuggestionStateRow where
  candidateUserId : Bytes
  state : Nat

/-- The store with the tables that delivery writes. -/
structure InboundStore extends Store where
  contactDiscoveryPolicies : List ContactDiscoveryPolicy := []
  contactAvatars : List ContactAvatarRow := []
  pendingSharedRequests : List PendingSharedRequest := []
  sharedRequestDismissals : List SharedRequestDismissal := []
  groupReceipts : List GroupReceiptRow := []
  friendDirectoryState : List FriendDirectoryStateRow := []
  friendSuggestions : List FriendSuggestionRow := []
  friendSuggestionState : List FriendSuggestionStateRow := []

/-- A program over the other tables. -/
def liftStore {α : Type} (p : Prog Store CoreError α) : Prog InboundStore CoreError α :=
  p.zoom InboundStore.toStore fun store s => { s with toStore := store }

section OnStore
variable {α τ : Type} {p : Prog Store CoreError α} {s : InboundStore}

theorem final_liftStore : (liftStore p).final s = { s with toStore := p.final s.toStore } := by
  unfold liftStore
  rw [final_zoom fun _ => rfl]

theorem returns_liftStore {a : α} {s' : Store} (h : p.Returns s.toStore a s') :
    (liftStore p).Returns s a { s with toStore := s' } := by
  refine ⟨h.1, ?_⟩
  rw [final_liftStore, h.2]

theorem keeps_liftStore {view : InboundStore → τ}
    (h : ∀ s : InboundStore, p.Keeps fun store => view { s with toStore := store }) :
    (liftStore p).Keeps view :=
  fun s => throughout_zoom rfl (h s s.toStore)

end OnStore

/-! ## Contacts -/

/-- A stored contact without the bookkeeping columns. -/
def ContactRow.contact (row : ContactRow) : Contact where
  userId := row.userId
  name := row.name
  signPk := row.signPk
  agreePk := row.agreePk
  relayUrl := row.relayUrl
  relayToken := row.relayToken
  nickname := row.nickname

/-- `get_contact`. -/
def Store.getContact (s : Store) (userId : Bytes) : Option Contact :=
  (lookup ContactRow.userId userId s.contacts).map ContactRow.contact

/-- `highest_lamport`. -/
def Store.highestLamport (s : Store) (chatId senderUserId : Bytes) : Nat :=
  let lamports := (s.messages.filter fun row =>
    row.chatId = chatId ∧ row.senderUserId = senderUserId).map (·.lamport)
  (maxOrZero lamports % 2 ^ 64).toNat

namespace InboundStore
variable (s : InboundStore)

/-- `upsert_contact_discovery_policy`: only a higher revision replaces what is stored. -/
def withDiscoveryPolicy (policy : ContactDiscoveryPolicy) : InboundStore :=
  match lookup ContactDiscoveryPolicy.userId policy.userId s.contactDiscoveryPolicies with
  | some held =>
    if asI64 held.revision < asI64 policy.revision then { s with
      contactDiscoveryPolicies :=
        upsert ContactDiscoveryPolicy.userId policy s.contactDiscoveryPolicies }
    else s
  | none => { s with
      contactDiscoveryPolicies :=
        upsert ContactDiscoveryPolicy.userId policy s.contactDiscoveryPolicies }

/-- `set_contact_avatar`. -/
def withAvatar (userId : Bytes) (avatar : Option Bytes) (epoch : Int) : InboundStore :=
  let avatar := avatar.filter (· ≠ [])
  let heldEpoch := ((lookup ContactAvatarRow.userId userId s.contactAvatars).map
    (·.avatarEpoch)).getD 0
  if (∃ row ∈ s.contacts, row.userId = userId) ∧ heldEpoch < epoch then { s with
    contactAvatars := upsert ContactAvatarRow.userId
      { userId, avatar, avatarEpoch := epoch } s.contactAvatars }
  else s

/-- The row of `upsert_pending_shared_request`: the first sight and the last prompt stay. -/
def pendingRow (request : PendingSharedRequest) : PendingSharedRequest :=
  match lookup PendingSharedRequest.requesterUserId request.requesterUserId
      s.pendingSharedRequests with
  | some held =>
    { request with firstSeenMs := held.firstSeenMs, lastPromptedMs := held.lastPromptedMs }
  | none => { request with lastPromptedMs := 0 }

/-- `upsert_pending_shared_request`. -/
def withPendingRequest (request : PendingSharedRequest) : InboundStore :=
  { s with
    pendingSharedRequests := upsert PendingSharedRequest.requesterUserId
      (s.pendingRow request) s.pendingSharedRequests }

/-- Whether the person asked not to be shown this requester again. -/
def promptSuppressed (requesterUserId : Bytes) : Bool :=
  (lookup SharedRequestDismissal.requesterUserId requesterUserId
    s.sharedRequestDismissals).any (·.suppressed)

/-- `note_shared_request_prompt`. -/
def withPrompt (requesterUserId : Bytes) (nowMs : Int) : InboundStore :=
  if s.promptSuppressed requesterUserId then s
  else { s with
    pendingSharedRequests := s.pendingSharedRequests.map fun row =>
      if row.requesterUserId = requesterUserId ∧ row.lastPromptedMs ≤ nowMs - msPerDay then
        { row with lastPromptedMs := nowMs }
      else row }

/-- The statement of `record_group_receipt`. -/
def raiseGroupReceipt (row : GroupReceiptRow) : InboundStore :=
  let raised := match lookup GroupReceiptRow.subject row.subject s.groupReceipts with
    | some held => if asI64 held.throughLamport < asI64 row.throughLamport then row.throughLamport
      else held.throughLamport
    | none => row.throughLamport
  { s with
    groupReceipts := upsert GroupReceiptRow.subject { row with throughLamport := raised }
      s.groupReceipts }

/-- `group_receipt_through`. -/
def groupReceiptThrough (groupId authorUserId memberUserId : Bytes) (receiptType : UInt8) : Nat :=
  ((lookup GroupReceiptRow.subject (groupId, authorUserId, memberUserId, receiptType)
    s.groupReceipts).map (·.throughLamport)).getD 0

end InboundStore

/-- `record_group_receipt`. -/
def recordGroupReceipt (row : GroupReceiptRow) : Prog InboundStore CoreError Unit := do
  validateReceiptWatermark row.receiptType row.throughLamport
  refuseWhen (row.groupId.length ≠ groupIdLen) (CoreError.malformed
    ("group receipt id must be exactly " ++ toString groupIdLen ++ " bytes"))
  write (·.raiseGroupReceipt row)

/-! ## Friend directories -/

def invalidTicket : CoreError :=
  .malformed "friend directory contains an invalid introduction ticket"

section Directory
variable (P : Primitives)

/-- The first statements for an entry: its ticket must be good, and a suggestion that was
asked for may be asked for again when no request for it is under way. -/
def checkSuggestion (introducerUserId introducerSignPk recipientUserId : Bytes) (nowMs : Int)
    (entry : FriendDirectoryEntry) : Tx InboundStore CoreError Unit := do
  refuseWhen (entry.ticket.introducerUserId ≠ introducerUserId) invalidTicket
  let verified ← verifyIntroductionTicket P entry.ticket introducerSignPk entry.candidate.userId
    recipientUserId entry.candidatePolicyRevision nowMs
  refuseWhen (verified = false) invalidTicket
  modify fun s =>
    if s.outboundEnvelopes.any fun row => row.recipientUserId = entry.candidate.userId ∧
        row.kind = kindIntroducedFriendRequest ∧ nowMs < row.expiry then s
    else { s with
      friendSuggestionState := s.friendSuggestionState.filter fun row =>
        ¬ (row.candidateUserId = entry.candidate.userId ∧ row.state = 1) }

/-- The row of an entry. -/
def FriendDirectoryEntry.suggestion (entry : FriendDirectoryEntry) (introducerUserId : Bytes) :
    FriendSuggestionRow where
  candidateUserId := entry.candidate.userId
  introducerUserId := introducerUserId
  name := entry.candidate.name
  signPk := entry.candidate.signPk
  agreePk := entry.candidate.agreePk
  candidatePolicyRevision := entry.candidatePolicyRevision
  ticket := entry.ticket
  expiresAtMs := entry.ticket.expiresAtMs

/-- The loop over the entries. -/
def checkSuggestions (introducerUserId introducerSignPk recipientUserId : Bytes) (nowMs : Int) :
    List FriendDirectoryEntry → Tx InboundStore CoreError Unit
  | [] => pure ()
  | entry :: rest => do
    checkSuggestion P introducerUserId introducerSignPk recipientUserId nowMs entry
    checkSuggestions introducerUserId introducerSignPk recipientUserId nowMs rest

/-- The statements after the loop: the revision, and the introducer's suggestions anew. -/
def replaceSuggestions (introducerUserId : Bytes) (content : FriendDirectoryContent) :
    Tx InboundStore CoreError Unit := do
  modify fun s => { s with
    friendDirectoryState := upsert FriendDirectoryStateRow.introducerUserId
      { introducerUserId, appliedRevision := content.revision } s.friendDirectoryState
    friendSuggestions := s.friendSuggestions.filter (·.introducerUserId ≠ introducerUserId) }
  let s ← get
  match insertAll FriendSuggestionRow.pair
      (content.entries.map (·.suggestion introducerUserId)) s.friendSuggestions with
  | some friendSuggestions => set { s with friendSuggestions }
  | none => throw (.store ("UNIQUE constraint failed: friend_suggestions.candidate_user_id, " ++
      "friend_suggestions.introducer_user_id"))

/-- `apply_friend_directory`. -/
def applyFriendDirectory (introducerUserId recipientUserId : Bytes)
    (content : FriendDirectoryContent) (nowMs : Int) : Prog InboundStore CoreError Bool := do
  refuseWhen (content.version ≠ 1 ∨ 64 < content.entries.length)
    (CoreError.malformed "invalid friend directory")
  transaction do
    let s ← get
    match s.contactSignPk introducerUserId with
    | none => throw (.malformed "friend directory sender is not a contact")
    | some introducerSignPk =>
      if (lookup FriendDirectoryStateRow.introducerUserId introducerUserId
          s.friendDirectoryState).any fun row => content.revision ≤ row.appliedRevision then
        pure false
      else do
        checkSuggestions P introducerUserId introducerSignPk recipientUserId nowMs content.entries
        replaceSuggestions introducerUserId content
        pure true

/-- What a friend directory is about. -/
def InboundStore.suggestions (s : InboundStore) :
    List FriendDirectoryStateRow × List FriendSuggestionRow × List FriendSuggestionStateRow :=
  (s.friendDirectoryState, s.friendSuggestions, s.friendSuggestionState)

end Directory

/-! ## Receipts that go back -/

/-- `encode_receipt_content`. -/
def encodeReceiptContent (content : ReceiptContent) : Except CoreError Bytes := do
  validateReceiptContent content
  refuseWhen (u16Max < content.chatId.length ∨ u16Max < content.senderUserId.length)
    (.malformed "receipt identity is too long")
  pure (beBytes 2 content.chatId.length ++ content.chatId ++
    beBytes 2 content.senderUserId.length ++ content.senderUserId ++ beBytes 8 content.lamport ++
    [content.receiptType] ++
    (content.groupId.map fun id => beBytes 2 id.length ++ id).getD [])

/-- `default_expiry`. -/
def defaultExpiry (timestampMs : Int) : Int := saturateI64 (timestampMs + defaultExpiryMs)

structure AuthoredReceipt where
  envelope : OutgoingReceiptEnvelope
  frame : Bytes

/-- The primary key of `outgoing_receipt_envelopes`. -/
def OutgoingReceiptEnvelopeRow.subject (row : OutgoingReceiptEnvelopeRow) :
    Bytes × Bytes × UInt8 :=
  (row.chatId, row.senderUserId, row.receiptType)

/-- A receipt of this kind has gone out for as much already. -/
def Store.receiptSent (s : Store) (contactUserId ackedSenderUserId : Bytes) (receiptType : UInt8)
    (throughLamport : Nat) : Bool :=
  (lookup ReceiptRow.subject (contactUserId, ackedSenderUserId, receiptType)
    s.outgoingReceipts).any fun row => asI64 throughLamport ≤ asI64 row.throughLamport

section Receipt
variable (P : Primitives)

/-- The sealed receipt. -/
def sealReceipt (identity : Identity) (contact : Contact) (ackedSenderUserId : Bytes)
    (receiptType : UInt8) (throughLamport : Nat) (timestampMs : Int) (draw : AuthorDraw) :
    Except CoreError OutgoingReceiptEnvelope := do
  let content ← encodeReceiptContent
    { chatId := identity.userId, senderUserId := ackedSenderUserId, lamport := throughLamport
      receiptType, groupId := none }
  let body ← encodeMessageBody
    { kind := kindReceipt, chatId := identity.userId, lamport := 0, timestamp := timestampMs
      content }
  let sealedBody ← sealMessage P identity contact.agreePk body draw.entropy
  pure {
    msgId := draw.msgId
    recipientUserId := contact.userId
    chatId := contact.userId
    senderUserId := ackedSenderUserId
    receiptType := receiptType
    throughLamport := throughLamport
    timestamp := timestampMs
    hopTtl := defaultHopTtl
    expiry := defaultExpiry timestampMs
    recipientHint := computeRecipientHint P contact.userId timestampMs
    body := sealedBody }

/-- The watermark and the envelope of a receipt, in the store. -/
def Store.withReceipt (s : Store) (envelope : OutgoingReceiptEnvelope) (timestampMs : Int) :
    Store :=
  { s with
    outgoingReceipts := upsert ReceiptRow.subject
      { chatId := envelope.chatId, senderUserId := envelope.senderUserId
        receiptType := envelope.receiptType, throughLamport := envelope.throughLamport }
      s.outgoingReceipts
    outgoingReceiptEnvelopes := upsert OutgoingReceiptEnvelopeRow.subject
      { envelope with queuedAt := timestampMs, relayPostedAt := none }
      s.outgoingReceiptEnvelopes }

/-- `author_receipt`. The watermark is written before the envelope is sealed, in the same
transaction. -/
def authorReceipt (identity : Identity) (contact : Contact) (ackedSenderUserId : Bytes)
    (receiptType : UInt8) (throughLamport : Nat) (timestampMs : Int) (draw : AuthorDraw) :
    Prog Store CoreError (Option AuthoredReceipt) := do
  let gate ← inspect (·.guardLinkGate .author)
  gate
  refuseWhen (receiptType ≠ receiptTypeDelivered ∧ receiptType ≠ receiptTypeRead)
    (CoreError.malformed "invalid receipt type")
  validateSqliteU64 "receipt watermark" throughLamport
  transaction do
    let s ← get
    if s.receiptSent contact.userId ackedSenderUserId receiptType throughLamport then pure none
    else do
      let envelope ← sealReceipt P identity contact ackedSenderUserId receiptType throughLamport
        timestampMs draw
      set (s.withReceipt envelope timestampMs)
      pure (some { envelope, frame := frameReceipt envelope })

end Receipt
end CruiseMesh
