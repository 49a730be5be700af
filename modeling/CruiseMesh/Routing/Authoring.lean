import CruiseMesh.Routing.Retirement
import CruiseMesh.Sync.BlockList

/-!
# Authoring a message to one contact

`author_pairwise_message`: the counter of the stream, the sealed envelope, the `messages` row
and the queue, in one transaction. The counter is above everything this device has written to
the contact, above both of the contact's receipts, and above a watermark that is kept when the
conversation is deleted.

What the call draws at random (the envelope's id, the ephemeral key and the nonce of the seal)
is a parameter. The diagnostic event of a superseded row is not modelled.
-/

namespace CruiseMesh
open Wire Durable Prog Table

def kindText : UInt8 := 1
def kindFriendRequest : UInt8 := 3
def kindGroupInvite : UInt8 := 4
def kindIntroducedFriendRequest : UInt8 := 7

/-! ## The gate -/

/-- The reason as the refusal prints it. -/
def CoreLinkGateReason.show : CoreLinkGateReason → String
  | .neverLinked => "NeverLinked"
  | .activated => "Activated"
  | .bootstrapPending => "BootstrapPending"
  | .rosterAckPending => "RosterAckPending"
  | .deviceRevoked => "DeviceRevoked"

def CoreLinkGatedAction.show : CoreLinkGatedAction → String
  | .advertise => "appear on the mesh"
  | .author => "send"
  | .ack => "acknowledge mail"

/-- `refusal`. -/
def CoreLinkGateVerdict.refusal (verdict : CoreLinkGateVerdict) : CoreError :=
  if verdict.stage = .revoked then
    .store ("this device was removed from its person's devices and cannot " ++
      verdict.action.show ++ " (" ++ verdict.reason.show ++ ")")
  else
    .store ("this device is still being set up and cannot " ++ verdict.action.show ++
      " yet (" ++ verdict.reason.show ++ ")")

/-- `guard_link_gate`. -/
def Store.guardLinkGate (s : Store) (action : CoreLinkGatedAction) : Except CoreError Unit :=
  refuseWhen (¬ s.linkGateAllows action) (s.linkGate action).refusal

/-! ## Bodies -/

structure MessageBody where
  kind : UInt8
  chatId : Bytes
  lamport : Nat
  timestamp : Int
  content : Bytes

/-- `encode_message_body`. -/
def encodeMessageBody (body : MessageBody) : Except CoreError Bytes := do
  validateMessageBodyFields body.kind body.chatId body.lamport body.content
  refuseWhen (u16Max < body.chatId.length) (.malformed "message chat id is too long")
  refuseWhen (2 ^ 32 - 1 < body.content.length) (.malformed "message content is too long")
  pure ([body.kind] ++ beBytes 2 body.chatId.length ++ body.chatId ++ beBytes 8 body.lamport ++
    intBytes 8 body.timestamp ++ beBytes 4 body.content.length ++ body.content)

/-- `push_extension`, where there is a value. -/
def pushExtension (extensionType : Nat) (value : Option Bytes) (expectedLen : Nat)
    (field : String) : Except CoreError Bytes :=
  match value with
  | none => pure []
  | some value => do
    refuseWhen (value.length ≠ expectedLen)
      (.malformed (field ++ " must be exactly " ++ toString expectedLen ++ " bytes"))
    pure (beBytes 1 extensionType ++ beBytes 2 expectedLen ++ value)

/-- `encode_message_body_extended`; without extensions it is `encode_message_body`. -/
def encodeMessageBodyExtended (body : MessageBody)
    (replyToMsgId senderDeviceId senderRosterHead : Option Bytes) : Except CoreError Bytes := do
  let out ← encodeMessageBody body
  let reply ← pushExtension messageExtensionReplyToMsgId replyToMsgId msgIdLen "reply_to_msg_id"
  let device ← pushExtension messageExtensionSenderDeviceId senderDeviceId deviceIdLen
    "sender_device_id"
  let head ← pushExtension messageExtensionSenderRosterHead senderRosterHead rosterHeadHashLen
    "sender_roster_head"
  pure (out ++ reply ++ device ++ head)

/-- `wire_device_id`: the legacy stream is not named on the wire. -/
def wireDeviceId (senderDeviceId : Bytes) : Option Bytes :=
  if senderDeviceId ≠ legacyDeviceId then some senderDeviceId else none

/-- `encoded_body`. -/
def encodedBody (message : StoredMessage) (wireChatId : Bytes) (replyToMsgId : Option Bytes) :
    Except CoreError Bytes :=
  encodeMessageBodyExtended
    { kind := message.kind, chatId := wireChatId, lamport := message.lamport
      timestamp := message.timestamp, content := message.payload }
    replyToMsgId (wireDeviceId message.senderDeviceId) none

/-! ## Lifetimes and timestamps -/

def lanEndpointHintExpiryMs : Int := 30 * 60 * 1000

variable (kind : UInt8)

/-- `authored_delivery_lifetime_ms`. -/
def authoredDeliveryLifetimeMs : Int :=
  if kind = kindLanEndpointHint then lanEndpointHintExpiryMs else defaultExpiryMs

/-- `authored_expiry`. -/
def authoredExpiry (routingTimestampMs : Int) : Int :=
  saturateI64 (routingTimestampMs + authoredDeliveryLifetimeMs kind)

def causalOrderMaxSkewMs : Int := 24 * 60 * 60 * 1000

/-- `causal_display_timestamp`. -/
def causalDisplayTimestamp (newestInChatMs : Option Int) (nowMs : Int) : Int :=
  match newestInChatMs with
  | none => nowMs
  | some newest =>
    if newest < nowMs then nowMs
    else if causalOrderMaxSkewMs < saturateI64 (newest - nowMs) then nowMs
    else saturateI64 (newest + 1)

/-- `is_pairwise_kind`. -/
def isPairwiseKind : Bool :=
  kind ∈ [kindText, kindFriendRequest, kindGroupInvite, kindProfileSync, kindFriendDirectory,
    kindIntroducedFriendRequest, kindLanEndpointHint, kindRelayUpdate, kindRosterGossip,
    kindAttachmentManifest, kindReaction]

/-! ## The store -/

/-- `authored_lamport_watermarks`. -/
structure AuthoredLamportRow where
  chatId : Bytes
  senderUserId : Bytes
  highLamport : Nat

def AuthoredLamportRow.stream (row : AuthoredLamportRow) : Bytes × Bytes :=
  (row.chatId, row.senderUserId)

/-- The store with the watermarks of what it has authored. -/
structure AuthorStore extends Store where
  authoredLamportWatermarks : List AuthoredLamportRow := []

/-- `COALESCE(MAX(column), 0)` of a counter column. -/
def maxOrZero (counters : List Nat) : Int := ((counters.map asI64).max?).getD 0

namespace AuthorStore
variable (s : AuthorStore)

/-- The watermark that receipts of a type state. -/
def receiptHigh (chatId senderUserId : Bytes) (receiptType : UInt8) : Int :=
  maxOrZero ((s.receipts.filter fun row =>
    row.subject = (chatId, senderUserId, receiptType)).map (·.throughLamport))

/-- The counter that the next one is above. -/
def highestCounter (chatId senderUserId : Bytes) : Int :=
  let own := maxOrZero ((s.messages.filter fun row =>
    row.chatId = chatId ∧ row.senderUserId = senderUserId).map (·.lamport))
  let authoredHigh := maxOrZero ((s.authoredLamportWatermarks.filter fun row =>
    row.stream = (chatId, senderUserId)).map (·.highLamport))
  max (max (max own (s.receiptHigh chatId senderUserId receiptTypeDelivered))
    (s.receiptHigh chatId senderUserId receiptTypeRead)) authoredHigh

/-- `next_authored_lamport`: the next counter, and the delivered watermark. -/
def nextAuthoredLamport (chatId senderUserId : Bytes) : Nat × Nat :=
  ((saturateI64 (s.highestCounter chatId senderUserId + 1) % 2 ^ 64).toNat,
    (s.receiptHigh chatId senderUserId receiptTypeDelivered % 2 ^ 64).toNat)

/-- `causal_timestamp_for_chat`. -/
def causalTimestampForChat (chatId : Bytes) (nowMs : Int) : Int :=
  causalDisplayTimestamp
    ((s.messages.filter fun row => row.chatId = chatId).map (·.timestamp)).max? nowMs

variable (message : StoredMessage)

/-- `record_authored_watermark`. -/
def recordAuthoredWatermark : AuthorStore :=
  let high := match lookup AuthoredLamportRow.stream (message.chatId, message.senderUserId)
      s.authoredLamportWatermarks with
    | some held => if asI64 held.highLamport < asI64 message.lamport then message.lamport
      else held.highLamport
    | none => message.lamport
  { s with
    authoredLamportWatermarks := upsert AuthoredLamportRow.stream
      { chatId := message.chatId, senderUserId := message.senderUserId, highLamport := high }
      s.authoredLamportWatermarks }

/-- The row of a message this device authored. -/
def messageRow (msgId : Bytes) (replyToMsgId : Option Bytes) : MessageRow where
  id := s.lastMessageId + 1
  chatId := message.chatId
  senderUserId := message.senderUserId
  senderDeviceId := message.senderDeviceId
  lamport := message.lamport
  timestamp := message.timestamp
  kind := message.kind
  payload := message.payload
  msgId := some msgId
  replyToMsgId := replyToMsgId

/-- The `messages` row, unless its place in the stream is taken. -/
def insertMessage (msgId : Bytes) (replyToMsgId : Option Bytes) : AuthorStore :=
  if lookup MessageRow.slot (message.chatId, message.senderUserId, message.senderDeviceId,
      message.lamport) s.messages = none then
    { s with
      messages := s.messages ++ [s.messageRow message msgId replyToMsgId]
      lastMessageId := s.lastMessageId + 1 }
  else s

end AuthorStore

/-- `outbound_message_dedupe_key`. -/
def outboundMessageDedupeKey (envelope : OutboundEnvelope) : Bytes :=
  [1] ++ beBytes 2 envelope.chatId.length ++ envelope.chatId ++
    beBytes 2 envelope.senderUserId.length ++ envelope.senderUserId ++ [envelope.kind] ++
    beBytes 8 envelope.lamport ++ beBytes 2 envelope.recipientUserId.length ++
    envelope.recipientUserId

/-- `queue_outbound_row`: nothing happens when the id or the key is in the queue. -/
def AuthorStore.queueOutboundRow (s : AuthorStore) (envelope : OutboundEnvelope)
    (queuedAtMs : Int) : AuthorStore :=
  let row : OutboundEnvelopeRow :=
    { envelope with dedupeKey := outboundMessageDedupeKey envelope, queuedAt := queuedAtMs }
  if s.outboundEnvelopes.any fun held =>
      held.msgId = row.msgId ∨ held.dedupeKey = row.dedupeKey then s
  else { s with outboundEnvelopes := s.outboundEnvelopes ++ [row] }

/-- `retire_superseded`. -/
def AuthorStore.retireSuperseded (s : AuthorStore) (envelope : OutboundEnvelope) : AuthorStore :=
  if ¬ supersedesQueuedGenerations envelope.kind ∨ envelope.recipientUserId ≠ envelope.chatId then
    s
  else { s with
    outboundEnvelopes := s.outboundEnvelopes.filter fun row => ¬
      (row.recipientUserId = envelope.recipientUserId ∧ row.chatId = envelope.recipientUserId ∧
        row.senderUserId = envelope.senderUserId ∧ row.kind = envelope.kind ∧
        asI64 row.lamport < asI64 envelope.lamport ∧
        ¬ ∃ group ∈ s.groups, group.groupId = envelope.recipientUserId) }

/-! ## Drafts -/

def syncDraftKeyPrefix : Bytes := ascii "chat.draft."

/-- `core_sync_draft_key`: the chat in hexadecimal digits behind the prefix. -/
def coreSyncDraftKey (chatId : Bytes) : Bytes :=
  syncDraftKeyPrefix ++ chatId.flatMap fun byte =>
    ascii (String.ofList [Nat.digitChar (byte.toNat / 16), Nat.digitChar (byte.toNat % 16)])

/-- `clear_chat_draft`. -/
def clearChatDraft (chatId : Bytes) (atMs : Int) : Prog Store CoreError Bool := do
  let key := coreSyncDraftKey chatId
  let stored ← inspect fun s => s.setting key
  match stored with
  | none => pure false
  | some existing =>
    if existing.value = [] then pure false
    else do
      let authorDeviceId ← inspect (·.ownAuthoringDeviceId)
      putSetting
        { key, value := [], epoch := max atMs.toNat (saturatingSucc existing.epoch)
          authorDeviceId }

/-! ## Authoring -/

/-- What one call draws at random. -/
structure AuthorDraw where
  msgId : Bytes
  entropy : SealEntropy

structure AuthoredEnvelope where
  message : StoredMessage
  envelope : OutboundEnvelope
  frame : Bytes
  acknowledgedDelivered : Nat

section Author
variable (P : Primitives) (identity : Identity) (contact : Contact) (message : StoredMessage)

/-- `build_pairwise_envelope`. -/
def buildPairwiseEnvelope
    (replyToMsgId : Option Bytes) (routingTimestampMs : Int) (draw : AuthorDraw) (expiry : Int) :
    Except CoreError OutboundEnvelope := do
  let body ← encodedBody message identity.userId replyToMsgId
  let sealedBody ← sealMessage P identity contact.agreePk body draw.entropy
  pure {
    msgId := draw.msgId
    recipientUserId := contact.userId
    chatId := message.chatId
    senderUserId := message.senderUserId
    kind := message.kind
    lamport := message.lamport
    timestamp := message.timestamp
    hopTtl := defaultHopTtl
    expiry := expiry
    recipientHint := computeRecipientHint P contact.userId routingTimestampMs
    body := sealedBody }

/-- A transaction over the other tables. -/
def txOnStore {α : Type} (p : Prog Store CoreError α) : Tx AuthorStore CoreError α := fun s =>
  (p.result s.toStore).map fun a => (a, { s with toStore := p.final s.toStore })

/-- `insert_authored_rows`. -/
def insertAuthoredRows (envelope : OutboundEnvelope)
    (replyToMsgId : Option Bytes) (queuedAtMs : Int) : Tx AuthorStore CoreError Unit := do
  modify (·.recordAuthoredWatermark message)
  modify (·.insertMessage message envelope.msgId replyToMsgId)
  modify (·.queueOutboundRow envelope queuedAtMs)
  if message.kind = kindText ∨ message.kind = kindAttachmentManifest then
    let _ ← txOnStore (clearChatDraft message.chatId queuedAtMs)
  modify (·.retireSuperseded envelope)

/-- The message a call authors in a state. -/
def AuthorStore.authoredMessage (s : AuthorStore) (identity : Identity) (chatId : Bytes)
    (kind : UInt8) (payload : Bytes) (timestampMs : Int) : StoredMessage where
  chatId := chatId
  senderUserId := identity.userId
  lamport := (s.nextAuthoredLamport chatId identity.userId).1
  timestamp := s.causalTimestampForChat chatId timestampMs
  kind := kind
  payload := payload
  senderDeviceId := s.ownAuthoringDeviceId

/-- `authored`. -/
def authored (envelope : OutboundEnvelope) (acknowledgedDelivered : Nat) : AuthoredEnvelope :=
  { message, envelope, frame := frameOutbound envelope, acknowledgedDelivered }

/-- The transaction of `author_pairwise_message`. -/
def authorPairwiseTx (kind : UInt8) (payload : Bytes)
    (replyToMsgId : Option Bytes) (timestampMs : Int) (draw : AuthorDraw) :
    Tx AuthorStore CoreError AuthoredEnvelope := do
  let s ← get
  let message := s.authoredMessage identity contact.userId kind payload timestampMs
  let envelope ← buildPairwiseEnvelope P identity contact message replyToMsgId timestampMs draw
    (authoredExpiry kind timestampMs)
  insertAuthoredRows message envelope replyToMsgId timestampMs
  pure (authored message envelope (s.nextAuthoredLamport contact.userId identity.userId).2)

/-- `author_pairwise_message`. -/
def authorPairwiseMessage (kind : UInt8)
    (payload : Bytes) (replyToMsgId : Option Bytes) (timestampMs : Int) (draw : AuthorDraw) :
    Prog AuthorStore CoreError AuthoredEnvelope := do
  let gate ← inspect (·.guardLinkGate .author)
  gate
  refuseWhen (¬ isPairwiseKind kind) (CoreError.malformed
    ("unsupported pairwise authored kind " ++ toString kind.toNat))
  transaction
    (authorPairwiseTx P identity contact kind payload replyToMsgId timestampMs draw)

end Author

/-! ## What a call leaves alone -/

section Frames
variable {P : Primitives} {τ : Type}

theorem keeps_clearChatDraft {view : Store → τ}
    (h : ∀ s settings, view { s with syncSettings := settings } = view s) (chatId : Bytes)
    (atMs : Int) : (clearChatDraft chatId atMs).Keeps view := by
  refine keeps_inspect_bind fun stored => ?_
  split
  · exact keeps_pure _
  · split
    · exact keeps_pure _
    · exact keeps_inspect_bind fun _ => keeps_putSetting h _

variable {view : AuthorStore → τ} {chatId : Bytes} {message : StoredMessage}

theorem keeps_txOnStore {α : Type} {p : Prog Store CoreError α}
    (h : ∀ s : AuthorStore, p.Keeps fun store => view { s with toStore := store }) :
    Tx.Keeps (txOnStore p) view := by
  intro s a s' heq
  unfold txOnStore at heq
  cases hres : p.result s.toStore with
  | error e =>
    rw [hres] at heq
    cases heq
  | ok b =>
    rw [hres] at heq
    obtain ⟨-, rfl⟩ := ok_pair_inj heq
    exact (h s).final s.toStore

/-- What a call leaves alone, said of each of its statements. -/
structure AuthorFrame (chatId senderUserId : Bytes) (view : AuthorStore → τ) : Prop where
  watermark : ∀ s message, message.chatId = chatId → message.senderUserId = senderUserId →
    view (s.recordAuthoredWatermark message) = view s
  message : ∀ s message msgId reply, message.chatId = chatId →
    view (s.insertMessage message msgId reply) = view s
  queue : ∀ s rows, view { s with outboundEnvelopes := rows } = view s
  settings : ∀ s settings, view { s with syncSettings := settings } = view s

variable {identity : Identity} {contact : Contact} {kind : UInt8} {payload : Bytes}
  {reply : Option Bytes} {timestampMs : Int} {draw : AuthorDraw}

theorem AuthorFrame.keeps_author (h : AuthorFrame contact.userId identity.userId view) :
    (authorPairwiseMessage P identity contact kind payload reply timestampMs draw).Keeps view := by
  refine keeps_inspect_bind fun gate => ?_
  refine keeps_lift_bind fun _ => ?_
  refine keeps_lift_bind fun _ => ?_
  refine keeps_transaction ?_
  intro s a s' hrun
  replace hrun := (Tx.get_bind _ _).symm.trans hrun
  obtain ⟨envelope, _, hrun⟩ := Tx.lift_bind_eq_ok.mp hrun
  obtain ⟨_, mid, hrows, hrun⟩ := Tx.bind_eq_ok.mp hrun
  obtain ⟨-, rfl⟩ := ok_pair_inj hrun
  have hqueued : ∀ s : AuthorStore, view (s.queueOutboundRow envelope timestampMs) = view s := by
    intro s
    unfold AuthorStore.queueOutboundRow
    dsimp only
    split
    · rfl
    · exact h.queue s _
  have hretired : ∀ s : AuthorStore, view (s.retireSuperseded envelope) = view s := by
    intro s
    unfold AuthorStore.retireSuperseded
    split
    · rfl
    · exact h.queue s _
  refine (?_ : Tx.Keeps (insertAuthoredRows _ envelope reply timestampMs) view) _ _ _ hrows
  refine Tx.keeps_bind (Tx.keeps_modify fun s => h.watermark s _ rfl rfl) fun _ => ?_
  refine Tx.keeps_bind (Tx.keeps_modify fun s => h.message s _ _ reply rfl) fun _ => ?_
  refine Tx.keeps_bind (Tx.keeps_modify hqueued) fun _ => ?_
  split
  · refine Tx.keeps_bind (keeps_txOnStore fun s => ?_) fun _ => ?_
    · exact keeps_clearChatDraft (fun store settings => h.settings { s with toStore := store } _) _ _
    · exact Tx.keeps_modify hretired
  · exact Tx.keeps_modify hretired

/-! The stream of another contact is as it was, so the message authored to them next is the
same. -/

theorem AuthorStore.filter_insertMessage {s : AuthorStore} (hne : message.chatId ≠ chatId)
    (msgId : Bytes) (reply : Option Bytes) (keep : MessageRow → Bool)
    (hkeep : ∀ row, keep row = true → row.chatId = chatId) :
    (s.insertMessage message msgId reply).messages.filter keep = s.messages.filter keep := by
  unfold AuthorStore.insertMessage
  split
  · have hrow : keep (s.messageRow message msgId reply) = false :=
      Bool.eq_false_iff.mpr fun hrow => hne (hkeep _ hrow)
    simp [List.filter_append, hrow]
  · rfl

/-- What the `messages` row leaves alone. -/
theorem AuthorStore.view_insertMessage (view : AuthorStore → τ)
    (h : ∀ s messages lastMessageId, view { s with messages, lastMessageId } = view s)
    (s : AuthorStore) (message : StoredMessage) (msgId : Bytes) (reply : Option Bytes) :
    view (s.insertMessage message msgId reply) = view s := by
  unfold AuthorStore.insertMessage
  split
  · exact h s _ _
  · rfl

variable (identity kind payload timestampMs) in
theorem authorFrame_authoredMessage {other : Contact} (hne : contact.userId ≠ other.userId) :
    AuthorFrame contact.userId identity.userId fun s =>
      s.authoredMessage identity other.userId kind payload timestampMs where
  watermark s message hchat hsender := by
    have hmarks : (s.recordAuthoredWatermark message).authoredLamportWatermarks.filter (fun row =>
        row.stream = (other.userId, identity.userId)) =
        s.authoredLamportWatermarks.filter fun row =>
          row.stream = (other.userId, identity.userId) := by
      refine filter_upsert_of_ne (fun heq => hne ?_) _
      exact hchat.symm.trans (congrArg Prod.fst heq)
    unfold AuthorStore.authoredMessage AuthorStore.nextAuthoredLamport AuthorStore.highestCounter
    rw [hmarks]
    rfl
  message s message msgId reply hchat := by
    have hchat' : message.chatId ≠ other.userId := hchat ▸ hne
    have hown := AuthorStore.filter_insertMessage (s := s) hchat' msgId reply
      (fun row => row.chatId = other.userId ∧ row.senderUserId = identity.userId)
      fun row hrow => (of_decide_eq_true hrow).1
    have hshown := AuthorStore.filter_insertMessage (s := s) hchat' msgId reply
      (fun row => row.chatId = other.userId) fun row hrow => of_decide_eq_true hrow
    have hrest := AuthorStore.view_insertMessage
      (fun s => (s.receipts, s.authoredLamportWatermarks, s.ownFleet)) (fun _ _ _ => rfl) s message
      msgId reply
    simp only [Prod.mk.injEq] at hrest
    unfold AuthorStore.authoredMessage AuthorStore.nextAuthoredLamport AuthorStore.highestCounter
      AuthorStore.receiptHigh AuthorStore.causalTimestampForChat Store.ownAuthoringDeviceId
    rw [hown, hshown, hrest.1, hrest.2.1, hrest.2.2]
  queue _ _ := rfl
  settings _ _ := rfl

end Frames

/-! ## When a call succeeds -/

section Outcome
variable {P : Primitives} {s : AuthorStore} {identity : Identity} {contact : Contact}
  {payload : Bytes} {timestampMs : Int} {draw : AuthorDraw}

/-- A roster document can be sent to the contact: the gate is open, the body encodes, and the
keys have the right width. -/
@[mk_iff]
structure AuthorStore.Sendable (s : AuthorStore) (identity : Identity) (contact : Contact)
    (document : Bytes) (timestampMs : Int) : Prop where
  gate : s.linkGateAllows .author = true
  body : ∃ bytes, encodedBody (s.authoredMessage identity contact.userId kindRosterGossip
    document timestampMs) identity.userId none = .ok bytes
  agreePk : contact.agreePk.length = keyLen
  signSk : identity.signSk.length = keyLen

instance (document : Bytes) : Decidable (s.Sendable identity contact document timestampMs) :=
  decidable_of_iff' _ (AuthorStore.sendable_iff s identity contact document timestampMs)

/-- What a call that succeeds returns. -/
theorem returns_author {kind : UInt8} {reply : Option Bytes} {a : AuthoredEnvelope}
    {s' : AuthorStore}
    (h : (authorPairwiseMessage P identity contact kind payload reply timestampMs draw).Returns
      s a s') :
    a.message = s.authoredMessage identity contact.userId kind payload timestampMs ∧
      a.envelope.expiry = authoredExpiry kind timestampMs := by
  replace h := returns_inspect_bind.mp h
  obtain ⟨_, _, h⟩ := returns_lift_bind.mp h
  obtain ⟨_, _, h⟩ := returns_lift_bind.mp h
  replace h := (Tx.get_bind _ _).symm.trans (returns_transaction.mp h)
  obtain ⟨envelope, _, hbuilt, h⟩ := Tx.bind_eq_ok.mp h
  obtain ⟨_, _, -, h⟩ := Tx.bind_eq_ok.mp h
  obtain ⟨rfl, -⟩ := ok_pair_inj h
  refine ⟨rfl, ?_⟩
  obtain ⟨_, -, hrest⟩ := bind_eq_ok.mp (Tx.lift_eq_ok.mp hbuilt).1
  obtain ⟨_, -, hrest⟩ := bind_eq_ok.mp hrest
  rw [← Except.ok.inj hrest]
  rfl

theorem guardLinkGate_eq_ok {s : Store} {u : Unit} {action : CoreLinkGatedAction} :
    s.guardLinkGate action = .ok u ↔ s.linkGateAllows action = true := by
  unfold Store.guardLinkGate
  rw [refuseWhen_eq_ok, not_not]

variable (P timestampMs draw) in
theorem buildPairwiseEnvelope_ok_iff {message : StoredMessage} {reply : Option Bytes}
    (expiry : Int) :
    (∃ envelope, buildPairwiseEnvelope P identity contact message reply timestampMs draw expiry =
        .ok envelope) ↔
      (∃ bytes, encodedBody message identity.userId reply = .ok bytes) ∧
        contact.agreePk.length = keyLen ∧ identity.signSk.length = keyLen := by
  constructor
  · rintro ⟨envelope, h⟩
    obtain ⟨bytes, hbody, h⟩ := bind_eq_ok.mp h
    obtain ⟨sealedBody, hseal, -⟩ := bind_eq_ok.mp h
    obtain ⟨hagree, hsign, -⟩ := sealMessage_eq_ok.mp hseal
    exact ⟨⟨bytes, hbody⟩, hagree, hsign⟩
  · rintro ⟨⟨bytes, hbody⟩, hagree, hsign⟩
    have hseal : sealMessage P identity contact.agreePk bytes draw.entropy = .ok _ :=
      sealMessage_eq_ok.mpr ⟨hagree, hsign, rfl⟩
    exact ⟨_, bind_eq_ok.mpr ⟨_, hbody, bind_eq_ok.mpr ⟨_, hseal, rfl⟩⟩⟩

/-- A document is authored exactly when it can be sent. -/
theorem author_gossip_ok_iff :
    (∃ a, (authorPairwiseMessage P identity contact kindRosterGossip payload none timestampMs
        draw).result s = .ok a) ↔ s.Sendable identity contact payload timestampMs := by
  constructor
  · rintro ⟨a, h⟩
    have hrun : Prog.Returns _ s a _ := ⟨h, rfl⟩
    replace hrun := returns_inspect_bind.mp hrun
    obtain ⟨_, hallowed, hrun⟩ := returns_lift_bind.mp hrun
    obtain ⟨_, _, hrun⟩ := returns_lift_bind.mp hrun
    replace hrun := (Tx.get_bind _ _).symm.trans (returns_transaction.mp hrun)
    obtain ⟨envelope, _, hbuilt, -⟩ := Tx.bind_eq_ok.mp hrun
    obtain ⟨hbody, hagree, hsign⟩ := (buildPairwiseEnvelope_ok_iff P timestampMs draw _).mp
      ⟨envelope, (Tx.lift_eq_ok.mp hbuilt).1⟩
    exact ⟨guardLinkGate_eq_ok.mp hallowed, hbody, hagree, hsign⟩
  · intro h
    obtain ⟨envelope, hbuilt⟩ := (buildPairwiseEnvelope_ok_iff P timestampMs draw
      (authoredExpiry kindRosterGossip timestampMs)).mpr ⟨h.body, h.agreePk, h.signSk⟩
    obtain ⟨s', hrows⟩ : ∃ s', insertAuthoredRows (s.authoredMessage identity contact.userId
        kindRosterGossip payload timestampMs) envelope none timestampMs s = .ok ((), s') :=
      ⟨_, rfl⟩
    have htx : authorPairwiseTx P identity contact kindRosterGossip payload none timestampMs draw s
        = .ok (_, s') :=
      Tx.bind_eq_ok.mpr ⟨s, s, rfl, Tx.bind_eq_ok.mpr
        ⟨envelope, s, Tx.lift_eq_ok.mpr ⟨hbuilt, rfl⟩, Tx.bind_eq_ok.mpr ⟨(), s', hrows, rfl⟩⟩⟩
    have hopen : s.guardLinkGate .author = .ok () := guardLinkGate_eq_ok.mpr h.gate
    have hrun : (authorPairwiseMessage P identity contact kindRosterGossip payload none timestampMs
        draw).Returns s _ s' :=
      returns_inspect_bind.mpr (returns_bind.mpr ⟨(), s, returns_lift.mpr ⟨hopen, rfl⟩,
          returns_bind.mpr ⟨(), s, returns_lift.mpr ⟨rfl, rfl⟩,
            returns_transaction.mpr htx⟩⟩)
    exact ⟨_, hrun.1⟩

end Outcome
end CruiseMesh
