import CruiseMesh.Carry.Offer

/-!
# The digest spray

`core_digest_spray_plan`: everything a device offers a peer that has just told what it
holds. There are three lanes: mail carried for others, this device's own pending mail to
its other contacts, and the receipts it owes them. Each lane has a byte budget. A kind
the peer does not show on its watermark is offered once in a session.
-/

namespace CruiseMesh
open Wire Durable Prog

def frameTypeEnvelope : UInt8 := 2

/-- `HIDDEN_SPRAY_KINDS`: friend request, profile sync, friend directory, introduced friend
request, relay update and roster gossip. -/
def hiddenSprayKinds : List UInt8 := [3, 5, 6, 7, 9, 21]

/-- `core_is_hidden_spray_kind`. -/
def coreIsHiddenSprayKind (kind : UInt8) : Bool := kind ∈ hiddenSprayKinds

/-! ## Frames -/

/-- `encode_envelope_frame`. -/
def encodeEnvelopeFrame (msgId : Bytes) (hopTtl : UInt8) (expiry : Int) (recipientHint body : Bytes) :
    Bytes :=
  [frameTypeEnvelope] ++ msgId ++ [hopTtl] ++ intBytes 8 expiry ++ recipientHint ++ body

/-- `frame_carried`. -/
def frameCarried (envelope : CarriedEnvelope) : Bytes :=
  encodeEnvelopeFrame envelope.msgId envelope.hopTtl envelope.expiry envelope.recipientHint
    envelope.body

/-- `frame_outbound`. -/
def frameOutbound (envelope : OutboundEnvelope) : Bytes :=
  encodeEnvelopeFrame envelope.msgId envelope.hopTtl envelope.expiry envelope.recipientHint
    envelope.body

/-- `frame_receipt`. -/
def frameReceipt (envelope : OutgoingReceiptEnvelope) : Bytes :=
  encodeEnvelopeFrame envelope.msgId envelope.hopTtl envelope.expiry envelope.recipientHint
    envelope.body

/-! ## Lanes -/

/-- `fnv1a64`. -/
def fnv1a64 (bytes : Bytes) : UInt64 :=
  bytes.foldl (fun hash byte => (hash ^^^ UInt64.ofNat byte.toNat) * 0x00000100000001b3)
    0xcbf29ce484222325

/-- `spray_set_digest`: the same for the same ids in any order. -/
def spraySetDigest (msgIds : List Bytes) : UInt64 :=
  let hashes := msgIds.map fnv1a64
  let sum := hashes.foldl (· + ·) 0
  let xor := hashes.foldl (· ^^^ ·) 0
  let count := UInt64.ofNat msgIds.length
  fnv1a64 (leBytes 8 sum.toNat ++ leBytes 8 xor.toNat ++ leBytes 8 count.toNat)

structure CoreSprayLanePlan where
  setDigest : UInt64
  bytes : Nat
deriving DecidableEq

structure CoreSprayPlanShape where
  carried : CoreSprayLanePlan
  ownOutbound : CoreSprayLanePlan
  ownReceipts : CoreSprayLanePlan
deriving DecidableEq

/-- `lane_plan`, of the ids and the sealed bytes of a lane's rows. -/
def lanePlan (rows : List (Bytes × Bytes)) : CoreSprayLanePlan where
  setDigest := spraySetDigest (rows.map (·.1))
  bytes := rows.foldl (fun bytes row => saturatingAdd bytes row.2.length) 0

structure CoreDigestSprayPlan where
  carriedFrames : List Bytes
  ownOutboundFrames : List Bytes
  ownReceiptFrames : List Bytes
  offeredHiddenMsgIds : List Bytes
  nextCarriedCursor : Option CoreCarriedCursor
  carriedExhausted : Bool
  lanes : CoreSprayPlanShape
  planBytes : Nat
deriving DecidableEq

/-- Every frame of a plan. -/
def CoreDigestSprayPlan.frames (plan : CoreDigestSprayPlan) : List Bytes :=
  plan.carriedFrames ++ plan.ownOutboundFrames ++ plan.ownReceiptFrames

/-! ## Selection under a budget -/

/-- Take rows in order, passing over those that are not wanted, until the next one would
not fit. -/
def takeWithin {α : Type} (unwanted : α → Bool) (size : α → Nat) (budgetBytes : Nat) :
    List α → Nat → List α
  | [], _ => []
  | row :: rest, used =>
    if unwanted row then takeWithin unwanted size budgetBytes rest used
    else if budgetBytes < saturatingAdd used (size row) then []
    else row :: takeWithin unwanted size budgetBytes rest (used + size row)

/-- `select_own_outbound`, over the recipients' backlogs one after the other. -/
def selectOwnOutbound (pendingByRecipient : List (List OutboundEnvelope))
    (peerKnownMsgIds : List Bytes) (nowMs : Int) (budgetBytes : Nat) : List OutboundEnvelope :=
  takeWithin (fun envelope => envelope.expiry ≤ nowMs ∨ envelope.msgId ∈ peerKnownMsgIds)
    (·.body.length) budgetBytes pendingByRecipient.flatten 0

/-- `select_own_receipts`. -/
def selectOwnReceipts (pending : List OutgoingReceiptEnvelope) (peerUserId : Bytes)
    (peerKnownMsgIds : List Bytes) (nowMs : Int) (budgetBytes : Nat) :
    List OutgoingReceiptEnvelope :=
  takeWithin (fun envelope => envelope.recipientUserId = peerUserId ∨ envelope.expiry ≤ nowMs ∨
      envelope.msgId ∈ peerKnownMsgIds)
    (·.body.length) budgetBytes pending 0

/-- The loop of `outbound_envelopes_after_budgeted`: what fits, and whether something did
not. -/
def takeBudgeted (budgetBytes : Nat) :
    List OutboundEnvelope → Nat → List OutboundEnvelope × Bool
  | [], _ => ([], false)
  | envelope :: rest, used =>
    if budgetBytes < saturatingAdd used envelope.body.length then ([], true)
    else
      let (selected, exhausted) := takeBudgeted budgetBytes rest (used + envelope.body.length)
      (envelope :: selected, exhausted)

namespace Store

/-- `receipt_through`. -/
def receiptThrough (s : Store) (chatId senderUserId : Bytes) (receiptType : UInt8) : Nat :=
  ((s.receipts.find? fun row => row.chatId = chatId ∧ row.senderUserId = senderUserId ∧
    row.receiptType = receiptType).map (·.throughLamport)).getD 0

/-- `outbound_envelopes_after_budgeted`. -/
def outboundEnvelopesAfterBudgeted (s : Store) (chatId senderUserId : Bytes) (afterLamport : Nat)
    (knownMsgIds : List Bytes) (nowMs : Int) (budgetBytes : Nat) : List OutboundEnvelope × Bool :=
  let rows := s.outboundEnvelopes.filter fun row => row.chatId = chatId ∧
    row.senderUserId = senderUserId ∧ asI64 afterLamport < asI64 row.lamport ∧
    nowMs < row.expiry ∧ row.msgId ∉ knownMsgIds
  takeBudgeted budgetBytes
    ((rows.insertionSort fun a b => asI64 a.lamport ≤ asI64 b.lamport).map (·.toOutboundEnvelope)) 0

/-- A receipt's place among those for the same recipient. -/
def recipientRank (rows : List OutgoingReceiptEnvelopeRow) (row : OutgoingReceiptEnvelopeRow) :
    Nat :=
  rows.countP fun other => other.recipientUserId = row.recipientUserId ∧
    (other.queuedAt < row.queuedAt ∨ other.queuedAt = row.queuedAt ∧ other.msgId ≤ row.msgId)

/-- `LIMIT ?`, where a negative limit is none. -/
def limitRows {α : Type} (limit : Nat) (rows : List α) : List α :=
  if asI64 limit < 0 then rows else rows.take (asI64 limit).toNat

/-- `pending_relay_outgoing_receipt_envelopes`: the recipients in turn. -/
def pendingRelayOutgoingReceiptEnvelopes (s : Store) (limit : Nat) (nowMs : Int)
    (skipRecipientUserIds : List Bytes) : List OutgoingReceiptEnvelope :=
  let rows := s.outgoingReceiptEnvelopes.filter fun row => row.relayPostedAt = none ∧
    nowMs < row.expiry ∧ row.recipientUserId ∉ skipRecipientUserIds
  let turn (row : OutgoingReceiptEnvelopeRow) := recipientRank rows row
  (limitRows limit (rows.insertionSort fun a b => turn a < turn b ∨ turn a = turn b ∧
    (a.queuedAt < b.queuedAt ∨ a.queuedAt = b.queuedAt ∧ a.msgId ≤ b.msgId))).map
      (·.toOutgoingReceiptEnvelope)

end Store

/-! ## The plan -/

/-- What the caller knows of the peer, the budgets and the clock. -/
structure SprayRequest where
  ownUserId : Bytes
  peerUserId : Bytes
  peerHints : List Bytes
  peerKnownMsgIds : List Bytes
  nowMs : Int
  carriedBudgetBytes : Nat
  ownOutboundBudgetBytes : Nat
  ownReceiptBudgetBytes : Nat
  receiptQueryLimit : Nat
  peerAcksHiddenKinds : List UInt8
  hiddenAlreadyOffered : List Bytes
  carriedCursor : Option CoreCarriedCursor
deriving DecidableEq

/-- Toward this peer the kind is bounded to one offer in a session. -/
def SprayRequest.bounds (request : SprayRequest) (kind : UInt8) : Bool :=
  kind ∉ request.peerAcksHiddenKinds ∧ coreIsHiddenSprayKind kind = true

/-- The contacts' backlogs while the shared budget lasts, and the bounded ids among them. -/
def gatherOutbound (s : Store) (request : SprayRequest) :
    List Bytes → Nat → List (List OutboundEnvelope) × List Bytes
  | [], _ => ([], [])
  | contactId :: rest, remaining =>
    if contactId = request.peerUserId then gatherOutbound s request rest remaining
    else
      let (fetched, exhausted) := s.outboundEnvelopesAfterBudgeted contactId request.ownUserId
        (s.receiptThrough contactId request.ownUserId receiptTypeDelivered)
        request.peerKnownMsgIds request.nowMs remaining
      let pending := fetched.filter fun envelope =>
        request.bounds envelope.kind = false ∨ envelope.msgId ∉ request.hiddenAlreadyOffered
      let offered := (pending.filter fun envelope => request.bounds envelope.kind).map (·.msgId)
      if exhausted then ([pending], offered)
      else
        let (later, laterOffered) := gatherOutbound s request rest
          (remaining - (pending.map (·.body.length)).sum)
        (pending :: later, offered ++ laterOffered)

/-- The plan of a device that has nothing to offer. -/
def CoreDigestSprayPlan.silent : CoreDigestSprayPlan where
  carriedFrames := []
  ownOutboundFrames := []
  ownReceiptFrames := []
  offeredHiddenMsgIds := []
  nextCarriedCursor := none
  carriedExhausted := false
  lanes := ⟨lanePlan [], lanePlan [], lanePlan []⟩
  planBytes := 0

/-- The three lanes of a device that may be heard. -/
def Store.sprayPlan (s : Store) (request : SprayRequest) : CoreDigestSprayPlan :=
  let carried := s.carriedEnvelopesForPeerSync request.peerHints request.peerKnownMsgIds
    request.nowMs request.carriedBudgetBytes defaultCarriedPageMaxRows request.carriedCursor
  let (pendingByRecipient, offeredHidden) :=
    gatherOutbound s request s.contactUserIds request.ownOutboundBudgetBytes
  let ownOutbound := selectOwnOutbound pendingByRecipient request.peerKnownMsgIds request.nowMs
    request.ownOutboundBudgetBytes
  let ownReceipts := selectOwnReceipts
    (s.pendingRelayOutgoingReceiptEnvelopes request.receiptQueryLimit request.nowMs [])
    request.peerUserId request.peerKnownMsgIds request.nowMs request.ownReceiptBudgetBytes
  let lanes : CoreSprayPlanShape :=
    { carried := lanePlan (carried.rows.map fun row => (row.msgId, row.body))
      ownOutbound := lanePlan (ownOutbound.map fun row => (row.msgId, row.body))
      ownReceipts := lanePlan (ownReceipts.map fun row => (row.msgId, row.body)) }
  { carriedFrames := carried.rows.map frameCarried
    ownOutboundFrames := ownOutbound.map frameOutbound
    ownReceiptFrames := ownReceipts.map frameReceipt
    -- what the budget dropped again has not been offered
    offeredHiddenMsgIds := offeredHidden.filter fun id => id ∈ ownOutbound.map (·.msgId)
    nextCarriedCursor := carried.next
    carriedExhausted := carried.exhausted
    lanes
    planBytes := saturatingAdd (saturatingAdd lanes.carried.bytes lanes.ownOutbound.bytes)
      lanes.ownReceipts.bytes }

/-- `core_digest_spray_plan`. -/
def coreDigestSprayPlan (request : SprayRequest) : Prog Store CoreError CoreDigestSprayPlan := do
  let allowed ← inspect fun s => s.linkGateAllows .advertise
  if allowed = false then pure .silent
  else do
    let _ ← pruneExpiredCarried request.nowMs
    inspect fun s => s.sprayPlan request

end CruiseMesh
