import CruiseMesh.Authoring.Calls
import CruiseMesh.Sync.Consume

/-!
# An envelope that arrives

`process_inbound_frame`: an envelope is dropped when it was seen or has expired, taken when this
device can open it, and otherwise carried and flooded on. An envelope that is to be delivered is
handed back with a commit, which the caller makes once the delivery is through; until then the
envelope is not marked as seen, so that the next copy gets another try.

The seen set is in memory: it is passed along. An error leaves it as it was.
-/

namespace CruiseMesh
open Wire Durable Prog List

/-! ## The seen set -/

/-- `SeenIds`: the ids that were handled, the oldest first, up to a capacity. -/
structure SeenIds where
  order : List Bytes
  capacity : Nat
  capacity_pos : 0 < capacity
  nodup : order.Nodup
  bounded : order.length ≤ capacity

namespace SeenIds

/-- An empty set. A capacity of zero is one. -/
def new (capacity : Nat) : SeenIds where
  order := []
  capacity := max capacity 1
  capacity_pos := lt_of_lt_of_le Nat.zero_lt_one (le_max_right _ _)
  nodup := nodup_nil
  bounded := Nat.zero_le _

variable (seen : SeenIds) (msgId : Bytes)

/-- `contains`. -/
def contains : Bool := msgId ∈ seen.order

/-- `insert`, of an id that is not in the set: the oldest go until the others fit. -/
def insert (h : msgId ∉ seen.order) : SeenIds :=
  let order := seen.order ++ [msgId]
  { seen with
    order := order.drop (order.length - seen.capacity)
    nodup := by
      refine List.Nodup.sublist (drop_sublist _ _) ?_
      exact List.Nodup.append seen.nodup (nodup_singleton _)
        (disjoint_singleton.mpr h)
    bounded := by
      rw [length_drop]
      omega }

/-- `record`. -/
def record : SeenIds :=
  if h : msgId ∈ seen.order then seen else seen.insert msgId h

end SeenIds

/-! ## Frames -/

def envelopeFrameOverhead : Nat := 1 + 16 + 1 + 8 + 8
def maxP2pFrameBytes : Nat := envelopeFrameOverhead + maxEnvelopeSealedBytes

/-- `take_remaining`. -/
def takeRemaining : Reader CoreError Bytes := fun c =>
  .ok (c.data.drop c.pos, { c with pos := c.data.length })

def readEnvelope (truncated : Nat → Nat → CoreError) : Reader CoreError CarriedEnvelope := do
  let msgId ← take truncated msgIdLen
  let hopTtl ← takeNat truncated 1
  let expiry ← takeInt truncated 8
  let recipientHint ← take truncated recipientHintLen
  let body ← takeRemaining
  refuseWhen (body = []) (CoreError.malformed "envelope frame missing sealed payload")
  refuseWhen (maxEnvelopeSealedBytes < body.length) (CoreError.malformed
    ("sealed envelope exceeds " ++ toString maxEnvelopeSealedBytes ++ "-byte limit"))
  pure { msgId, hopTtl := UInt8.ofNat hopTtl, expiry, recipientHint, body }

/-- `parse_frame`, as far as it yields an envelope. -/
def parseEnvelopeFrame (bytes : Bytes) : Except CoreError CarriedEnvelope := do
  refuseWhen (maxP2pFrameBytes < bytes.length) (CoreError.malformed
    ("frame exceeds " ++ toString maxP2pFrameBytes ++ "-byte limit"))
  match bytes with
  | [] => .error (.malformed "empty frame: missing frame-type byte")
  | frameType :: rest => do
    refuseWhen (frameType ≠ frameTypeEnvelope) (.malformed "not an envelope frame")
    (readEnvelope (wireTruncated rest.length)).run' ⟨rest, 0⟩

/-- An envelope that is read has a body. -/
theorem body_of_parsed {frame : Bytes} {envelope : CarriedEnvelope}
    (h : parseEnvelopeFrame frame = .ok envelope) : envelope.body ≠ [] := by
  obtain ⟨_, _, h⟩ := bind_eq_ok.mp h
  cases frame with
  | nil => cases h
  | cons frameType rest =>
    obtain ⟨_, _, h⟩ := bind_eq_ok.mp h
    have h : Prod.fst <$> readEnvelope (wireTruncated rest.length) ⟨rest, 0⟩ = .ok envelope := h
    cases hread : readEnvelope (wireTruncated rest.length) ⟨rest, 0⟩ with
    | error e =>
      rw [hread] at h
      cases h
    | ok r =>
      rw [hread] at h
      cases h
      obtain ⟨_, _, _, hread⟩ := reader_bind_eq_ok.mp hread
      obtain ⟨_, _, _, hread⟩ := reader_bind_eq_ok.mp hread
      obtain ⟨_, _, _, hread⟩ := reader_bind_eq_ok.mp hread
      obtain ⟨_, _, _, hread⟩ := reader_bind_eq_ok.mp hread
      obtain ⟨body, _, _, hread⟩ := reader_bind_eq_ok.mp hread
      obtain ⟨_, _, hbody, hread⟩ := reader_bind_eq_ok.mp hread
      obtain ⟨_, _, _, hread⟩ := reader_bind_eq_ok.mp hread
      rw [← (ok_pair_inj hread).1]
      by_cases hempty : body = []
      · rw [refuseWhen_pos hempty] at hbody
        cases hbody
      · exact hempty

/-! ## The gate -/

inductive CoreInboundSource where
  | mesh
  | relay
deriving DecidableEq

inductive CoreInboundGate where
  | seen
  | expired
  | rejected
  | dispatch

/-- `core_inbound_gate`. -/
def coreInboundGate (isNewMsgId : Bool) (hopTtl : UInt8) (expiryMs nowMs : Int) : CoreInboundGate :=
  if isNewMsgId = false then .seen
  else if expiryMs ≤ nowMs then .expired
  else if defaultHopTtl < hopTtl ∨ saturateI64 (nowMs + maxCarryFutureMs) < expiryMs then .rejected
  else .dispatch

/-! ## Who it is for -/

section Open
variable (P : Primitives) (G : GroupCipher)

/-- `open_message`. -/
def openMessage (recipient : Identity) (body : Bytes) : Except CoreError OpenedMessage :=
  openSealedWithAgreeSk P recipient.agreeSk body

/-- `open_group_message`. Whether the signer is a member is for the caller to check. -/
def openGroupMessage (group : Group) (body : Bytes) : Except CoreError OpenedMessage := do
  validateGroup group
  refuseWhen (body.length < 1 + nonceLen) (.crypto "group envelope too short")
  let version := body.headD 0
  refuseWhen (version ≠ groupEnvelopeVersionLegacy ∧ version ≠ groupEnvelopeVersionBound)
    (.crypto ("unsupported group envelope version " ++ toString version.toNat ++
      " (this client opens 1 and 2)"))
  let nonce := (body.drop 1).take nonceLen
  let ciphertext := (body.drop 1).drop nonceLen
  let key ← groupKeyFromBytes group.key
  let padded ← okOr (G.decrypt key nonce ciphertext) (.crypto "group open failed")
  openSignedPayload P padded
    (if version = groupEnvelopeVersionBound then .group group.id else .legacy)

/-- `core_is_own_fanout_hint`. -/
def coreIsOwnFanoutHint (recipientHint ownUserId : Bytes) (nowMs : Int) : Bool :=
  (range (carryHintDayWindowDays + 1).toNat).any fun (daysAgo : Nat) =>
    computeRecipientHint P ownUserId (nowMs - daysAgo * msPerDay) = recipientHint

namespace Store
variable (s : Store)

/-- `list_groups`. -/
def listGroups : List Group := s.groupIds.filterMap s.getGroup

/-- `groups_matching_hint`. -/
def groupsMatchingHint (hint : Bytes) (nowMs : Int) : List Group :=
  s.listGroups.filter fun group => hint ∈ hintsOverWindow P group.id nowMs carryHintDayWindowDays

/-- `hint_matches_known_target`. -/
def hintMatchesKnownTarget (hint : Bytes) (nowMs : Int) : Bool :=
  s.contactUserIds.any (fun userId => hint ∈ hintsOverWindow P userId nowMs carryHintDayWindowDays) ||
    (s.groupsMatchingHint P hint nowMs).head?.isSome

/-- `group_open_candidates`. -/
def groupOpenCandidates (hint ownUserId : Bytes) (nowMs : Int) : List Group :=
  let candidates := s.groupsMatchingHint P hint nowMs
  if coreIsOwnFanoutHint P hint ownUserId nowMs then
    candidates ++ s.listGroups.filter fun group => group.id ∉ candidates.map (·.id)
  else candidates

end Store

/-- The first of the groups whose key opens the envelope. -/
def openForGroup (groups : List Group) (body : Bytes) : Option (Group × OpenedMessage) :=
  groups.findSome? fun group =>
    (openGroupMessage P G group body).toOption.map fun opened => (group, opened)

end Open

/-! ## Evidence of a hidden kind -/

def consumedHiddenMsgIdLimit : Nat := 20000

/-- `core_kind_persists_msg_id_row`. -/
def coreKindPersistsMsgIdRow (kind : UInt8) : Bool :=
  kind ∈ [kindText, kindAttachmentManifest, kindReaction, kindGroupMetadataUpdate]

/-- `insert_consumed_hidden_msg_id`: over the limit those that expire first go. -/
def insertConsumedHiddenMsgId (msgId : Bytes) (expiryMs : Int) : Prog Store CoreError Bool :=
  transaction do
    let s ← get
    let held := Table.lookup ConsumedHiddenRow.msgId msgId s.consumedHiddenMsgIds
    let rows := Table.upsert ConsumedHiddenRow.msgId
      { msgId, expiryMs := max expiryMs ((held.map (·.expiryMs)).getD expiryMs) }
      s.consumedHiddenMsgIds
    let kept := (rows.insertionSort fun a b => b.expiryMs < a.expiryMs ∨
      a.expiryMs = b.expiryMs ∧ a.msgId ≤ b.msgId).take consumedHiddenMsgIdLimit
    let rows := if consumedHiddenMsgIdLimit < rows.length then rows.filter (· ∈ kept) else rows
    set { s with consumedHiddenMsgIds := rows }
    pure (rows.any fun row => row.msgId = msgId)

/-- `core_record_consumed_hidden_msg_id`. -/
def coreRecordConsumedHiddenMsgId (P : Primitives) (msgId : Bytes) (kind : UInt8)
    (recipientHint : Bytes) (expiryMs : Int) (ownUserId : Bytes) (nowMs : Int) :
    Prog Store CoreError Bool := do
  if msgId = [] ∨ recipientHint = [] ∨ ownUserId = [] then pure false
  else if coreKindPersistsMsgIdRow kind then pure false
  else if expiryMs ≤ nowMs then pure false
  else if (← inspect fun s =>
      (s.ownFleetHints P ownUserId nowMs).classify recipientHint != .ownDevice ||
        s.groupsMatchingHint P recipientHint nowMs != []) then pure false
  else insertConsumedHiddenMsgId msgId (min expiryMs (saturateI64 (nowMs + maxCarryFutureMs)))

/-! ## What becomes of it -/

structure CoreInboundWork where
  delivered : Nat := 0
  carried : Nat := 0
  reflooded : Nat := 0
  dropped : Nat := 0
  deduped : Nat := 0
  expired : Nat := 0
  rejected : Nat := 0

structure CoreInboundOutcome where
  disposition : CoreInboundDisposition
  deliveredPayload : Option Bytes := none
  deliveredSender : Option Bytes := none
  deliveredGroupId : Option Bytes := none
  relayFrame : Option Bytes := none
  carried : Bool := false
  carriedFamily : Bool := false
  droppedBlocked : Bool := false
  syncPeerDigest : Option SyncDigest := none
  commit : Option CoreInboundCommit := none
  work : CoreInboundWork

/-- The calls of the store that processing makes. -/
inductive ReceiveCall where
  | userBlocked
  | syncRecord
  | openCandidates
  | knownTarget
  | enqueue
  | hiddenEvidence

/-- Where the database fails: after how many writes of the call, and what it says. -/
abbrev ReceiveFaults : Type := ReceiveCall → Option (Nat × String)

/-- A call of the store, which may fail. -/
def ReceiveFaults.call {σ α : Type} (faults : ReceiveFaults) (site : ReceiveCall)
    (p : Prog σ CoreError α) : Prog σ CoreError α :=
  match faults site with
  | some (writes, detail) => p.failAfter writes (.store detail)
  | none => p

/-- What processing takes from its surroundings: the database's moods, and the clock that the
parts of a sync record read. -/
structure ReceiveSurroundings where
  faults : ReceiveFaults
  clock : Nat → ClockReading

def foreignCarryBudgetBytes : Int := 5 * 1024 * 1024

/-- `reflood_frame`. -/
def refloodFrame (envelope : CarriedEnvelope) : Option Bytes :=
  if 1 < envelope.hopTtl then some (frameCarried { envelope with hopTtl := envelope.hopTtl - 1 })
  else none

/-- The envelope as it is carried: carrying is a hop. -/
def CarriedEnvelope.handedOn (envelope : CarriedEnvelope) : CarriedEnvelope :=
  { envelope with hopTtl := if envelope.hopTtl = 0 then 0 else envelope.hopTtl - 1 }

structure CarryOutcome where
  stored : Bool := false
  family : Bool := false

section Process
variable (P : Primitives) (G : GroupCipher) (readCard : CardReader) (w : ReceiveSurroundings)
  (identity : Identity) (seen : SeenIds) (source : CoreInboundSource) (envelope : CarriedEnvelope)
  (nowMs : Int)

/-- `carry`. -/
def carry : Prog Store CoreError CarryOutcome :=
  match source with
  | .relay => do
    let stored ← w.faults.call .enqueue (enqueueRelayCarriedEnvelope P envelope.handedOn nowMs)
    pure { stored }
  | .mesh => do
    let isFamily ← w.faults.call .knownTarget
      (inspect fun s => s.hintMatchesKnownTarget P envelope.recipientHint nowMs)
    let stored ← w.faults.call .enqueue
      (enqueueCarriedEnvelope P envelope.handedOn isFamily nowMs foreignCarryBudgetBytes)
    pure { stored, family := stored && isFamily }

/-- An envelope that is sealed to this person. -/
def processOpened (opened : OpenedMessage) : Prog Store CoreError (CoreInboundOutcome × SeenIds) := do
  if (← w.faults.call .userBlocked (inspect (·.isUserBlocked opened.senderUserId))) then
    pure ({ disposition := .consumed, droppedBlocked := true, work := { dropped := 1 } },
      seen.record envelope.msgId)
  else
    let consumption ← w.faults.call .syncRecord
      (consumeSyncRecord P readCard opened.senderUserId opened.payload nowMs w.clock)
    match consumption with
    | .refused =>
      pure ({ disposition := .consumed, work := { dropped := 1 } }, seen.record envelope.msgId)
    | .applied kind peerDigest => do
      let _ ← attempt (w.faults.call .hiddenEvidence (coreRecordConsumedHiddenMsgId P
        envelope.msgId kind envelope.recipientHint envelope.expiry identity.userId nowMs))
      pure ({ disposition := .consumed, syncPeerDigest := peerDigest, work := { delivered := 1 } },
        seen.record envelope.msgId)
    | .notASyncRecord =>
      pure ({
        disposition := .consumed
        deliveredPayload := some opened.payload
        deliveredSender := some opened.senderUserId
        commit := some {
          msgId := envelope.msgId
          groupId := none
          hiddenKind := ((decodeExtendedMessageBody opened.payload).toOption).map (·.kind)
          recipientHint := envelope.recipientHint
          expiry := envelope.expiry
          ownUserId := identity.userId
          nowMs }
        work := { delivered := 1 } }, seen)

/-- What is flooded on, and what is carried, of an envelope that may not end here. -/
def handOn : Prog Store CoreError (Option Bytes × CarryOutcome) := do
  let outcome ← carry P w source envelope nowMs
  pure (refloodFrame envelope, outcome)

/-- The same for the envelope of a group: the relay's copy for this member is there for every other
member as well. -/
def handOnForGroup : Prog Store CoreError (Option Bytes × CarryOutcome) :=
  if source = .relay ∧ coreIsOwnFanoutHint P envelope.recipientHint identity.userId nowMs then
    pure (none, {})
  else handOn P w source envelope nowMs

/-- The envelope of a group whose key this device has. -/
def processGroup (group : Group) (opened : OpenedMessage) :
    Prog Store CoreError (CoreInboundOutcome × SeenIds) := do
  let deliver := opened.senderUserId ∈ group.memberUserIds ∧ identity.userId ∈ group.memberUserIds
  let (relayFrame, carried) ← handOnForGroup P w identity source envelope nowMs
  let work : CoreInboundWork :=
    { reflooded := if relayFrame.isSome then 1 else 0, carried := if carried.stored then 1 else 0 }
  if deliver then
    pure ({
      disposition := .consumed
      deliveredPayload := some opened.payload
      deliveredSender := some opened.senderUserId
      deliveredGroupId := some group.id
      relayFrame
      carried := carried.stored
      carriedFamily := carried.family
      commit := some {
        msgId := envelope.msgId
        groupId := some group.id
        hiddenKind := none
        recipientHint := envelope.recipientHint
        expiry := envelope.expiry
        ownUserId := identity.userId
        nowMs }
      work := { work with delivered := 1 } }, seen)
  else
    pure ({ disposition := .consumed, relayFrame, carried := carried.stored
            carriedFamily := carried.family, work := { work with dropped := 1 } },
      seen.record envelope.msgId)

/-- An envelope for somebody else. -/
def processForeign : Prog Store CoreError (CoreInboundOutcome × SeenIds) := do
  let (relayFrame, carried) ← handOn P w source envelope nowMs
  pure ({ disposition := .carried, relayFrame, carried := carried.stored
          carriedFamily := carried.family
          work := { reflooded := if relayFrame.isSome then 1 else 0
                    carried := if carried.stored then 1 else 0 } },
    seen.record envelope.msgId)

/-- An envelope that passed the gate. -/
def dispatchEnvelope : Prog Store CoreError (CoreInboundOutcome × SeenIds) :=
  match openMessage P identity envelope.body with
  | .ok opened => processOpened P readCard w identity seen envelope nowMs opened
  | .error _ => do
    let candidates ← w.faults.call .openCandidates
      (inspect fun s => s.groupOpenCandidates P envelope.recipientHint identity.userId nowMs)
    match openForGroup P G candidates envelope.body with
    | some (group, opened) =>
      processGroup P w identity seen source envelope nowMs group opened
    | none => processForeign P w seen source envelope nowMs

/-- An envelope of any kind. -/
def processEnvelope : Prog Store CoreError (CoreInboundOutcome × SeenIds) :=
  match coreInboundGate (!seen.contains envelope.msgId) envelope.hopTtl envelope.expiry nowMs with
  | .seen => pure ({ disposition := .seen, work := { deduped := 1 } }, seen)
  | .expired =>
    pure ({ disposition := .expired, work := { expired := 1 } }, seen.record envelope.msgId)
  | .rejected =>
    pure ({ disposition := .rejected, work := { rejected := 1 } }, seen.record envelope.msgId)
  | .dispatch => dispatchEnvelope P G readCard w identity seen source envelope nowMs

/-- `process_inbound_frame`. -/
def processInboundFrame (frame : Bytes) : Prog Store CoreError (CoreInboundOutcome × SeenIds) :=
  match parseEnvelopeFrame frame with
  | .error _ => pure ({ disposition := .rejected, work := { rejected := 1 } }, seen)
  | .ok envelope => processEnvelope P G readCard w identity seen source envelope nowMs

/-- `core_commit_inbound_delivery`. -/
def coreCommitInboundDelivery (commit : CoreInboundCommit) : Prog Store CoreError SeenIds := do
  match commit.hiddenKind with
  | some kind => do
    let _ ← attempt (w.faults.call .hiddenEvidence (coreRecordConsumedHiddenMsgId P commit.msgId
      kind commit.recipientHint commit.expiry commit.ownUserId commit.nowMs))
    pure (seen.record commit.msgId)
  | none => pure (seen.record commit.msgId)

end Process
end CruiseMesh
