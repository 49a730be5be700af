import CruiseMesh.Mesh.Spray

/-!
# Two nodes meet

`plan_mesh_meet`: what runs each time two nodes of the mesh have found each other. Rows that have
expired go, then those that the peer is proved to have; the peer is offered the mail for itself and
its groups, and then what it may carry for others.

The router, the spray policy and the offer gate are objects of the process. They decide when a
digest is due, where a lane goes on and what it may spend; what they answer is a parameter, and so
are the digest frames, which carry no envelope.
-/

namespace CruiseMesh
open Durable Prog

def carriedSprayBudgetBytes : Nat := 256 * 1024
def receiptQueryLimit : Nat := 256

/-- `CoreMeetRequest`, without what only the objects of the process read. -/
structure CoreMeetRequest where
  ownUserId : Bytes
  peerUserId : Bytes
  peerKnownMsgIds : List Bytes
  peerAuthenticated : Bool
  nowMs : Int

/-- Where a lane goes on, if it does. -/
structure CarriedLane where
  skip : Bool
  after : Option CoreCarriedCursor

/-- What the spray policy allows. -/
structure SprayGate where
  allow : Bool
  carriedBudgetBytes : Nat
  ownOutboundBudgetBytes : Nat
  ownReceiptBudgetBytes : Nat

/-- Which lanes of a plan may go out. -/
structure SprayAdmission where
  sendCarried : Bool
  sendOwnOutbound : Bool
  sendOwnReceipts : Bool

/-- What the objects of the process answer. -/
structure MeetAnswers where
  /-- The digest frames, none when no digest is due. -/
  digest : Store → Except CoreError (List Bytes)
  slotFree : Bool
  targetedLane : CarriedLane
  gate : SprayGate
  lane : CarriedLane
  peerAcksHiddenKinds : List UInt8
  hiddenAlreadyOffered : List Bytes
  admitPlan : CoreSprayPlanShape → SprayAdmission

structure CoreMeetWork where
  targetedSent : Nat := 0
  sprayed : Nat := 0
  confirmedRemoved : Nat := 0
  skippedKnown : Nat := 0
  digestsSent : Nat := 0
  offerDeferred : Bool := false

structure CoreMeetOutcome where
  digestFrames : List Bytes
  targetedFrames : List Bytes
  sprayFrames : List Bytes
  work : CoreMeetWork

section Meet
variable (P : Primitives) (answers : MeetAnswers) (request : CoreMeetRequest)

/-- The page of the targeted drain. -/
def Store.targetedRows (s : Store) (peerHints : List Bytes) : List CarriedEnvelope :=
  if answers.targetedLane.skip then []
  else (s.carriedEnvelopesForHintsPage peerHints request.nowMs carriedSprayBudgetBytes
    defaultCarriedPageMaxRows answers.targetedLane.after).rows

/-- What the plan for a peer that may carry for others is asked for. -/
def sprayRequest (peerHints : List Bytes) : SprayRequest where
  ownUserId := request.ownUserId
  peerUserId := request.peerUserId
  peerHints
  peerKnownMsgIds := request.peerKnownMsgIds
  nowMs := request.nowMs
  carriedBudgetBytes := if answers.lane.skip then 0 else answers.gate.carriedBudgetBytes
  ownOutboundBudgetBytes := answers.gate.ownOutboundBudgetBytes
  ownReceiptBudgetBytes := answers.gate.ownReceiptBudgetBytes
  receiptQueryLimit := receiptQueryLimit
  peerAcksHiddenKinds := answers.peerAcksHiddenKinds
  hiddenAlreadyOffered := answers.hiddenAlreadyOffered
  carriedCursor := answers.lane.after

/-- The frames of the lanes that may go out. -/
def admittedFrames (plan : CoreDigestSprayPlan) : List Bytes :=
  let admission := answers.admitPlan plan.lanes
  (if admission.sendCarried then plan.carriedFrames else []) ++
    (if admission.sendOwnOutbound then plan.ownOutboundFrames else []) ++
    (if admission.sendOwnReceipts then plan.ownReceiptFrames else [])

/-- The spray of a meeting. -/
def sprayFrames (peerHints : List Bytes) : Prog Store CoreError (List Bytes) := do
  if answers.gate.allow then do
    let plan ← coreDigestSprayPlan (sprayRequest answers request peerHints)
    pure (admittedFrames answers plan)
  else pure []

/-- `plan_mesh_meet`. -/
def planMeshMeet : Prog Store CoreError CoreMeetOutcome := do
  let _ ← pruneExpiredCarried request.nowMs
  let confirmedRemoved ← coreConfirmCarriedDeliveries P request.peerUserId request.peerKnownMsgIds
    request.peerAuthenticated request.nowMs
  let peerHints ← inspect (·.deliveryHintsForPeer P request.peerUserId request.nowMs)
  let planned ← inspect answers.digest
  let digestFrames ← planned
  let digestsSent := digestFrames.length
  if answers.slotFree then do
    let page ← inspect (·.targetedRows answers request peerHints)
    let targetedFrames := (page.filter (·.msgId ∉ request.peerKnownMsgIds)).map frameCarried
    let sprayFrames ← sprayFrames answers request peerHints
    pure {
      digestFrames
      targetedFrames
      sprayFrames
      work :=
        { targetedSent := targetedFrames.length
          sprayed := sprayFrames.length
          confirmedRemoved
          skippedKnown := page.countP (·.msgId ∈ request.peerKnownMsgIds)
          digestsSent } }
  else
    -- the offers wait for the next round
    pure {
      digestFrames
      targetedFrames := []
      sprayFrames := []
      work := { digestsSent, confirmedRemoved, offerDeferred := true } }

end Meet
end CruiseMesh
