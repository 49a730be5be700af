import CruiseMesh.Carry.Runs
import CruiseMesh.Lib.Within
import CruiseMesh.Mesh.Receive

/-!
# A node of the mesh

What a device does with a frame: it processes the envelope, delivers what it can open, and commits
the delivery once it is through. Of all this only the carrying touches the carry queue, with one
call.
-/

namespace CruiseMesh
open Durable Prog ReceiveFaults Store

/-- The durable store, and the seen set of the process. -/
structure Node where
  store : InboundStore
  seen : SeenIds

/-- A copy of an envelope comes in: the link it comes by, the clock, and the surroundings of what
it sets off. -/
structure Arrival where
  source : CoreInboundSource
  frame : Bytes
  nowMs : Int
  receiving : ReceiveSurroundings
  delivering : Surroundings
  arrival : MessageArrival
  discovery : CoreDiscoveryPolicyState

/-- What a copy came to. -/
structure Handling where
  outcome : CoreInboundOutcome
  delivery : Option CoreInboundDelivery

/-- The delivery that an outcome asks for. -/
def Arrival.inbound (a : Arrival) (identity : Identity) (outcome : CoreInboundOutcome) :
    Option Inbound :=
  match outcome.deliveredPayload, outcome.deliveredSender, outcome.commit with
  | some payload, some senderUserId, some commit =>
    some { identity, senderUserId, payload, commit, arrival := a.arrival, discovery := a.discovery }
  | _, _, _ => none

section Receive
variable (P : Primitives) (G : GroupCipher) (R : InboundReaders) (identity : Identity)

/-- Processing the frame, on the tables of the store. -/
def Node.process (node : Node) (a : Arrival) :
    Prog InboundStore CoreError (CoreInboundOutcome × SeenIds) :=
  liftStore (processInboundFrame P G R.card a.receiving identity node.seen a.source a.nowMs a.frame)

/-- The delivery of what was opened, and the commit when it went through. -/
def Node.deliver (a : Arrival) (outcome : CoreInboundOutcome) (node : Node) :
    Node × Except CoreError Handling :=
  match a.inbound identity outcome with
  | none => (node, .ok ⟨outcome, none⟩)
  | some m =>
    let delivery := coreDeliverInbound P R a.delivering m
    let store := delivery.final node.store
    match delivery.result node.store with
    | .error e => ({ node with store }, .error e)
    | .ok delivered =>
      let commit := liftStore (coreCommitInboundDelivery P a.receiving node.seen m.commit)
      ({ store := commit.final store, seen := (commit.result store).toOption.getD node.seen },
        .ok ⟨outcome, some delivered⟩)

/-- The node handles a copy. An error leaves the seen set as it was. -/
def Node.receive (node : Node) (a : Arrival) : Node × Except CoreError Handling :=
  let process := node.process P G R identity a
  let store := process.final node.store
  match process.result node.store with
  | .error e => ({ node with store }, .error e)
  | .ok (outcome, seen) => Node.deliver P R identity a outcome { store, seen }

end Receive

/-! ## The carry queue -/

section Queue
variable {P : Primitives} {G : GroupCipher} {R : InboundReaders} {identity : Identity}

/-- The call that carries an envelope. -/
def carryCall (source : CoreInboundSource) (envelope : CarriedEnvelope) (isFamily : Bool)
    (nowMs : Int) : Carry.Call :=
  match source with
  | .relay => .enqueueRelay envelope.handedOn nowMs ⟨defaultTotalCarryBudgetBytes, by decide⟩
  | .mesh => .enqueue envelope.handedOn isFamily nowMs ⟨foreignCarryBudgetBytes, by decide⟩
      ⟨defaultTotalCarryBudgetBytes, by decide⟩

/-- The queue is as it was, or as the call that carries an envelope of the frame leaves it. -/
def Queued (P : Primitives) (source : CoreInboundSource) (frame : Bytes) (nowMs : Int)
    (s s' : Store) : Prop :=
  s'.carriedEnvelopes = s.carriedEnvelopes ∨
    ∃ envelope isFamily, parseEnvelopeFrame frame = .ok envelope ∧ s'.carriedEnvelopes =
      ((carryCall source envelope isFamily nowMs).next P s).carriedEnvelopes

theorem once_enqueueValidated (row : CarriedRow) (foreignBudget totalBudget nowMs : Int) :
    (enqueueValidated row foreignBudget totalBudget nowMs).Once :=
  once_lift_bind fun _ => once_bind_lift (once_transaction _)

variable {σ α : Type} {faults : ReceiveFaults} {site : ReceiveCall} {p : Prog σ CoreError α}
  {τ : Type} {view : Store → τ} {readCard : CardReader} {opened : OpenedMessage}

theorem ReceiveFaults.throughout_call {s : σ} {I : σ → Prop} (h : p.Throughout s I) :
    (faults.call site p).Throughout s I := by
  unfold call
  split
  · exact h.failAfter _ _
  · exact h

theorem ReceiveFaults.keeps_call {τ : Type} {view : σ → τ} (h : p.Keeps view) :
    (faults.call site p).Keeps view := fun s => throughout_call (h s)

theorem ReceiveFaults.final_inspect {σ α : Type} {f : σ → α} {s : σ} :
    (faults.call site (inspect f)).final s = s := by
  have hkeeps : (faults.call site (inspect f)).Keeps id :=
    keeps_call (keeps_inspect f)
  exact hkeeps.final s

variable {w : ReceiveSurroundings} {seen : SeenIds} {source : CoreInboundSource}
  {envelope : CarriedEnvelope} {nowMs : Int} {frame : Bytes} {s : Store}

theorem queued_carry (hparse : parseEnvelopeFrame frame = .ok envelope) :
    (carry P w source envelope nowMs).Throughout s (Queued P source frame nowMs s) := by
  cases source with
  | relay =>
    refine throughout_bind (throughout_call ?_) fun _ mid _ hmid =>
      throughout_pure.mpr hmid
    exact (once_enqueueValidated _ _ _ _).throughout (.inl rfl) (.inr ⟨envelope, false, hparse, rfl⟩)
  | mesh =>
    refine throughout_bind (throughout_call (throughout_inspect.mpr
      (.inl rfl))) fun isFamily mid hread _ => ?_
    obtain rfl : s = mid := final_inspect.symm.trans hread.2
    refine throughout_bind (throughout_call ?_) fun _ mid _ hmid =>
      throughout_pure.mpr hmid
    exact (once_enqueueValidated _ _ _ _).throughout (.inl rfl)
      (.inr ⟨envelope, isFamily, hparse, rfl⟩)

theorem queued_handOn (hparse : parseEnvelopeFrame frame = .ok envelope) :
    (handOn P w source envelope nowMs).Throughout s (Queued P source frame nowMs s) :=
  throughout_bind (queued_carry hparse) fun _ _ _ hmid => throughout_pure.mpr hmid

theorem keeps_recordConsumedHidden
    (h : ∀ s rows, view { s with consumedHiddenMsgIds := rows } = view s) {msgId : Bytes}
    {kind : UInt8} {recipientHint : Bytes} {expiryMs : Int} {ownUserId : Bytes} :
    (coreRecordConsumedHiddenMsgId P msgId kind recipientHint expiryMs ownUserId nowMs).Keeps
      view := by
  unfold coreRecordConsumedHiddenMsgId
  split
  · exact keeps_pure _
  split
  · exact keeps_pure _
  split
  · exact keeps_pure _
  refine keeps_inspect_bind fun foreign => ?_
  split
  · exact keeps_pure _
  · refine keeps_transaction fun s kept s' hrun => ?_
    rw [Tx.get_bind] at hrun
    obtain ⟨_, mid, hset, hpure⟩ := Tx.bind_eq_ok.mp hrun
    rw [← (ok_pair_inj hpure).2, ← (ok_pair_inj hset).2]
    exact h s _

theorem mergeFrame_carriedEnvelopes : MergeFrame carriedEnvelopes :=
  ⟨fun _ _ => rfl, fun _ _ _ => rfl, fun _ _ _ => rfl, fun _ _ => rfl, fun _ _ _ => rfl,
    fun _ _ => rfl, fun _ _ => rfl⟩

/-- An envelope for this person is not carried. -/
theorem carried_processOpened :
    (processOpened P readCard w identity seen envelope nowMs opened).Keeps
      carriedEnvelopes := by
  refine keeps_bind (keeps_call (keeps_inspect _)) fun blocked => ?_
  split
  · exact keeps_pure _
  have hsync : ∀ record, (coreApplySyncRecord P readCard record nowMs w.clock).Keeps
      carriedEnvelopes := fun record => keeps_coreApplySyncRecord
    (keeps_mergeRecord mergeFrame_carriedEnvelopes ⟨fun _ _ _ => rfl, fun _ _ _ => rfl⟩)
    fun _ _ _ => rfl
  refine keeps_bind (keeps_call (keeps_consumeSyncRecord hsync)) fun taken => ?_
  cases taken with
  | refused => exact keeps_pure _
  | applied kind digest =>
    exact keeps_bind (keeps_attempt (keeps_call
      (keeps_recordConsumedHidden fun _ _ => rfl))) fun _ => keeps_pure _
  | notASyncRecord => exact keeps_pure _

/-- At every moment of processing, the queue has seen at most the one call. -/
theorem queued_processInboundFrame :
    (processInboundFrame P G readCard w identity seen source nowMs frame).Throughout s
      (Queued P source frame nowMs s) := by
  unfold processInboundFrame
  cases hparse : parseEnvelopeFrame frame with
  | error e => exact throughout_pure.mpr (.inl rfl)
  | ok envelope =>
    show (processEnvelope P G readCard w identity seen source envelope nowMs).Throughout s _
    unfold processEnvelope
    split
    · exact throughout_pure.mpr (.inl rfl)
    · exact throughout_pure.mpr (.inl rfl)
    · exact throughout_pure.mpr (.inl rfl)
    · unfold dispatchEnvelope
      split
      · exact fun s' hs' => .inl (carried_processOpened s s' hs')
      refine throughout_bind (throughout_call (throughout_inspect.mpr
        (.inl rfl))) fun candidates mid hread _ => ?_
      obtain rfl : s = mid := final_inspect.symm.trans hread.2
      cases openForGroup P G candidates envelope.body with
      | some found =>
        refine throughout_bind (I := Queued P source frame nowMs s) ?_ fun handed mid _ hmid => ?_
        · unfold handOnForGroup
          split
          · exact throughout_pure.mpr (.inl rfl)
          · exact queued_handOn hparse
        · dsimp only
          split
          · exact throughout_pure.mpr hmid
          · exact throughout_pure.mpr hmid
      | none =>
        exact throughout_bind (queued_handOn hparse) fun _ _ _ hmid =>
          throughout_pure.mpr hmid

theorem carried_commit {commit : CoreInboundCommit} :
    (coreCommitInboundDelivery P w seen commit).Keeps carriedEnvelopes := by
  unfold coreCommitInboundDelivery
  split
  · exact keeps_bind (keeps_attempt (keeps_call
      (keeps_recordConsumedHidden fun _ _ => rfl))) fun _ => keeps_pure _
  · exact keeps_pure _

theorem armFrame_carried : ArmFrame fun s : InboundStore => s.carriedEnvelopes :=
  ⟨fun _ _ _ => rfl, fun _ _ _ => rfl, fun _ _ _ => rfl, fun _ _ _ => rfl, fun _ _ _ => rfl,
    fun _ _ => rfl, fun _ _ => rfl, fun _ _ => rfl, fun _ _ => rfl⟩

theorem carried_deliver {node : Node} {a : Arrival} {outcome : CoreInboundOutcome} :
    (Node.deliver P R identity a outcome node).1.store.carriedEnvelopes =
      node.store.carriedEnvelopes := by
  unfold Node.deliver
  cases a.inbound identity outcome with
  | none => rfl
  | some m =>
    have hdelivery : ((coreDeliverInbound P R a.delivering m).final node.store).carriedEnvelopes =
        node.store.carriedEnvelopes :=
      view_coreDeliverInbound ⟨fun _ _ _ => rfl, fun _ _ _ => rfl⟩ armFrame_carried
        (fun _ _ _ => rfl) fun _ _ _ => rfl
    dsimp only
    cases (coreDeliverInbound P R a.delivering m).result node.store with
    | error e => exact hdelivery
    | ok delivered =>
      have hcommit : (liftStore (coreCommitInboundDelivery P a.receiving node.seen m.commit)).Keeps
          fun s : InboundStore => s.carriedEnvelopes := keeps_liftStore fun _ => carried_commit
      exact (hcommit.final _).trans hdelivery

variable (P G R identity) in
/-- Whatever becomes of a copy, the queue has seen at most the call that carries it. -/
theorem queued_receive (node : Node) (a : Arrival) :
    Queued P a.source a.frame a.nowMs node.store.toStore
      (node.receive P G R identity a).1.store.toStore := by
  have hprocess : Queued P a.source a.frame a.nowMs node.store.toStore
      ((node.process P G R identity a).final node.store).toStore := by
    unfold Node.process
    rw [final_liftStore]
    exact queued_processInboundFrame.final
  unfold Node.receive
  dsimp only
  cases (node.process P G R identity a).result node.store with
  | error e => exact hprocess
  | ok handled =>
    unfold Queued at hprocess ⊢
    rw [carried_deliver]
    exact hprocess

end Queue
end CruiseMesh
