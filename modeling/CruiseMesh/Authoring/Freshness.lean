import CruiseMesh.Authoring.Rows

/-!
# Authored messages are not dropped

The calls that author, the receipts that arrive, deletions, re-seals and restarts, in any order.
Each of them keeps the queue under the watermarks, and no watermark falls, so that a counter below
the largest `i64` is new in its chat and the message is kept (`authored_messages_are_kept`).

A contact may acknowledge as much as they like, up to the largest `i64`, and the counter after that
is the same one again: the call returns, and the message is in neither table
(`second_text_is_dropped`).
-/

namespace CruiseMesh
open Durable Prog Runs AuthorStore

/-! ## The rest of the store -/

/-- A program over the other tables. -/
def onTables {α : Type} (p : Prog Store CoreError α) : Prog AuthorStore CoreError α :=
  p.zoom toStore fun store s => { s with toStore := store }

/-- Nothing is added to the queue. -/
def Store.Dequeues (s s' : Store) : Prop := s'.outboundEnvelopes ⊆ s.outboundEnvelopes

instance : IsPreorder Store Store.Dequeues where
  refl _ := List.Subset.refl _
  trans _ _ _ hfirst hthen := List.Subset.trans hthen hfirst

theorem dequeues_of_eq {s s' : Store} (h : s'.outboundEnvelopes = s.outboundEnvelopes) :
    s.Dequeues s' := by
  unfold Store.Dequeues
  rw [h]
  exact List.Subset.refl _

theorem within_onTables {α : Type} {p : Prog Store CoreError α} (h : p.Within Store.Dequeues) :
    (onTables p).Within AuthorStore.Advances := by
  intro s
  refine throughout_zoom (refl_of AuthorStore.Advances s) fun store hstore => ?_
  exact advances_of_subset (h s.toStore store hstore) rfl

theorem within_retireReceiptCovered (chatId senderUserId : Bytes) (throughLamport : Nat) :
    (retireReceiptCovered chatId senderUserId throughLamport).Within Store.Dequeues := by
  unfold retireReceiptCovered
  split
  · exact within_pure _
  · exact within_write fun s _ hrow => List.mem_of_mem_filter hrow

theorem within_retireEach : ∀ receipts : List ReceiptRow,
    (retireEach receipts).Within Store.Dequeues
  | [] => within_pure _
  | _ :: rest => within_bind (within_retireReceiptCovered _ _ _) fun _ => within_retireEach rest

/-- Opening the store only takes from the queue, wherever it is interrupted. -/
theorem within_openStore : openStore.Within Store.Dequeues := by
  have hwrite : ∀ f : Store → Store, (∀ s, (f s).outboundEnvelopes = s.outboundEnvelopes) →
      (write f : Prog Store CoreError Unit).Within Store.Dequeues :=
    fun f hf => within_write fun s => dequeues_of_eq (hf s)
  refine within_bind (within_bind (hwrite _ fun _ => rfl) fun _ => hwrite _ fun _ => rfl)
    fun _ => ?_
  refine within_bind (hwrite _ fun _ => rfl) fun _ => ?_
  refine within_bind (hwrite _ fun _ => rfl) fun _ => ?_
  exact within_inspect_bind fun _ => within_retireEach _

variable {receiptType : UInt8} {throughLamport : Nat} {draw : AuthorDraw}
  {timestampMs : Int} {P : Primitives} {identity : Identity}

theorem keeps_ensureReceiptTx {chatId senderUserId : Bytes}
    {build : Nat → Except CoreError OutgoingReceiptEnvelope} :
    Tx.Keeps (ensureReceiptTx chatId senderUserId receiptType throughLamport timestampMs build)
      Store.outboundEnvelopes := by
  intro s sent s' h
  unfold ensureReceiptTx at h
  rw [Tx.get_bind] at h
  generalize Option.filter _ _ = queued at h
  cases queued with
  | some row => rw [← (ok_pair_inj h).2]
  | none =>
    obtain ⟨envelope, mid, _, hset⟩ := Tx.bind_eq_ok.mp h
    rw [← (ok_pair_inj hset).2]
    rfl

/-- After the call its counter is under a watermark, and no watermark has fallen. -/
structure Counted (identity : Identity) (s s' : AuthorStore) (a : AuthoredEnvelope) : Prop where
  advances : s.Advances s'
  marked : s.Recorded → s'.Marked a.message.chatId identity.userId (asI64 a.message.lamport)

/-- The call has used a counter above those of its stream, and what it returns is stored. -/
structure Kept (identity : Identity) (s s' : AuthorStore) (a : AuthoredEnvelope) : Prop where
  sender : a.message.senderUserId = identity.userId
  range : a.message.lamport ≤ 2 ^ 63 - 1
  above : s.Above a.message
  stored : Stored s' a

/-! ## Sealing again -/

section Reseal
variable {P : Primitives} {identity : Identity} {s : AuthorStore}
  {message : StoredMessage} {contact : Contact} {reply : Option Bytes} {draw : AuthorDraw}
  {a : AuthoredEnvelope} {s' : AuthorStore}

theorem advances_stableBackfillMsgId {fresh msgId : Bytes}
    (h : stableBackfillMsgId message fresh s = .ok (msgId, s')) :
    s.Advances s' := by
  unfold stableBackfillMsgId at h
  rw [Tx.get_bind] at h
  generalize Option.filter _ _ = held at h
  cases held with
  | some msgId =>
    rw [← (ok_pair_inj h).2]
    exact refl_of AuthorStore.Advances _
  | none =>
    obtain ⟨_, mid, hwrite, hpure⟩ := Tx.bind_eq_ok.mp h
    rw [← (ok_pair_inj hpure).2, ← (ok_pair_inj hwrite).2]
    exact advances_of_subset (List.Subset.refl _) rfl

/-- What a re-seal does: the envelope is queued already, or it is queued, if at all, under the
watermark of its counter. -/
theorem advances_backfillTx (hchat : message.chatId.length ≤ u16Max)
    (hsender : message.senderUserId.length ≤ u16Max)
    (h : backfillTx P identity contact message reply draw s = .ok (a, s')) :
    s.Advances s' ∧ a.message = message ∧
      (s.Recorded → s'.Marked message.chatId message.senderUserId (asI64 message.lamport)) := by
  unfold backfillTx at h
  rw [Tx.get_bind] at h
  cases hqueued : s.queuedEnvelope message contact.userId with
  | some row =>
    rw [hqueued] at h
    cases h
    obtain ⟨hchatId, hsenderId, _, hlamport, _⟩ :
        row.chatId = message.chatId ∧ row.senderUserId = message.senderUserId ∧
          row.kind = message.kind ∧ row.lamport = message.lamport ∧
          row.recipientUserId = contact.userId := by
      simpa using List.find?_some hqueued
    refine ⟨refl_of AuthorStore.Advances _, rfl, fun hs => ?_⟩
    have hmarked := hs.marked row (List.mem_of_find?_eq_some hqueued)
    rwa [hchatId, hsenderId, hlamport] at hmarked
  | none =>
    rw [hqueued] at h
    obtain ⟨msgId, mid, hstable, h⟩ := Tx.bind_eq_ok.mp h
    obtain ⟨envelope, hbuild, h⟩ := Tx.lift_bind_eq_ok.mp h
    obtain ⟨henvelops, _, _, hrange⟩ := buildPairwiseEnvelope_fields hbuild
    have hsized := sized_of_envelops hchat hsender henvelops hrange
    have hmarked := marked_recordAuthoredWatermark mid message
    have hclimbs : ∀ chatId senderUserId counter, mid.Marked chatId senderUserId counter →
        (mid.recordAuthoredWatermark message).Marked chatId senderUserId counter :=
      fun _ _ _ hmark => hmark.recordAuthoredWatermark message
    have hstable := advances_stableBackfillMsgId hstable
    obtain ⟨_, _, hwrite, h⟩ := Tx.bind_eq_ok.mp h
    obtain ⟨-, rfl⟩ := ok_pair_inj hwrite
    rw [Tx.get_bind] at h
    split at h
    · obtain ⟨_, _, hqueue, h⟩ := Tx.bind_eq_ok.mp h
      obtain ⟨-, rfl⟩ := ok_pair_inj hqueue
      cases h
      obtain ⟨_, hmarks, _, hrows⟩ := rows_queueOutboundRow (mid.recordAuthoredWatermark message)
        envelope message.timestamp
      have hqueued := advances_of_queued (fun _ _ _ hmark => (hclimbs _ _ _ hmark).congr hmarks)
        hrows (henvelops.marked (hmarked.congr hmarks)) hsized
      exact ⟨trans_of AuthorStore.Advances hstable hqueued, rfl, fun _ => hmarked.congr hmarks⟩
    · cases h
      refine ⟨trans_of AuthorStore.Advances hstable ⟨hclimbs, fun hs => ?_⟩, rfl, fun _ => hmarked⟩
      exact ⟨fun row hrow => hclimbs _ _ _ (hs.marked row hrow), hs.keyed, hs.sized⟩

theorem counted_backfill (hme : identity.userId.length ≤ u16Max)
    (hcontact : contact.userId.length ≤ u16Max)
    (h : (backfillPairwiseEnvelope P identity contact message reply draw).Returns s a s') :
    Counted identity s s' a := by
  replace h := returns_inspect_bind.mp h
  obtain ⟨_, _, h⟩ := returns_lift_bind.mp h
  obtain ⟨_, hmatch, h⟩ := returns_lift_bind.mp h
  obtain ⟨_, hchat, hsender⟩ : isPairwiseKind message.kind = true ∧
      message.chatId = contact.userId ∧ message.senderUserId = identity.userId := by
    simpa using refuseWhen_eq_ok.mp hmatch
  obtain ⟨hadvances, hmessage, hmarked⟩ := advances_backfillTx (hchat ▸ hcontact) (hsender ▸ hme)
    (returns_transaction.mp h)
  refine ⟨hadvances, fun hs => ?_⟩
  rw [hmessage, ← hsender]
  exact hmarked hs

end Reseal

/-! ## The calls -/

/-- A call on the store. -/
inductive AuthorCall where
  | message (contact : Contact) (kind : UInt8) (payload : Bytes) (replyToMsgId : Option Bytes)
      (timestampMs : Int) (draw : AuthorDraw)
  | friendRequest (contact : Contact) (friendCardJson : Bytes) (timestampMs : Int)
      (draw : AuthorDraw)
  | groupMessage (group : Group) (kind : UInt8) (payload : Bytes) (replyToMsgId : Option Bytes)
      (timestampMs : Int) (draw : AuthorDraw)
  | groupMetadata (group : Group) (name : Bytes) (memberUserIds : List Bytes) (timestampMs : Int)
      (draw : AuthorDraw) (clock : ClockReading)
  | groupInvites (group : Group) (members : List Contact) (timestampMs : Int)
      (draws : Nat → AuthorDraw)
  | receipt (contact : Contact) (ackedSenderUserId : Bytes) (receiptType : UInt8)
      (throughLamport : Nat) (timestampMs : Int) (draw : AuthorDraw)
  | ensuredReceipt (contact : Contact) (ackedSenderUserId : Bytes) (receiptType : UInt8)
      (throughLamport : Nat) (timestampMs : Int) (draw : AuthorDraw)
  | ensuredGroupReceipt (author : Contact) (groupId : Bytes) (receiptType : UInt8)
      (throughLamport : Nat) (timestampMs : Int) (draw : AuthorDraw)
  | backfill (contact : Contact) (message : StoredMessage) (replyToMsgId : Option Bytes)
      (draw : AuthorDraw)
  | receiptReceived (chatId senderUserId : Bytes) (receiptType : UInt8) (throughLamport : Nat)
  | deleteContact (userId : Bytes) (nowMs : Int) (introduced : Bool)
  | addContact (contact : Contact)
  | importContact (contact : Contact)
  | openStore

namespace AuthorCall

section Run
variable (P : Primitives) (G : GroupCipher) (identity : Identity)

/-- What the call does, and the envelopes it returns. -/
def run : AuthorCall → Prog AuthorStore CoreError (List AuthoredEnvelope)
  | .message contact kind payload reply timestampMs draw => do
    pure [← authorPairwiseMessage P identity contact kind payload reply timestampMs draw]
  | .friendRequest contact card timestampMs draw => do
    pure [← authorFriendRequest P identity contact card timestampMs draw]
  | .groupMessage group kind payload reply timestampMs draw => do
    pure [← authorGroupMessage P G identity group kind payload reply timestampMs draw]
  | .groupMetadata group name members timestampMs draw clock => do
    pure [(← authorGroupMetadataUpdate P G identity group name members timestampMs draw
      clock).authored]
  | .groupInvites group members timestampMs draws =>
    queueGroupInvites P identity group members timestampMs draws
  | .receipt contact acked receiptType through timestampMs draw => do
    let _ ← onTables (authorReceipt P identity contact acked receiptType through timestampMs
      draw)
    pure []
  | .ensuredReceipt contact acked receiptType through timestampMs draw => do
    let _ ← onTables (ensureAuthoredReceipt P identity contact acked receiptType through
      timestampMs draw)
    pure []
  | .ensuredGroupReceipt author groupId receiptType through timestampMs draw => do
    let _ ← onTables (ensureAuthoredGroupReceipt P identity author groupId receiptType through
      timestampMs draw)
    pure []
  | .backfill contact stored reply draw => do
    pure [← backfillPairwiseEnvelope P identity contact stored reply draw]
  | .receiptReceived chatId senderUserId receiptType through => do
    let _ ← onTables (recordReceipt chatId senderUserId receiptType through)
    pure []
  | .deleteContact userId nowMs introduced => do
    let _ ← CruiseMesh.deleteContact userId nowMs introduced
    pure []
  | .addContact contact => do
    onTables (upsertContact contact)
    pure []
  | .importContact contact => do
    let _ ← onTables (upsertImportedContact contact)
    pure []
  | .openStore => do
    onTables CruiseMesh.openStore
    pure []

end Run

/-- The chat that the call authors into. -/
def authorsInto : AuthorCall → Option Bytes
  | .message contact _ _ _ _ _ => some contact.userId
  | .friendRequest contact _ _ _ => some contact.userId
  | .groupMessage group _ _ _ _ _ => some group.id
  | .groupMetadata group _ _ _ _ _ => some group.id
  | .groupInvites group _ _ _ => some group.id
  | _ => none

/-- The ids have lengths that two bytes can hold. -/
def Sized : AuthorCall → Prop
  | .backfill contact _ _ _ => contact.userId.length ≤ u16Max
  | call => ∀ chatId ∈ call.authorsInto, chatId.length ≤ u16Max

instance : DecidablePred Sized
  | .message .. | .friendRequest .. | .groupMessage .. | .groupMetadata .. | .groupInvites .. =>
    inferInstanceAs (Decidable (∀ _ ∈ some _, _))
  | .backfill .. => inferInstanceAs (Decidable (_ ≤ _))
  | .receipt .. | .ensuredReceipt .. | .ensuredGroupReceipt .. | .receiptReceived ..
  | .deleteContact .. | .addContact .. | .importContact .. | .openStore => isTrue nofun

/-- Every envelope gets an id of its own, and nobody is invited twice in one call. -/
def Distinct (s : AuthorStore) : AuthorCall → Prop
  | .message _ _ _ _ _ draw => ∀ row ∈ s.outboundEnvelopes, row.msgId ≠ draw.msgId
  | .friendRequest _ _ _ draw => ∀ row ∈ s.outboundEnvelopes, row.msgId ≠ draw.msgId
  | .groupMessage _ _ _ _ _ draw => ∀ row ∈ s.outboundEnvelopes, row.msgId ≠ draw.msgId
  | .groupMetadata _ _ _ _ draw _ => ∀ row ∈ s.outboundEnvelopes, row.msgId ≠ draw.msgId
  | .groupInvites _ members _ draws => (members.map (·.userId)).Nodup ∧
    (∀ i < members.length, ∀ row ∈ s.outboundEnvelopes, row.msgId ≠ (draws i).msgId) ∧
    ∀ i < members.length, ∀ j < members.length, (draws i).msgId = (draws j).msgId → i = j
  | _ => True

instance (s : AuthorStore) : DecidablePred (Distinct s)
  | .message .. | .friendRequest .. | .groupMessage .. | .groupMetadata .. =>
    inferInstanceAs (Decidable (∀ row ∈ s.outboundEnvelopes, _))
  | .groupInvites .. => inferInstanceAs (Decidable (_ ∧ _))
  | .backfill .. | .receipt .. | .ensuredReceipt .. | .ensuredGroupReceipt .. | .receiptReceived ..
  | .deleteContact .. | .addContact .. | .importContact .. | .openStore => isTrue trivial

/-- The counter of the chat has not reached the largest `i64`. -/
def HasRoom (identity : Identity) (s : AuthorStore) (call : AuthorCall) : Prop :=
  ∀ chatId ∈ call.authorsInto, s.highestCounter chatId identity.userId < i64Max

instance (identity : Identity) (s : AuthorStore) : DecidablePred (HasRoom identity s) :=
  fun call => inferInstanceAs (Decidable (∀ _ ∈ call.authorsInto, _))

end AuthorCall

/-! ## One call -/

section Call
variable {P : Primitives} {G : GroupCipher} {identity : Identity} {s s' : AuthorStore}
  {contact : Contact} {kind : UInt8} {payload : Bytes} {reply : Option Bytes}
  {draw : AuthorDraw} {α : Type} {p : Prog AuthorStore CoreError α} {f : α → AuthoredEnvelope}
  {sent : List AuthoredEnvelope} {Q : AuthoredEnvelope → Prop}
  {timestampMs : Int} {group : Group} {members : List Contact} {draws : Nat → AuthorDraw}

theorem atomic_pairwise :
    (authorPairwiseMessage P identity contact kind payload reply timestampMs draw).Atomic :=
  atomic_inspect_bind fun _ => atomic_lift_bind fun _ => atomic_lift_bind fun _ =>
    atomic_transaction _

theorem atomic_group :
    (authorGroupMessage P G identity group kind payload reply timestampMs draw).Atomic :=
  atomic_inspect_bind fun _ => atomic_lift_bind fun _ => atomic_lift_bind fun _ =>
    atomic_lift_bind fun _ => atomic_transaction _

theorem atomic_metadata {name : Bytes} {members : List Bytes} {clock : ClockReading} :
    (authorGroupMetadataUpdate P G identity group name members timestampMs draw clock).Atomic :=
  atomic_inspect_bind fun _ => atomic_lift_bind fun _ => atomic_lift_bind fun _ =>
    atomic_lift_bind fun _ => atomic_lift_bind fun _ => atomic_lift_bind fun _ =>
      atomic_transaction _

theorem atomic_invites :
    (queueGroupInvites P identity group members timestampMs draws).Atomic :=
  atomic_inspect_bind fun _ => atomic_lift_bind fun _ => atomic_lift_bind fun _ =>
    atomic_transaction _

theorem atomic_backfill {message : StoredMessage} :
    (backfillPairwiseEnvelope P identity contact message reply draw).Atomic :=
  atomic_inspect_bind fun _ => atomic_lift_bind fun _ => atomic_lift_bind fun _ =>
    atomic_transaction _

/-- The loop of a call that invites. -/
theorem returns_invites {invites : List AuthoredEnvelope}
    (h : (queueGroupInvites P identity group members timestampMs draws).Returns s invites s') :
    ∃ invite, inviteMembers P identity
      (s.authoredMessage identity group.id kindGroupInvite invite timestampMs)
      (s.nextAuthoredLamport group.id identity.userId).2 timestampMs draws members 0 s =
        .ok (invites, s') := by
  replace h := returns_inspect_bind.mp h
  obtain ⟨_, _, h⟩ := returns_lift_bind.mp h
  obtain ⟨invite, _, h⟩ := returns_lift_bind.mp h
  replace h := (Tx.get_bind _ _).symm.trans (returns_transaction.mp h)
  exact ⟨invite, h⟩

theorem Commits.counted {chatId msgId : Bytes} {a : AuthoredEnvelope}
    (h : Commits s chatId identity.userId msgId a s') (hchat : chatId.length ≤ u16Max)
    (hme : identity.userId.length ≤ u16Max) : Counted identity s s' a := by
  obtain ⟨hadvances, hmarked⟩ := h.advances hchat hme
  refine ⟨hadvances, fun _ => ?_⟩
  rw [h.chat, asI64_of_lt (by have := h.range; omega)]
  exact hmarked

/-- The calls with one envelope return what they hand to the caller, in a list. -/
theorem returns_single (h : (p >>= fun r => pure [f r]).Returns s sent s') :
    ∃ r, p.Returns s r s' ∧ sent = [f r] := by
  obtain ⟨r, mid, hp, hpure⟩ := returns_bind.mp h
  obtain ⟨rfl, rfl⟩ := returns_pure.mp hpure
  exact ⟨r, hp, rfl⟩

theorem forall_single (hQ : ∀ r, p.Returns s r s' → Q (f r))
    (h : (p >>= fun r => pure [f r]).Returns s sent s') : ∀ a ∈ sent, Q a := by
  obtain ⟨r, hp, rfl⟩ := returns_single h
  intro a ha
  rw [List.mem_singleton.mp ha]
  exact hQ r hp

/-- What a call may do: no watermark falls, wherever it is interrupted, and the counter of every
message it returns is under one. -/
structure Counting (identity : Identity) (p : Prog AuthorStore CoreError (List AuthoredEnvelope)) :
    Prop where
  within : p.Within AuthorStore.Advances
  counted : ∀ s sent s', p.Returns s sent s' → ∀ a ∈ sent, Counted identity s s' a

theorem counting_single (hp : p.Atomic)
    (hcounted : ∀ s r s', p.Returns s r s' → Counted identity s s' (f r)) :
    Counting identity (p >>= fun r => pure [f r]) where
  within := by
    refine (atomic_bind_pure hp).within fun s sent s' h => ?_
    obtain ⟨r, hrun, -⟩ := returns_single h
    exact (hcounted s r s' hrun).advances
  counted s _ s' h := forall_single (fun r hr => hcounted s r s' hr) h

/-- A call that returns no envelope. -/
theorem counting_silent (hp : p.Within AuthorStore.Advances) :
    Counting identity (p >>= fun _ => pure []) where
  within := within_bind hp fun _ => within_pure _
  counted s sent s' h := by
    obtain ⟨_, _, _, hpure⟩ := returns_bind.mp h
    obtain ⟨rfl, -⟩ := returns_pure.mp hpure
    nofun

section Counts
variable (hme : identity.userId.length ≤ u16Max) {group : Group} {members : List Contact}
  {timestampMs : Int} {draws : Nat → AuthorDraw} {invites : List AuthoredEnvelope}
include hme

theorem advances_invites (hchat : group.id.length ≤ u16Max)
    (h : (queueGroupInvites P identity group members timestampMs draws).Returns s invites s') :
    s.Advances s' ∧ ∀ a ∈ invites, Counted identity s s' a := by
  obtain ⟨invite, hloop⟩ := returns_invites h
  obtain ⟨hadvances, hmarked⟩ := advances_inviteMembers hchat hme members hloop
  refine ⟨hadvances, fun a ha => ⟨hadvances, fun _ => ?_⟩⟩
  obtain ⟨hmessage, hrange⟩ := message_inviteMembers members hloop a ha
  rw [hmessage, asI64_of_lt (by omega)]
  exact hmarked a ha

end Counts

variable (hme : identity.userId.length ≤ u16Max) {call : AuthorCall}
include hme

theorem AuthorCall.counting_run (hsized : call.Sized) :
    Counting identity (call.run P G identity) := by
  cases call with
  | message =>
    exact counting_single atomic_pairwise fun _ _ _ h =>
      (commits_pairwise h).counted (hsized _ rfl) hme
  | friendRequest =>
    exact counting_single atomic_pairwise fun _ _ _ h =>
      (commits_pairwise h).counted (hsized _ rfl) hme
  | groupMessage =>
    exact counting_single atomic_group fun _ _ _ h => (commits_group h).counted (hsized _ rfl) hme
  | groupMetadata =>
    exact counting_single atomic_metadata fun _ _ _ h =>
      (commits_metadata h).counted (hsized _ rfl) hme
  | groupInvites =>
    exact ⟨atomic_invites.within fun _ _ _ h => (advances_invites hme (hsized _ rfl) h).1,
      fun _ _ _ h => (advances_invites hme (hsized _ rfl) h).2⟩
  | backfill =>
    exact counting_single atomic_backfill fun _ _ _ h => counted_backfill hme hsized h
  | receipt =>
    exact counting_silent (within_onTables
      ((keeps_authorReceipt fun _ _ _ => rfl).within fun _ _ => dequeues_of_eq))
  | ensuredReceipt =>
    refine counting_silent (within_onTables ?_)
    refine within_inspect_bind fun _ => ?_
    refine within_lift_bind fun _ => ?_
    refine within_lift_bind fun _ => ?_
    refine within_lift_bind fun _ => ?_
    refine within_lift_bind fun _ => within_transaction ?_
    exact keeps_ensureReceiptTx.within fun _ _ => dequeues_of_eq
  | ensuredGroupReceipt =>
    refine counting_silent (within_onTables ?_)
    refine within_lift_bind fun _ => ?_
    refine within_lift_bind fun _ => ?_
    refine within_inspect_bind fun _ => ?_
    refine within_lift_bind fun _ => ?_
    refine within_lift_bind fun _ => ?_
    refine within_lift_bind fun _ => within_transaction ?_
    exact keeps_ensureReceiptTx.within fun _ _ => dequeues_of_eq
  | receiptReceived =>
    refine counting_silent (within_onTables ?_)
    refine within_lift_bind fun _ => within_transaction ?_
    refine Tx.within_bind (Tx.within_modify fun s => dequeues_of_eq rfl) fun _ => ?_
    split
    · refine Tx.within_bind Tx.within_get fun mid => ?_
      exact Tx.within_modify fun s => (within_retireReceiptCovered _ _ _).final s
    · exact Tx.within_pure _
  | deleteContact =>
    refine counting_silent (within_transaction (Tx.within_bind Tx.within_get fun _ =>
      Tx.within_bind (Tx.within_modify fun s => ?_) fun _ => Tx.within_pure _))
    exact advances_of_subset (fun _ hrow => List.mem_of_mem_filter hrow) rfl
  | addContact =>
    exact counting_silent (within_onTables
      ((keeps_upsertContact fun _ _ => rfl).within fun _ _ => dequeues_of_eq))
  | importContact =>
    exact counting_silent (within_onTables
      ((keeps_upsertImportedContact fun _ _ _ => rfl).within fun _ _ => dequeues_of_eq))
  | openStore => exact counting_silent (within_onTables within_openStore)

/-- A call that authors, in a chat whose counter has room, keeps what it returns. -/
theorem AuthorCall.kept_run (hauthors : call.authorsInto.isSome) (hsized : call.Sized)
    (hs : s.Recorded) (hdistinct : call.Distinct s) (hroom : call.HasRoom identity s)
    (h : (call.run P G identity).Returns s sent s') :
    ∀ a ∈ sent, Kept identity s s' a := by
  have hcommits : ∀ {chatId msgId : Bytes} {a : AuthoredEnvelope},
      chatId ∈ call.authorsInto → chatId.length ≤ u16Max →
      (∀ row ∈ s.outboundEnvelopes, row.msgId ≠ msgId) →
      Commits s chatId identity.userId msgId a s' →
      Kept identity s s' a := fun hinto hlength hfresh h =>
    ⟨h.sender, h.range, h.above (hroom _ hinto), h.stored hs hlength hme (hroom _ hinto) hfresh⟩
  cases call with
  | message =>
    exact forall_single (fun _ h => hcommits rfl (hsized _ rfl) hdistinct (commits_pairwise h)) h
  | friendRequest =>
    exact forall_single (fun _ h => hcommits rfl (hsized _ rfl) hdistinct (commits_pairwise h)) h
  | groupMessage =>
    exact forall_single (fun _ h => hcommits rfl (hsized _ rfl) hdistinct (commits_group h)) h
  | groupMetadata =>
    exact forall_single (fun _ h => hcommits rfl (hsized _ rfl) hdistinct (commits_metadata h)) h
  | groupInvites group members timestampMs draws =>
    obtain ⟨hnodup, hfresh, hdraws⟩ := hdistinct
    obtain ⟨invite, hloop⟩ := returns_invites h
    intro a ha
    obtain ⟨hmessage, hrange⟩ := message_inviteMembers members hloop a ha
    have habove : s.Above (s.authoredMessage identity group.id kindGroupInvite invite timestampMs) :=
      above_next (hroom _ rfl) rfl hrange
    have hcan : Invitable (s.authoredMessage identity group.id kindGroupInvite invite timestampMs) draws
        members 0 s := by
      refine ⟨fun k hk row hrow => ?_, fun _ _ envelope henvelops hsized _ row hrow => ?_⟩
      · rw [Nat.zero_add]
        exact hfresh k hk row hrow
      · exact habove.key_free hs henvelops hsized hrow
    refine ⟨hmessage ▸ rfl, hmessage ▸ hrange, hmessage ▸ habove, ?_⟩
    refine (stored_inviteMembers (hsized _ rfl) hme members hnodup ?_ habove.fits hcan hloop).2.2 a ha
    intro i hi j hj hsame
    rw [Nat.zero_add, Nat.zero_add] at hsame
    exact hdraws i hi j hj hsame
  | _ => cases hauthors

end Call

/-! ## Runs -/

/-- A call, and how many of its writes are made before the process ends. A call that makes all of
them has run to its end. -/
structure AuthorEvent where
  call : AuthorCall
  writes : Nat

/-- The store, and the counters that this device has used so far, each with its chat. -/
structure Authoring where
  store : AuthorStore
  used : List (Bytes × Int)

section Runs
variable (P : Primitives) (G : GroupCipher) (identity : Identity)

/-- The envelopes of a call that goes through. -/
def AuthorEvent.sent (event : AuthorEvent) (s : AuthorStore) : List AuthoredEnvelope :=
  match (event.call.run P G identity).result s with
  | .ok sent =>
    if ((event.call.run P G identity).cuts s).length ≤ event.writes + 1 then sent else []
  | .error _ => []

variable (w : Authoring) (event : AuthorEvent)

def Authoring.next : Authoring where
  store := (event.call.run P G identity).survivor event.writes w.store
  used := w.used ++ (event.sent P G identity w.store).map fun a =>
    (a.message.chatId, asI64 a.message.lamport)

/-- The queue is under its watermarks, and so is every counter that was used. -/
structure Authoring.Counts : Prop where
  recorded : w.store.Recorded
  used : ∀ mark ∈ w.used, w.store.Marked mark.1 identity.userId mark.2

/-- What the callers keep to, and the counter below its bound. -/
@[mk_iff]
structure AuthorEvent.InOrder : Prop where
  sized : event.call.Sized
  distinct : event.call.Distinct w.store
  room : event.call.HasRoom identity w.store

instance (w : Authoring) (event : AuthorEvent) : Decidable (event.InOrder identity w) :=
  decidable_of_iff' _ (AuthorEvent.inOrder_iff identity w event)

/-- What a call that authors returns has a counter above those that this device used in the chat,
and is stored. -/
def AuthorEvent.Keeps : Prop :=
  event.call.authorsInto.isSome → ∀ a ∈ event.sent P G identity w.store,
    (∀ mark ∈ w.used, mark.1 = a.message.chatId → mark.2 < a.message.lamport) ∧
      Stored (w.next P G identity event).store a

end Runs

section Kept
variable {P : Primitives} {G : GroupCipher} {identity : Identity} {w : Authoring}
  {event : AuthorEvent}

theorem AuthorEvent.returns_of_sent {a : AuthoredEnvelope}
    (h : a ∈ event.sent P G identity w.store) : ∃ sent, a ∈ sent ∧
      (event.call.run P G identity).Returns w.store sent (w.next P G identity event).store := by
  unfold AuthorEvent.sent at h
  split at h
  · rename_i sent hresult
    split at h
    · rename_i hlength
      exact ⟨sent, h, hresult, (survivor_eq_final hlength).symm⟩
    · cases h
  · cases h

variable (hme : identity.userId.length ≤ u16Max)
include hme

/-- One event keeps the counters under the watermarks. -/
theorem counts_next (hsized : event.call.Sized) (h : w.Counts identity) :
    (w.next P G identity event).Counts identity := by
  have hadvances : w.store.Advances (w.next P G identity event).store :=
    ((AuthorCall.counting_run hme hsized).within w.store).survivor event.writes
  refine ⟨hadvances.recorded h.recorded, fun mark hmark => ?_⟩
  rcases List.mem_append.mp hmark with hold | hnew
  · exact hadvances.marks _ _ _ (h.used mark hold)
  · obtain ⟨a, ha, rfl⟩ := List.mem_map.mp hnew
    obtain ⟨sent, hsent, hreturns⟩ := AuthorEvent.returns_of_sent ha
    have hcounted := (AuthorCall.counting_run hme hsized).counted _ _ _ hreturns a hsent
    dsimp only
    exact hcounted.marked h.recorded

theorem keeps_of_inOrder (horder : event.InOrder identity w) (h : w.Counts identity) :
    event.Keeps P G identity w := by
  intro hauthors a ha
  obtain ⟨sent, hsent, hreturns⟩ := AuthorEvent.returns_of_sent ha
  have hkept := AuthorCall.kept_run hme hauthors horder.sized h.recorded horder.distinct horder.room
    hreturns a hsent
  refine ⟨fun mark hmark hchat => ?_, hkept.stored⟩
  have hused := h.used mark hmark
  rw [hchat, ← hkept.sender] at hused
  have habove := hkept.above.marks _ hused
  rwa [asI64_of_lt (by have := hkept.range; omega)] at habove

end Kept

/-- The device at a moment of the run. -/
def authoringAt (P : Primitives) (G : GroupCipher) (identity : Identity) (s : AuthorStore)
    (events : List AuthorEvent) (n : Nat) : Authoring :=
  stateAt (Authoring.next P G identity) ⟨s, []⟩ events n

/-- **In every run whose calls find room for their counter, each call that authors uses a counter
above those that were used in its chat, and keeps its message and its envelope.** -/
theorem authored_messages_are_kept (P : Primitives) (G : GroupCipher) (identity : Identity)
    (hme : identity.userId.length ≤ u16Max) (s : AuthorStore) (hs : s.Recorded)
    (events : List AuthorEvent)
    (horder : ∀ (k : Nat) (hk : k < events.length),
      events[k].InOrder identity (authoringAt P G identity s events k)) :
    ∀ (k : Nat) (hk : k < events.length),
      events[k].Keeps P G identity (authoringAt P G identity s events k) := by
  have hcounts : ∀ n, (authoringAt P G identity s events n).Counts identity := by
    refine stateAt_invariant_along (Authoring.Counts identity)
      (fun w event => AuthorEvent.InOrder identity w event)
      (fun w event hevent hw => counts_next hme hevent.sized hw) ⟨hs, nofun⟩ ?_
    intro k event hevent
    obtain ⟨hk, rfl⟩ := List.getElem?_eq_some_iff.mp hevent
    exact horder k hk
  intro k hk
  exact keeps_of_inOrder hme (horder k hk) (hcounts k)

section Example
open Sample

/-- A group cipher that changes nothing. -/
def plainCipher : GroupCipher where
  encrypt _ _ plaintext := some plaintext
  decrypt _ _ ciphertext := some ciphertext
  decrypt_encrypt _ _ _ _ h := h.symm

/-- A text to the person number 2, under the message id number `n`. -/
def textTo (n : UInt8) (text : String) : AuthorEvent where
  call := .message { contactNumber 2 with } kindText (ascii text) none 5
    { calm.draw with msgId := List.replicate 16 n }
  writes := 1

/-- They acknowledge what this device has sent, and more. -/
def acknowledged (throughLamport : Nat) : AuthorEvent where
  call := .receiptReceived (userNumber 2) receiver.userId receiptTypeDelivered throughLamport
  writes := 1

/-- A text, a receipt that runs ahead of it, and a text after the contact was deleted. -/
theorem texts_around_deletion_are_kept :
    let events := [textTo 1 "Aft", acknowledged 7,
      ⟨.deleteContact (userNumber 2) 6 false, 1⟩, textTo 2 "Bow"]
    ∀ (k : Nat) (hk : k < events.length), events[k].Keeps primitives plainCipher receiver
      (authoringAt primitives plainCipher receiver {} events k) :=
  authored_messages_are_kept primitives plainCipher receiver (by decide) {} ⟨nofun, nofun, nofun⟩ _
    (by decide +kernel)

/-- After a receipt for the largest `i64` two texts get one counter: the second call returns its
envelope, and neither the message nor the envelope is stored. -/
theorem second_text_is_dropped :
    let events := [acknowledged (2 ^ 63 - 1), textTo 1 "Aft", textTo 2 "Bow"]
    let before := authoringAt primitives plainCipher receiver {} events 2
    let after := authoringAt primitives plainCipher receiver {} events 3
    let sent := (textTo 2 "Bow").sent primitives plainCipher receiver before.store
    sent.map (·.message.payload) = [ascii "Bow"] ∧ ∀ a ∈ sent,
      (a.message.chatId, (a.message.lamport : Int)) ∈ before.used ∧ a.message ∉ after.store.said ∧
        ∀ row ∈ after.store.outboundEnvelopes, row.toOutboundEnvelope ≠ a.envelope := by
  decide +kernel

end Example
end CruiseMesh
