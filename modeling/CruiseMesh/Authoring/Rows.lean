import CruiseMesh.Authoring.Calls
import CruiseMesh.Lib.Within

/-!
# Numbering and keeping a message

A message is written with `INSERT OR IGNORE`, and so is its envelope. Nothing is ignored as long
as the counter is new: it is one above the messages of the stream, above the receipts, and above
the watermark, which covers every counter this device has used and every envelope in its queue
(`AuthorStore.Recorded`). This module says what one call does, when it returns, to the rows: the
calls with one envelope (`Commits.stored`), and the loop of the invites (`stored_inviteMembers`).
-/

namespace CruiseMesh
open Wire Durable Prog List Table AuthorStore

/-! ## The next counter -/

theorem le_maxOrZero {n : Nat} {counters : List Nat} (h : n ∈ counters) :
    asI64 n ≤ maxOrZero counters := by
  unfold maxOrZero
  cases hmax : (counters.map asI64).max? with
  | none =>
    rw [max?_eq_none_iff, map_eq_nil_iff] at hmax
    rw [hmax] at h
    cases h
  | some highest => exact (max?_eq_some_iff.mp hmax).2 _ (mem_map_of_mem h)

theorem maxOrZero_bounds (counters : List Nat) :
    i64Min ≤ maxOrZero counters ∧ maxOrZero counters ≤ i64Max := by
  unfold maxOrZero
  cases hmax : (counters.map asI64).max? with
  | none =>
    show i64Min ≤ 0 ∧ 0 ≤ i64Max
    unfold i64Min i64Max
    omega
  | some highest =>
    obtain ⟨n, _, rfl⟩ := mem_map.mp (max?_eq_some_iff.mp hmax).1
    rw [Option.getD_some]
    exact asI64_bounds n

namespace AuthorStore

/-- A watermark of the stream is at or above a counter. -/
def Marked (s : AuthorStore) (chatId senderUserId : Bytes) (counter : Int) : Prop :=
  ∃ row ∈ s.authoredLamportWatermarks, row.stream = (chatId, senderUserId) ∧
    counter ≤ asI64 row.highLamport

variable {s : AuthorStore} {chatId senderUserId : Bytes}

variable {counter : Int}

theorem Marked.le_highest (h : s.Marked chatId senderUserId counter) :
    counter ≤ s.highestCounter chatId senderUserId := by
  obtain ⟨row, hrow, hstream, hle⟩ := h
  refine hle.trans ((le_maxOrZero ?_).trans (le_max_right _ _))
  exact mem_map_of_mem (mem_filter.mpr ⟨hrow, decide_eq_true hstream⟩)

theorem lamport_le_highest {row : MessageRow} (hrow : row ∈ s.messages) (hchat : row.chatId = chatId)
    (hsender : row.senderUserId = senderUserId) :
    asI64 row.lamport ≤ s.highestCounter chatId senderUserId := by
  have hmem : row ∈ s.messages.filter fun row =>
      row.chatId = chatId ∧ row.senderUserId = senderUserId :=
    mem_filter.mpr ⟨hrow, decide_eq_true ⟨hchat, hsender⟩⟩
  refine (le_maxOrZero (mem_map_of_mem hmem)).trans ?_
  exact (le_max_left _ _).trans ((le_max_left _ _).trans (le_max_left _ _))

/-- A counter is above every message and every watermark of its stream. -/
structure Above (s : AuthorStore) (message : StoredMessage) : Prop where
  messages : ∀ row ∈ s.messages, row.chatId = message.chatId →
    row.senderUserId = message.senderUserId → asI64 row.lamport < asI64 message.lamport
  marks : ∀ counter, s.Marked message.chatId message.senderUserId counter →
    counter < asI64 message.lamport

variable {message : StoredMessage}

theorem above_next (hroom : s.highestCounter message.chatId message.senderUserId < i64Max)
    (hnext : message.lamport = (s.nextAuthoredLamport message.chatId message.senderUserId).1)
    (hrange : message.lamport ≤ 2 ^ 63 - 1) : s.Above message := by
  have hge : i64Min ≤ s.highestCounter message.chatId message.senderUserId :=
    (maxOrZero_bounds _).1.trans (le_max_right _ _)
  -- below the bound, the counter of a call that went through is one above the highest
  have hsucc : (message.lamport : Int) =
      s.highestCounter message.chatId message.senderUserId + 1 := by
    rw [hnext, nextAuthoredLamport] at hrange ⊢
    generalize s.highestCounter message.chatId message.senderUserId = highest at hroom hrange hge ⊢
    unfold i64Min i64Max at *
    rw [saturateI64_of_mem (by unfold i64Min; omega) (by unfold i64Max; omega)] at hrange ⊢
    omega
  have hlamport : asI64 message.lamport = message.lamport := asI64_of_lt (by omega)
  constructor
  · intro row hrow hchat hsender
    have := lamport_le_highest hrow hchat hsender
    omega
  · intro counter hmarked
    have := hmarked.le_highest
    omega

theorem Above.fits (h : s.Above message) : s.Fits message := by
  intro held hheld
  rw [lookup_said] at hheld
  obtain ⟨row, hrow, rfl⟩ := Option.map_eq_some_iff.mp hheld
  have hslot := key_of_lookup hrow
  obtain ⟨hchat, hsender, hlamport⟩ : row.chatId = message.chatId ∧
      row.senderUserId = message.senderUserId ∧ row.lamport = message.lamport := by
    simp only [MessageRow.slot, StoredMessage.slot, Prod.mk.injEq] at hslot
    exact ⟨hslot.1, hslot.2.1, hslot.2.2.2⟩
  have hbelow := h.messages row (mem_of_lookup hrow) hchat hsender
  rw [hlamport] at hbelow
  exact absurd hbelow (lt_irrefl _)

/-! ## Watermarks -/

/-- What is recorded is at or above the message, and at or above what was there. -/
theorem exists_high (s : AuthorStore) (message : StoredMessage) : ∃ high,
    (s.recordAuthoredWatermark message).authoredLamportWatermarks =
        upsert AuthoredLamportRow.stream ⟨message.chatId, message.senderUserId, high⟩
          s.authoredLamportWatermarks ∧
      asI64 message.lamport ≤ asI64 high ∧
      ∀ held ∈ lookup AuthoredLamportRow.stream (message.chatId, message.senderUserId)
        s.authoredLamportWatermarks, asI64 held.highLamport ≤ asI64 high := by
  refine ⟨_, rfl, ?_⟩
  cases lookup AuthoredLamportRow.stream (message.chatId, message.senderUserId)
      s.authoredLamportWatermarks with
  | none => exact ⟨le_refl _, nofun⟩
  | some held =>
    dsimp only
    by_cases hnew : asI64 held.highLamport < asI64 message.lamport
    · rw [if_pos hnew]
      refine ⟨le_refl _, ?_⟩
      rintro _ ⟨⟩
      exact hnew.le
    · rw [if_neg hnew]
      refine ⟨not_lt.mp hnew, ?_⟩
      rintro _ ⟨⟩
      exact le_refl _

/-- A watermark only climbs. -/
theorem Marked.recordAuthoredWatermark (h : s.Marked chatId senderUserId counter)
    (message : StoredMessage) :
    (s.recordAuthoredWatermark message).Marked chatId senderUserId counter := by
  obtain ⟨row, hrow, hstream, hle⟩ := h
  obtain ⟨high, hmarks, _, hclimbs⟩ := s.exists_high message
  unfold Marked
  rw [hmarks]
  let new : AuthoredLamportRow := ⟨message.chatId, message.senderUserId, high⟩
  have hcases : row ∈ upsert AuthoredLamportRow.stream new s.authoredLamportWatermarks ∨
      lookup AuthoredLamportRow.stream (message.chatId, message.senderUserId)
        s.authoredLamportWatermarks = some row := mem_upsert_of_mem hrow
  rcases hcases with hkept | hlookup
  · exact ⟨row, hkept, hstream, hle⟩
  · exact ⟨new, mem_upsert_self _ _, (key_of_lookup hlookup).symm.trans hstream,
      hle.trans (hclimbs row hlookup)⟩

/-- The watermark is at or above what was recorded. -/
theorem marked_recordAuthoredWatermark (s : AuthorStore) (message : StoredMessage) :
    (s.recordAuthoredWatermark message).Marked message.chatId message.senderUserId
      (asI64 message.lamport) := by
  obtain ⟨high, hmarks, hle, _⟩ := s.exists_high message
  unfold Marked
  rw [hmarks]
  exact ⟨_, mem_upsert_self _ _, rfl, hle⟩

end AuthorStore

/-! ## Keys of the queue -/

/-- The ids of an envelope have lengths that two bytes can hold, and the lamport fits eight. -/
structure OutboundEnvelope.Sized (envelope : OutboundEnvelope) : Prop where
  chatId : envelope.chatId.length ≤ u16Max
  senderUserId : envelope.senderUserId.length ≤ u16Max
  lamport : envelope.lamport < 2 ^ 64

/-- The key names the stream, the lamport and the recipient. -/
theorem dedupeKey_inj {a b : OutboundEnvelope} (ha : a.Sized) (hb : b.Sized)
    (h : outboundMessageDedupeKey a = outboundMessageDedupeKey b) :
    a.chatId = b.chatId ∧ a.senderUserId = b.senderUserId ∧ a.lamport = b.lamport ∧
      a.recipientUserId = b.recipientUserId := by
  unfold outboundMessageDedupeKey at h
  simp only [append_assoc, singleton_append] at h
  obtain ⟨hchat, h⟩ := prefixed_inj (Nat.lt_succ_of_le ha.chatId) (Nat.lt_succ_of_le hb.chatId)
    (List.cons.inj h).2
  obtain ⟨hsender, h⟩ := prefixed_inj (Nat.lt_succ_of_le ha.senderUserId)
    (Nat.lt_succ_of_le hb.senderUserId) h
  obtain ⟨hlamport, h⟩ := append_inj (List.cons.inj h).2 (by simp)
  obtain ⟨_, hrecipient⟩ := append_inj h (by simp)
  have halamport := ha.lamport
  have hblamport := hb.lamport
  exact ⟨hchat, hsender, beBytes_inj (by omega) (by omega) hlamport, hrecipient⟩

namespace AuthorStore

/-- Everything in the queue is under a watermark, and under its own key. -/
structure Recorded (s : AuthorStore) : Prop where
  marked : ∀ row ∈ s.outboundEnvelopes, s.Marked row.chatId row.senderUserId (asI64 row.lamport)
  keyed : ∀ row ∈ s.outboundEnvelopes,
    row.dedupeKey = outboundMessageDedupeKey row.toOutboundEnvelope
  sized : ∀ row ∈ s.outboundEnvelopes, row.toOutboundEnvelope.Sized

/-- The watermarks climb, and the queue stays under them. -/
structure Advances (s s' : AuthorStore) : Prop where
  marks : ∀ chatId senderUserId counter, s.Marked chatId senderUserId counter →
    s'.Marked chatId senderUserId counter
  recorded : s.Recorded → s'.Recorded

instance : IsPreorder AuthorStore Advances where
  refl _ := ⟨fun _ _ _ h => h, fun h => h⟩
  trans _ _ _ hfirst hthen :=
    ⟨fun _ _ _ h => hthen.marks _ _ _ (hfirst.marks _ _ _ h), fun h => hthen.recorded (hfirst.recorded h)⟩

variable {s s' : AuthorStore}

theorem Marked.congr {chatId senderUserId : Bytes} {counter : Int}
    (h : s.Marked chatId senderUserId counter)
    (hmarks : s'.authoredLamportWatermarks = s.authoredLamportWatermarks) :
    s'.Marked chatId senderUserId counter := by
  unfold Marked
  rw [hmarks]
  exact h

/-- A queue that only shrinks stays under its watermarks. -/
theorem advances_of_subset (hqueue : s'.outboundEnvelopes ⊆ s.outboundEnvelopes)
    (hmarks : s'.authoredLamportWatermarks = s.authoredLamportWatermarks) : s.Advances s' := by
  exact ⟨fun _ _ _ h => h.congr hmarks, fun h =>
    { marked := fun row hrow => (h.marked row (hqueue hrow)).congr hmarks
      keyed := fun row hrow => h.keyed row (hqueue hrow)
      sized := fun row hrow => h.sized row (hqueue hrow) }⟩

/-- What a call reads and writes of the store to number a message and keep it. -/
def rows (s : AuthorStore) :
    List MessageRow × List ReceiptRow × List OutboundEnvelopeRow × List AuthoredLamportRow :=
  (s.messages, s.receipts, s.outboundEnvelopes, s.authoredLamportWatermarks)

theorem rows_eq_iff : s'.rows = s.rows ↔ s'.messages = s.messages ∧ s'.receipts = s.receipts ∧
    s'.outboundEnvelopes = s.outboundEnvelopes ∧
    s'.authoredLamportWatermarks = s.authoredLamportWatermarks := by
  simp [rows]

end AuthorStore

/-! ## Writing the rows -/

/-- The row of an envelope as it is queued. -/
def OutboundEnvelope.queued (envelope : OutboundEnvelope) (queuedAtMs : Int) : OutboundEnvelopeRow :=
  { envelope with dedupeKey := outboundMessageDedupeKey envelope, queuedAt := queuedAtMs }

section Insert
variable {s s' : AuthorStore} {message : StoredMessage} {envelope : OutboundEnvelope}
  {reply : Option Bytes} {queuedAtMs : Int} {u : Unit}

/-- The draft does not matter: the rows are written, and what they supersede goes. -/
theorem insertAuthoredRows_eq (h : insertAuthoredRows message envelope reply queuedAtMs s =
    .ok (u, s')) : ∃ mid : AuthorStore, s' = mid.retireSuperseded envelope ∧
      mid.rows = (((s.recordAuthoredWatermark message).insertMessage message envelope.msgId
        reply).queueOutboundRow envelope queuedAtMs).rows := by
  unfold insertAuthoredRows at h
  rw [Tx.bind_apply_ok (Tx.modify_apply _ _), Tx.bind_apply_ok (Tx.modify_apply _ _),
    Tx.bind_apply_ok (Tx.modify_apply _ _)] at h
  split at h
  · obtain ⟨_, mid, hdraft, h⟩ := Tx.bind_eq_ok.mp h
    have hkeeps : Tx.Keeps (txOnStore (clearChatDraft message.chatId queuedAtMs)) rows :=
      keeps_txOnStore fun s => keeps_clearChatDraft (fun _ _ => rfl) _ _
    exact ⟨mid, (ok_pair_inj h).2.symm, hkeeps _ _ _ hdraft⟩
  · exact ⟨_, (ok_pair_inj h).2.symm, rfl⟩

theorem rows_retireSuperseded (s : AuthorStore) (envelope : OutboundEnvelope) :
    (s.retireSuperseded envelope).messages = s.messages ∧
      (s.retireSuperseded envelope).authoredLamportWatermarks = s.authoredLamportWatermarks ∧
      (s.retireSuperseded envelope).outboundEnvelopes ⊆ s.outboundEnvelopes ∧
      ∀ row ∈ s.outboundEnvelopes, ¬ asI64 row.lamport < asI64 envelope.lamport →
        row ∈ (s.retireSuperseded envelope).outboundEnvelopes := by
  unfold retireSuperseded
  split
  · exact ⟨rfl, rfl, List.Subset.refl _, fun _ hrow _ => hrow⟩
  · refine ⟨rfl, rfl, fun _ hrow => mem_of_mem_filter hrow, fun row hrow hnot => ?_⟩
    exact mem_filter.mpr ⟨hrow, decide_eq_true fun h => hnot h.2.2.2.2.1⟩

theorem rows_queueOutboundRow (s : AuthorStore) (envelope : OutboundEnvelope) (queuedAtMs : Int) :
    (s.queueOutboundRow envelope queuedAtMs).messages = s.messages ∧
      (s.queueOutboundRow envelope queuedAtMs).authoredLamportWatermarks =
        s.authoredLamportWatermarks ∧
      s.outboundEnvelopes ⊆ (s.queueOutboundRow envelope queuedAtMs).outboundEnvelopes ∧
      ∀ row ∈ (s.queueOutboundRow envelope queuedAtMs).outboundEnvelopes,
        row ∈ s.outboundEnvelopes ∨ row = envelope.queued queuedAtMs := by
  unfold queueOutboundRow
  dsimp only
  split
  · exact ⟨rfl, rfl, List.Subset.refl _, fun row hrow => .inl hrow⟩
  · refine ⟨rfl, rfl, subset_append_left _ _, fun row hrow => ?_⟩
    exact (mem_append.mp hrow).imp_right mem_singleton.mp

/-- What the table says after a message was put into its slot. -/
theorem said_insertMessage (s : AuthorStore) (message : StoredMessage) (msgId : Bytes)
    (reply : Option Bytes) : (s.insertMessage message msgId reply).said =
      if lookup StoredMessage.slot message.slot s.said = none then s.said ++ [message]
      else s.said := by
  have hiff : lookup StoredMessage.slot message.slot s.said = none ↔
      lookup MessageRow.slot (message.chatId, message.senderUserId, message.senderDeviceId,
        message.lamport) s.messages = none := by
    rw [lookup_said, Option.map_eq_none_iff]
    rfl
  unfold insertMessage
  by_cases hfree : lookup StoredMessage.slot message.slot s.said = none
  · rw [if_pos (hiff.mp hfree), if_pos hfree]
    exact map_append
  · rw [if_neg (mt hiff.mpr hfree), if_neg hfree]

/-- A message that fits its slot is in it, and fits it still. -/
theorem said_of_fits {said : List StoredMessage} (hfits : ∀ held ∈ lookup StoredMessage.slot
    message.slot s.said, held = message)
    (hsaid : said = if lookup StoredMessage.slot message.slot s.said = none then
      s.said ++ [message] else s.said) :
    message ∈ said ∧ ∀ held ∈ lookup StoredMessage.slot message.slot said, held = message := by
  by_cases hfree : lookup StoredMessage.slot message.slot s.said = none
  · rw [if_pos hfree] at hsaid
    rw [hsaid]
    refine ⟨mem_append_right _ (mem_singleton.mpr rfl), ?_⟩
    intro held hheld
    have hmem := mem_of_lookup hheld
    rcases mem_append.mp hmem with hold | hnew
    · exact absurd (key_of_lookup hheld) (lookup_eq_none.mp hfree held hold)
    · exact mem_singleton.mp hnew
  · rw [if_neg hfree] at hsaid
    rw [hsaid]
    obtain ⟨held, hheld⟩ := Option.ne_none_iff_exists'.mp hfree
    obtain rfl := hfits held hheld
    exact ⟨mem_of_lookup hheld, hfits⟩

/-- What writing the rows of a message does: the message is put into its slot, its counter under
the watermark and its envelope into the queue, where what is not older stays. -/
structure Written (s : AuthorStore) (message : StoredMessage) (envelope : OutboundEnvelope)
    (queuedAtMs : Int) (s' : AuthorStore) : Prop where
  said : s'.said = if lookup StoredMessage.slot message.slot s.said = none then
    s.said ++ [message] else s.said
  marks : s'.authoredLamportWatermarks =
    (s.recordAuthoredWatermark message).authoredLamportWatermarks
  queue : ∀ row ∈ s'.outboundEnvelopes, row ∈ s.outboundEnvelopes ∨ row = envelope.queued queuedAtMs
  stays : ∀ row ∈ s.outboundEnvelopes, ¬ asI64 row.lamport < asI64 envelope.lamport →
    row ∈ s'.outboundEnvelopes
  queued : (∀ row ∈ s.outboundEnvelopes, row.msgId ≠ envelope.msgId ∧
    row.dedupeKey ≠ outboundMessageDedupeKey envelope) →
      envelope.queued queuedAtMs ∈ s'.outboundEnvelopes

theorem written_insertAuthoredRows (h : insertAuthoredRows message envelope reply queuedAtMs s =
    .ok (u, s')) : Written s message envelope queuedAtMs s' := by
  obtain ⟨mid, rfl, hmid⟩ := insertAuthoredRows_eq h
  obtain ⟨hmessages, _, hqueue, hmarks⟩ := rows_eq_iff.mp hmid
  obtain ⟨hretired, hretiredMarks, hsubset, hstays⟩ := rows_retireSuperseded mid envelope
  obtain ⟨hinserted, hsame⟩ := Prod.mk.inj (view_insertMessage
    (fun s => (s.authoredLamportWatermarks, s.outboundEnvelopes)) (fun _ _ _ => rfl)
    (s.recordAuthoredWatermark message) message envelope.msgId reply)
  obtain ⟨hsaid, hqueueMarks, hold, hnew⟩ := rows_queueOutboundRow
    ((s.recordAuthoredWatermark message).insertMessage message envelope.msgId reply) envelope
    queuedAtMs
  rw [hsame] at hold hnew
  rw [← hqueue] at hold hnew
  refine ⟨?_, ?_, fun row hrow => hnew row (hsubset hrow), fun row hrow => hstays row (hold hrow),
    fun hfree => hstays _ ?_ (lt_irrefl _)⟩
  · refine Eq.trans ?_ (said_insertMessage (s.recordAuthoredWatermark message) message
      envelope.msgId reply)
    unfold Store.said
    rw [hretired, hmessages, hsaid]
  · rw [hretiredMarks, hmarks, hqueueMarks, hinserted]
  · -- an id and a key that are not in the queue are taken
    rw [hqueue, queueOutboundRow, if_neg]
    · exact mem_append_right _ (mem_singleton.mpr rfl)
    · intro hany
      obtain ⟨row, hrow, htaken⟩ := any_eq_true.mp hany
      have hfree := hfree row (hsame ▸ hrow)
      exact (of_decide_eq_true htaken).elim hfree.1 hfree.2

/-- An envelope carries the message: its stream, its kind and its counter. -/
structure Envelops (message : StoredMessage) (envelope : OutboundEnvelope) : Prop where
  chatId : envelope.chatId = message.chatId
  senderUserId : envelope.senderUserId = message.senderUserId
  lamport : envelope.lamport = message.lamport

theorem Envelops.marked (h : Envelops message envelope)
    (hmarked : s.Marked message.chatId message.senderUserId (asI64 message.lamport)) :
    s.Marked envelope.chatId envelope.senderUserId (asI64 envelope.lamport) := by
  rw [h.chatId, h.senderUserId, h.lamport]
  exact hmarked

/-- An envelope may be queued under a watermark. -/
theorem advances_of_queued (hmarks : ∀ chatId senderUserId counter,
      s.Marked chatId senderUserId counter → s'.Marked chatId senderUserId counter)
    (hrows : ∀ row ∈ s'.outboundEnvelopes,
      row ∈ s.outboundEnvelopes ∨ row = envelope.queued queuedAtMs)
    (hmarked : s'.Marked envelope.chatId envelope.senderUserId (asI64 envelope.lamport))
    (hsized : envelope.Sized) : s.Advances s' := by
  refine ⟨hmarks, fun hs => ⟨fun row hrow => ?_, fun row hrow => ?_, fun row hrow => ?_⟩⟩
  · rcases hrows row hrow with hold | rfl
    · exact hmarks _ _ _ (hs.marked row hold)
    · exact hmarked
  · rcases hrows row hrow with hold | rfl
    · exact hs.keyed row hold
    · rfl
  · rcases hrows row hrow with hold | rfl
    · exact hs.sized row hold
    · exact hsized

theorem advances_of_rows_eq (h : s'.rows = s.rows) : s.Advances s' := by
  obtain ⟨_, _, hqueue, hmarks⟩ := rows_eq_iff.mp h
  exact advances_of_subset (hqueue ▸ List.Subset.refl _) hmarks

/-- Writing the rows of a message marks its counter, and keeps the queue under its watermarks. -/
theorem Written.advances (h : Written s message envelope queuedAtMs s')
    (henvelops : Envelops message envelope) (hsized : envelope.Sized) :
    s.Advances s' ∧ s'.Marked message.chatId message.senderUserId (asI64 message.lamport) := by
  have hmarked := (s.marked_recordAuthoredWatermark message).congr h.marks
  exact ⟨advances_of_queued (fun _ _ _ hmark => (hmark.recordAuthoredWatermark message).congr
    h.marks) h.queue (henvelops.marked hmarked) hsized, hmarked⟩

/-- A counter above the watermarks gives a key that is not in the queue. -/
theorem AuthorStore.Above.key_free (habove : s.Above message) (hs : s.Recorded)
    (henvelops : Envelops message envelope) (hsized : envelope.Sized) {row : OutboundEnvelopeRow}
    (hrow : row ∈ s.outboundEnvelopes) : row.dedupeKey ≠ outboundMessageDedupeKey envelope := by
  intro hkey
  rw [hs.keyed row hrow] at hkey
  obtain ⟨hchat, hsender, hlamport, _⟩ := dedupeKey_inj (hs.sized row hrow) hsized hkey
  have hmarked := hs.marked row hrow
  rw [hchat, hsender, hlamport, henvelops.chatId, henvelops.senderUserId, henvelops.lamport]
    at hmarked
  exact lt_irrefl _ (habove.marks _ hmarked)

end Insert

/-! ## One message and one envelope -/

/-- A body that encodes has a counter in the range of an `i64`. -/
theorem lamport_of_encodedBody {message : StoredMessage} {wireChatId body : Bytes}
    {reply : Option Bytes} (h : encodedBody message wireChatId reply = .ok body) :
    message.lamport ≤ 2 ^ 63 - 1 := by
  obtain ⟨_, hplain, _⟩ := bind_eq_ok.mp h
  obtain ⟨_, hfields, _⟩ := bind_eq_ok.mp hplain
  obtain ⟨_, hrange, _⟩ := bind_eq_ok.mp hfields
  exact Nat.not_lt.mp (refuseWhen_eq_ok.mp hrange)

section Single
variable {P : Primitives} {G : GroupCipher} {identity : Identity} {message : StoredMessage}
  {envelope : OutboundEnvelope} {reply : Option Bytes} {timestampMs expiry : Int}
  {draw : AuthorDraw} {s s' : AuthorStore}
  {contact : Contact} {group : Group} {kind : UInt8} {payload : Bytes}

theorem buildPairwiseEnvelope_fields (h : buildPairwiseEnvelope P identity contact
    message reply timestampMs draw expiry = .ok envelope) :
    Envelops message envelope ∧ envelope.msgId = draw.msgId ∧
      envelope.recipientUserId = contact.userId ∧ message.lamport ≤ 2 ^ 63 - 1 := by
  obtain ⟨_, hbody, hrest⟩ := bind_eq_ok.mp h
  obtain ⟨_, _, hrest⟩ := bind_eq_ok.mp hrest
  cases hrest
  exact ⟨⟨rfl, rfl, rfl⟩, rfl, rfl, lamport_of_encodedBody hbody⟩

theorem buildGroupEnvelope_fields (hchat : message.chatId = group.id)
    (h : buildGroupEnvelope P G identity group message reply timestampMs draw = .ok envelope) :
    Envelops message envelope ∧ envelope.msgId = draw.msgId ∧ message.lamport ≤ 2 ^ 63 - 1 := by
  obtain ⟨_, hbody, hrest⟩ := bind_eq_ok.mp h
  obtain ⟨_, _, hrest⟩ := bind_eq_ok.mp hrest
  cases hrest
  exact ⟨⟨hchat.symm, rfl, rfl⟩, rfl, lamport_of_encodedBody hbody⟩

/-- What the calls with one message and one envelope have in common when they return: the message
is numbered in the state the call found, and its rows are written in one that has the same rows. -/
structure Commits (s : AuthorStore) (chatId senderUserId msgId : Bytes) (a : AuthoredEnvelope)
    (s' : AuthorStore) : Prop where
  chat : a.message.chatId = chatId
  sender : a.message.senderUserId = senderUserId
  number : a.message.lamport = (s.nextAuthoredLamport chatId senderUserId).1
  range : a.message.lamport ≤ 2 ^ 63 - 1
  envelops : Envelops a.message a.envelope
  id : a.envelope.msgId = msgId
  written : ∃ mid reply queuedAtMs, mid.rows = s.rows ∧
    insertAuthoredRows a.message a.envelope reply queuedAtMs mid = .ok ((), s')

variable {a : AuthoredEnvelope}

theorem commits_pairwise
    (h : (authorPairwiseMessage P identity contact kind payload reply timestampMs draw).Returns
      s a s') : Commits s contact.userId identity.userId draw.msgId a s' := by
  replace h := returns_inspect_bind.mp h
  obtain ⟨_, _, h⟩ := returns_lift_bind.mp h
  obtain ⟨_, _, h⟩ := returns_lift_bind.mp h
  replace h := (Tx.get_bind _ _).symm.trans (returns_transaction.mp h)
  obtain ⟨envelope, hbuild, h⟩ := Tx.lift_bind_eq_ok.mp h
  obtain ⟨_, _, hrows, h⟩ := Tx.bind_eq_ok.mp h
  cases h
  obtain ⟨henvelops, hid, _, hrange⟩ := buildPairwiseEnvelope_fields hbuild
  exact ⟨rfl, rfl, rfl, hrange, henvelops, hid, _, _, _, rfl, hrows⟩

theorem commits_group
    (h : (authorGroupMessage P G identity group kind payload reply timestampMs draw).Returns
      s a s') : Commits s group.id identity.userId draw.msgId a s' := by
  replace h := returns_inspect_bind.mp h
  obtain ⟨_, _, h⟩ := returns_lift_bind.mp h
  obtain ⟨_, _, h⟩ := returns_lift_bind.mp h
  obtain ⟨_, _, h⟩ := returns_lift_bind.mp h
  replace h := (Tx.get_bind _ _).symm.trans (returns_transaction.mp h)
  obtain ⟨envelope, hbuild, h⟩ := Tx.lift_bind_eq_ok.mp h
  obtain ⟨_, _, hrows, h⟩ := Tx.bind_eq_ok.mp h
  cases h
  obtain ⟨henvelops, hid, hrange⟩ := buildGroupEnvelope_fields rfl hbuild
  exact ⟨rfl, rfl, rfl, hrange, henvelops, hid, _, _, _, rfl, hrows⟩

theorem keeps_upsertGroupTx (group : Group) (clock : ClockReading) :
    Tx.Keeps (txOnStore (transaction (upsertGroupTx group clock))) rows := by
  refine keeps_txOnStore fun s => keeps_transaction ?_
  intro store u store' h
  obtain ⟨_, _, h⟩ := Tx.lift_bind_eq_ok.mp h
  rw [Tx.get_bind] at h
  split at h
  · rw [← (ok_pair_inj h).2]
  · rw [← (ok_pair_inj h).2]
    rfl

theorem commits_metadata {name : Bytes} {memberUserIds : List Bytes} {clock : ClockReading}
    {a : AuthoredGroupMetadataUpdate}
    (h : (authorGroupMetadataUpdate P G identity group name memberUserIds timestampMs draw
      clock).Returns s a s') :
    Commits s group.id identity.userId draw.msgId a.authored s' := by
  replace h := returns_inspect_bind.mp h
  obtain ⟨_, _, h⟩ := returns_lift_bind.mp h
  obtain ⟨_, _, h⟩ := returns_lift_bind.mp h
  obtain ⟨_, _, h⟩ := returns_lift_bind.mp h
  obtain ⟨_, _, h⟩ := returns_lift_bind.mp h
  obtain ⟨_, _, h⟩ := returns_lift_bind.mp h
  replace h := (Tx.get_bind _ _).symm.trans (returns_transaction.mp h)
  obtain ⟨envelope, hbuild, h⟩ := Tx.lift_bind_eq_ok.mp h
  obtain ⟨_, mid, hgroup, h⟩ := Tx.bind_eq_ok.mp h
  obtain ⟨_, _, hrows, h⟩ := Tx.bind_eq_ok.mp h
  cases h
  obtain ⟨henvelops, hid, hrange⟩ := buildGroupEnvelope_fields rfl hbuild
  exact ⟨rfl, rfl, rfl, hrange, henvelops, hid, mid, _, _, keeps_upsertGroupTx _ _ _ _ _ hgroup,
    hrows⟩

variable {chatId senderUserId msgId : Bytes} {a : AuthoredEnvelope}

theorem Commits.sized (h : Commits s chatId senderUserId msgId a s')
    (hchat : chatId.length ≤ u16Max) (hsender : senderUserId.length ≤ u16Max) :
    a.envelope.Sized where
  chatId := by rw [h.envelops.chatId, h.chat]; exact hchat
  senderUserId := by rw [h.envelops.senderUserId, h.sender]; exact hsender
  lamport := by
    rw [h.envelops.lamport]
    have := h.range
    omega

theorem AuthorStore.Above.congr (h : s.Above message) (hrows : s'.rows = s.rows) :
    s'.Above message := by
  obtain ⟨hmessages, _, _, hmarks⟩ := rows_eq_iff.mp hrows
  constructor
  · rw [hmessages]
    exact h.messages
  · exact fun counter hmarked => h.marks counter (hmarked.congr hmarks.symm)

/-- A call that returns leaves its counter under a watermark. -/
theorem Commits.advances (h : Commits s chatId senderUserId msgId a s')
    (hchat : chatId.length ≤ u16Max) (hsender : senderUserId.length ≤ u16Max) :
    s.Advances s' ∧ s'.Marked chatId senderUserId a.message.lamport := by
  obtain ⟨mid, reply, queuedAtMs, hrows, hwritten⟩ := h.written
  obtain ⟨hadvances, hmarked⟩ := (written_insertAuthoredRows hwritten).advances h.envelops
    (h.sized hchat hsender)
  rw [h.chat, h.sender, asI64_of_lt (by have := h.range; omega)] at hmarked
  exact ⟨trans_of AuthorStore.Advances (advances_of_rows_eq hrows) hadvances, hmarked⟩

/-- What is authored is in the table of messages and in the queue. -/
structure Stored (s : AuthorStore) (a : AuthoredEnvelope) : Prop where
  message : a.message ∈ s.said
  envelope : ∃ row ∈ s.outboundEnvelopes, row.toOutboundEnvelope = a.envelope

theorem Commits.above (h : Commits s chatId senderUserId msgId a s')
    (hroom : s.highestCounter chatId senderUserId < i64Max) : s.Above a.message := by
  refine above_next ?_ ?_ h.range
  · rw [h.chat, h.sender]
    exact hroom
  · rw [h.chat, h.sender]
    exact h.number

/-- Below the bound, a call that returns has kept its message and its envelope. -/
theorem Commits.stored (h : Commits s chatId senderUserId msgId a s') (hs : s.Recorded)
    (hchat : chatId.length ≤ u16Max) (hsender : senderUserId.length ≤ u16Max)
    (hroom : s.highestCounter chatId senderUserId < i64Max)
    (hfresh : ∀ row ∈ s.outboundEnvelopes, row.msgId ≠ msgId) : Stored s' a := by
  obtain ⟨mid, reply, queuedAtMs, hrows, hwritten⟩ := h.written
  have habove := (h.above hroom).congr hrows
  have hmid := (advances_of_rows_eq hrows).recorded hs
  obtain ⟨_, _, hqueue, _⟩ := rows_eq_iff.mp hrows
  have hrowsWritten := written_insertAuthoredRows hwritten
  refine ⟨(said_of_fits habove.fits hrowsWritten.said).1, _, hrowsWritten.queued ?_, rfl⟩
  exact fun row hrow => ⟨h.id ▸ hfresh row (hqueue ▸ hrow),
    habove.key_free hmid h.envelops (h.sized hchat hsender) hrow⟩

end Single

/-! ## Invites -/

section Invites
variable {P : Primitives} {identity : Identity} {message : StoredMessage} {acknowledged : Nat}
  {timestampMs : Int} {draws : Nat → AuthorDraw} {member : Contact} {rest : List Contact} {n : Nat}
  {s s' : AuthorStore} {envelope : OutboundEnvelope}

/-- One member of the loop: they are this person and left out, or their envelope is written and
the rest follows. -/
theorem inviteMembers_cons {invites : List AuthoredEnvelope}
    (h : inviteMembers P identity message acknowledged timestampMs draws (member :: rest) n s =
      .ok (invites, s')) :
    inviteMembers P identity message acknowledged timestampMs draws rest (n + 1) s =
        .ok (invites, s') ∨
      ∃ envelope mid others, Envelops message envelope ∧ envelope.msgId = (draws n).msgId ∧
        envelope.recipientUserId = member.userId ∧ message.lamport ≤ 2 ^ 63 - 1 ∧
        Written s message envelope timestampMs mid ∧
        inviteMembers P identity message acknowledged timestampMs draws rest (n + 1) mid =
          .ok (others, s') ∧
        invites = authored message envelope acknowledged :: others := by
  unfold inviteMembers at h
  split at h
  · exact .inl h
  · obtain ⟨envelope, hbuild, h⟩ := Tx.lift_bind_eq_ok.mp h
    obtain ⟨_, mid, hrows, h⟩ := Tx.bind_eq_ok.mp h
    obtain ⟨others, _, hrest, h⟩ := Tx.bind_eq_ok.mp h
    cases h
    obtain ⟨henvelops, hid, hrecipient, hrange⟩ := buildPairwiseEnvelope_fields hbuild
    exact .inr ⟨envelope, mid, others, henvelops, hid, hrecipient, hrange,
      written_insertAuthoredRows hrows, hrest, rfl⟩

/-- Every invite carries the one message, whose counter is in range. -/
theorem message_inviteMembers : ∀ (members : List Contact) {n : Nat} {s s' : AuthorStore}
    {invites : List AuthoredEnvelope},
    inviteMembers P identity message acknowledged timestampMs draws members n s =
      .ok (invites, s') → ∀ a ∈ invites, a.message = message ∧ message.lamport ≤ 2 ^ 63 - 1
  | [], _, _, _, _, h => by
    obtain ⟨rfl, -⟩ := ok_pair_inj h
    nofun
  | member :: rest, _, _, _, _, h => by
    rcases inviteMembers_cons h with hrest | ⟨_, _, _, _, _, _, hrange, _, hrest, rfl⟩
    · exact message_inviteMembers rest hrest
    · intro a ha
      rcases mem_cons.mp ha with rfl | hother
      · exact ⟨rfl, hrange⟩
      · exact message_inviteMembers rest hrest a hother

variable (hchat : message.chatId.length ≤ u16Max) (hsender : message.senderUserId.length ≤ u16Max)
include hchat hsender

theorem sized_of_envelops (h : Envelops message envelope) (hrange : message.lamport ≤ 2 ^ 63 - 1) :
    envelope.Sized where
  chatId := h.chatId ▸ hchat
  senderUserId := h.senderUserId ▸ hsender
  lamport := by
    rw [h.lamport]
    omega

theorem advances_inviteMembers : ∀ (members : List Contact) {n : Nat} {s s' : AuthorStore}
    {invites : List AuthoredEnvelope},
    inviteMembers P identity message acknowledged timestampMs draws members n s =
      .ok (invites, s') → s.Advances s' ∧
        ∀ a ∈ invites, s'.Marked message.chatId message.senderUserId message.lamport
  | [], _, _, _, _, h => by
    cases h
    exact ⟨refl_of AuthorStore.Advances _, nofun⟩
  | member :: rest, _, _, _, _, h => by
    rcases inviteMembers_cons h with
      hrest | ⟨envelope, mid, others, henvelops, _, _, hrange, hrows, hrest, rfl⟩
    · exact advances_inviteMembers rest hrest
    · obtain ⟨hfirst, hmarked⟩ := hrows.advances henvelops
        (sized_of_envelops hchat hsender henvelops hrange)
      obtain ⟨hthen, _⟩ := advances_inviteMembers rest hrest
      rw [asI64_of_lt (by omega)] at hmarked
      exact ⟨trans_of AuthorStore.Advances hfirst hthen, fun _ _ => hthen.marks _ _ _ hmarked⟩

/-- The ids and the keys of the invites that are still to be written are not in the queue. -/
structure Invitable (message : StoredMessage) (draws : Nat → AuthorDraw) (members : List Contact)
    (n : Nat) (s : AuthorStore) : Prop where
  ids : ∀ k < members.length, ∀ row ∈ s.outboundEnvelopes, row.msgId ≠ (draws (n + k)).msgId
  keys : ∀ member ∈ members, ∀ envelope : OutboundEnvelope, Envelops message envelope →
    envelope.Sized → envelope.recipientUserId = member.userId →
    ∀ row ∈ s.outboundEnvelopes, row.dedupeKey ≠ outboundMessageDedupeKey envelope

omit hchat hsender in
theorem Invitable.tail (h : Invitable message draws (member :: rest) n s) :
    Invitable message draws rest (n + 1) s where
  ids k hk row hrow := by
    have := h.ids (k + 1) (by simpa using hk) row hrow
    rwa [show n + 1 + k = n + (k + 1) by omega]
  keys other hother := h.keys other (mem_cons_of_mem _ hother)

/-- The invite of one member is not in the way of the others'. -/
theorem Invitable.insert (h : Invitable message draws (member :: rest) n s)
    (hnodup : ((member :: rest).map (·.userId)).Nodup)
    (hdraws : ∀ k < rest.length, (draws n).msgId ≠ (draws (n + 1 + k)).msgId)
    (henvelops : Envelops message envelope) (hrange : message.lamport ≤ 2 ^ 63 - 1)
    (hid : envelope.msgId = (draws n).msgId) (hrecipient : envelope.recipientUserId = member.userId)
    (hrows : Written s message envelope timestampMs s') :
    Invitable message draws rest (n + 1) s' := by
  constructor
  · intro k hk row hrow
    rcases hrows.queue row hrow with hold | rfl
    · exact h.tail.ids k hk row hold
    · exact hid ▸ hdraws k hk
  intro other hother new hnew hsized hto row hrow
  rcases hrows.queue row hrow with hold | rfl
  · exact h.tail.keys other hother new hnew hsized hto row hold
  intro hkey
  obtain ⟨_, _, _, hsame⟩ := dedupeKey_inj
    (sized_of_envelops hchat hsender henvelops hrange) hsized hkey
  rw [hrecipient, hto] at hsame
  refine (nodup_cons.mp hnodup).1 ?_
  show member.userId ∈ _
  rw [hsame]
  exact mem_map_of_mem hother

/-- The loop keeps the message, and an envelope for everyone it returns one for. -/
theorem stored_inviteMembers : ∀ (members : List Contact) {n : Nat} {s s' : AuthorStore}
    {invites : List AuthoredEnvelope},
    (members.map (·.userId)).Nodup →
    (∀ i < members.length, ∀ j < members.length,
      (draws (n + i)).msgId = (draws (n + j)).msgId → i = j) →
    s.Fits message → Invitable message draws members n s →
    inviteMembers P identity message acknowledged timestampMs draws members n s =
      .ok (invites, s') →
    (message ∈ s.said → message ∈ s'.said) ∧
      (∀ row ∈ s.outboundEnvelopes, row.lamport = message.lamport → row ∈ s'.outboundEnvelopes) ∧
      ∀ a ∈ invites, Stored s' a
  | [], _, _, _, _, _, _, _, _, h => by
    cases h
    exact ⟨fun hsaid => hsaid, fun _ hrow _ => hrow, nofun⟩
  | member :: rest, n, s, s', invites, hnodup, hdraws, hfits, hcan, h => by
    have hlater : ∀ i < rest.length, ∀ j < rest.length,
        (draws (n + 1 + i)).msgId = (draws (n + 1 + j)).msgId → i = j := by
      intro i hi j hj hsame
      have := hdraws (i + 1) (by simpa using hi) (j + 1) (by simpa using hj)
        (by rwa [show n + (i + 1) = n + 1 + i by omega, show n + (j + 1) = n + 1 + j by omega])
      omega
    have hrestNodup : (rest.map (·.userId)).Nodup := (nodup_cons.mp hnodup).2
    rcases inviteMembers_cons h with
      hrest | ⟨envelope, mid, others, henvelops, hid, hrecipient, hrange, hrows, hrest, rfl⟩
    · exact stored_inviteMembers rest hrestNodup hlater hfits hcan.tail hrest
    have hsized := sized_of_envelops hchat hsender henvelops hrange
    obtain ⟨hsaid, hstill⟩ := said_of_fits hfits hrows.said
    have hqueued := hrows.queued fun row hrow =>
      ⟨hid ▸ hcan.ids 0 (Nat.zero_lt_succ _) row hrow,
        hcan.keys member mem_cons_self envelope henvelops hsized hrecipient row hrow⟩
    have hmidCan := hcan.insert hchat hsender hnodup
      (fun k hk hsame => by
        have := hdraws 0 (Nat.zero_lt_succ _) (k + 1) (by simpa using hk)
          (by rwa [show n + (k + 1) = n + 1 + k by omega])
        omega)
      henvelops hrange hid hrecipient hrows
    obtain ⟨hkeepsSaid, hkeepsRows, hothers⟩ :=
      stored_inviteMembers rest hrestNodup hlater hstill hmidCan hrest
    refine ⟨fun _ => hkeepsSaid hsaid, fun row hrow hlamport => ?_, ?_⟩
    · -- a row of the same counter is not older than the envelope
      refine hkeepsRows row (hrows.stays row hrow ?_) hlamport
      rw [hlamport, henvelops.lamport]
      exact lt_irrefl _
    · intro a ha
      rcases mem_cons.mp ha with rfl | hother
      · exact ⟨hkeepsSaid hsaid, _, hkeepsRows _ hqueued henvelops.lamport, rfl⟩
      · exact hothers a hother

end Invites
end CruiseMesh
