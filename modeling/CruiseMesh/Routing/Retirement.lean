import CruiseMesh.Lib.Runs
import CruiseMesh.Mesh.Spray
import CruiseMesh.Store.Open
import CruiseMesh.Sync.Apply

/-!
# Retiring the outbound queue

`outbound_retirement.rs` and its two hooks in the store. A queued envelope leaves the queue
once two things have happened, in whatever order: the recipient's delivered watermark has
come to cover it, and the relay has carried it. `record_receipt` looks for such rows when a
watermark arrives, `mark_outbound_envelope_relay_posted` when a row is stamped, and the sweep
at `open` looks at every watermark there is.

`Store.Due` is the condition all three of them test a part of. What a run does to the queue is
the relation `Retired`: it stamps rows, raises watermarks, and then the rows that are due are
gone and no others. `Retired` composes, so it holds of a whole run when it holds of a step,
and its right-hand side does not mention the order of the steps.

The transport a receipt came by and the connection events it leaves are not modelled.
-/

namespace CruiseMesh
open Durable Prog List Table Store

/-! ## Policy -/

def kindProfileSync : UInt8 := 5
def kindFriendDirectory : UInt8 := 6
def kindLanEndpointHint : UInt8 := 8
def kindRelayUpdate : UInt8 := 9

/-- `supersedes_queued_generations`: the kinds that carry a whole snapshot. -/
def supersedesQueuedGenerations (kind : UInt8) : Bool :=
  kind = kindProfileSync ∨ kind = kindFriendDirectory ∨ kind = kindLanEndpointHint ∨
    kind = kindRelayUpdate ∨ kind = coreSyncRecordKindWire .digest ∨ kind = kindRosterGossip

/-- `covered_by_delivered_watermark`. Lamports start at 1, and a watermark of 0 is none. -/
def coveredByDeliveredWatermark (lamport deliveredThrough : Nat) : Bool :=
  0 < deliveredThrough ∧ lamport ≤ deliveredThrough

/-! ## The hooks -/

variable (s : Store) (chatId senderUserId : Bytes)

/-- `delivered_watermark`. -/
def Store.deliveredWatermark : Nat :=
  (asI64 (s.receiptThrough chatId senderUserId receiptTypeDelivered)).toNat

/-- The statement of `record_receipt` that stores the larger of the two watermarks. -/
def Store.raiseReceipt (receiptType : UInt8) (throughLamport : Nat) : Store :=
  let raised := match Table.lookup ReceiptRow.subject (chatId, senderUserId, receiptType)
      s.receipts with
    | some held => if asI64 held.throughLamport < asI64 throughLamport then throughLamport
      else held.throughLamport
    | none => throughLamport
  { s with
    receipts := upsert ReceiptRow.subject
      { chatId, senderUserId, receiptType, throughLamport := raised } s.receipts }

/-- `record_receipt`. The retirement is against the watermark that is stored. -/
def recordReceipt (receiptType : UInt8) (throughLamport : Nat) : Prog Store CoreError Unit := do
  validateReceiptWatermark receiptType throughLamport
  transaction do
    modify (·.raiseReceipt chatId senderUserId receiptType throughLamport)
    if receiptType = receiptTypeDelivered then
      let effective := (← get).deliveredWatermark chatId senderUserId
      modify (retireReceiptCovered chatId senderUserId effective).final

variable {throughLamport : Nat}

theorem keeps_recordReceipt {τ : Type} {view : Store → τ} {chatId senderUserId : Bytes}
    {receiptType : UInt8}
    (h : ∀ s receipts outboundEnvelopes, view { s with receipts, outboundEnvelopes } = view s) :
    (recordReceipt chatId senderUserId receiptType throughLamport).Keeps view := by
  refine keeps_lift_bind fun _ => keeps_transaction ?_
  refine Tx.keeps_bind (Tx.keeps_modify fun s => h s _ s.outboundEnvelopes) fun _ => ?_
  split
  · refine Tx.keeps_bind Tx.keeps_get fun mid => Tx.keeps_modify fun s => ?_
    exact (keeps_retireReceiptCovered (fun s rows => h s s.receipts rows) _ _ _).final s
  · exact Tx.keeps_pure _

variable (msgId : Bytes)

/-- `retire_covered_after_relay_post`. -/
def retireCoveredAfterRelayPost : Prog Store CoreError Unit := do
  let found ← inspect fun s => s.outboundEnvelopes.find? fun row => row.msgId = msgId ∧
    row.recipientUserId = row.chatId ∧ ∃ contact ∈ s.contacts, contact.userId = row.chatId
  match found with
  | none => pure ()
  | some row =>
    let deliveredThrough ← inspect (·.deliveredWatermark row.chatId row.senderUserId)
    retireReceiptCovered row.chatId row.senderUserId deliveredThrough

variable (postedAtMs : Int)

/-- The stamp of a row that has been posted. -/
def OutboundEnvelopeRow.post (row : OutboundEnvelopeRow) : OutboundEnvelopeRow :=
  { row with relayPostedAt := some postedAtMs }

/-- The statement that stamps the row. -/
def Store.postRow : Store :=
  { s with
    outboundEnvelopes := Table.update (·.msgId) msgId (·.post postedAtMs) s.outboundEnvelopes }

/-- `mark_outbound_envelope_relay_posted`. -/
def markOutboundEnvelopeRelayPosted : Prog Store CoreError Bool :=
  transaction do
    let changed := (← get).outboundEnvelopes.countP fun row => row.msgId = msgId
    modify (·.postRow msgId postedAtMs)
    if 0 < changed then
      modify (retireCoveredAfterRelayPost msgId).final
    pure (decide (0 < changed))

/-- `backfill_rejoins_the_queue`. -/
def Store.backfillRejoinsTheQueue (envelope : OutboundEnvelope) : Bool :=
  if supersedesQueuedGenerations envelope.kind then false
  else ¬ coveredByDeliveredWatermark envelope.lamport
    (s.deliveredWatermark envelope.chatId envelope.senderUserId)

/-! ## Runs -/

/-- One call of a hook. -/
inductive QueueStep where
  | receipt (chatId senderUserId : Bytes) (receiptType : UInt8) (throughLamport : Nat)
  | relayPosted (msgId : Bytes) (postedAtMs : Int)

/-- What the call leaves; a receipt that is refused leaves everything as it was. -/
def Store.queueStep : QueueStep → Store
  | .receipt chatId senderUserId receiptType throughLamport =>
    (recordReceipt chatId senderUserId receiptType throughLamport).final s
  | .relayPosted msgId postedAtMs => (markOutboundEnvelopeRelayPosted msgId postedAtMs).final s

namespace QueueStep

/-- The watermark a step brings for a chat, a sender and a type, when it is not refused. -/
def brings (chatId senderUserId : Bytes) (receiptType : UInt8) : QueueStep → Option Nat
  | .receipt chat sender type through =>
    if chat = chatId ∧ sender = senderUserId ∧ type = receiptType then
      (validateReceiptWatermark type through).toOption.map fun _ => through
    else none
  | .relayPosted _ _ => none

/-- The largest watermark received, 0 when there was none. -/
def received (steps : List QueueStep) (chatId senderUserId : Bytes) (receiptType : UInt8) : Nat :=
  (steps.filterMap (brings chatId senderUserId receiptType)).toFinset.sup id

/-- What a step stamps on a row. -/
def stamp (step : QueueStep) (row : OutboundEnvelopeRow) : OutboundEnvelopeRow :=
  match step with
  | .receipt _ _ _ _ => row
  | .relayPosted msgId postedAtMs => if row.msgId = msgId then row.post postedAtMs else row

/-- What a run stamps on a row. -/
def stamped (steps : List QueueStep) (row : OutboundEnvelopeRow) : OutboundEnvelopeRow :=
  steps.foldl (fun row step => step.stamp row) row

end QueueStep

/-! ## What is due -/

/-- The row is one to one with a contact, whose id is not one of a group, and the message it
was sealed from is kept. -/
def Store.Retirable (row : OutboundEnvelopeRow) : Prop :=
  row.recipientUserId = row.chatId ∧ (∃ contact ∈ s.contacts, contact.userId = row.chatId) ∧
    (¬ ∃ group ∈ s.groups, group.groupId = row.chatId) ∧
    ∃ message ∈ s.messages, message.chatId = row.chatId ∧
      message.senderUserId = row.senderUserId ∧ message.lamport = row.lamport

instance (s : Store) (row : OutboundEnvelopeRow) : Decidable (s.Retirable row) :=
  inferInstanceAs (Decidable (_ ∧ _))

/-- The relay has carried the row, and the watermark of its chat and sender covers it. -/
def Store.Due (through : Bytes → Bytes → Nat) (row : OutboundEnvelopeRow) : Prop :=
  row.relayPostedAt.isSome ∧ s.Retirable row ∧
    coveredByDeliveredWatermark row.lamport (through row.chatId row.senderUserId)

instance (s : Store) (through : Bytes → Bytes → Nat) : DecidablePred (s.Due through) :=
  fun _ => inferInstanceAs (Decidable (_ ∧ _))

/-- What the schema and every writer of the two tables see to: the primary keys are unique, and
the counters are in the range of the column. -/
structure Store.QueueSound : Prop where
  msgIds : (s.outboundEnvelopes.map (·.msgId)).Nodup
  lamports : ∀ row ∈ s.outboundEnvelopes, row.lamport < 2 ^ 63
  subjects : (s.receipts.map ReceiptRow.subject).Nodup
  throughs : ∀ receipt ∈ s.receipts, receipt.throughLamport < 2 ^ 63

/-- After `steps` the watermarks are those received, the rows are stamped, and the rows that
are due are gone. -/
structure Retired (steps : List QueueStep) (s' : Store) : Prop where
  contacts : s'.contacts = s.contacts
  groups : s'.groups = s.groups
  messages : s'.messages = s.messages
  through : ∀ chatId senderUserId receiptType,
    s'.receiptThrough chatId senderUserId receiptType =
      max (s.receiptThrough chatId senderUserId receiptType)
        (QueueStep.received steps chatId senderUserId receiptType)
  queue : s'.outboundEnvelopes = (s.outboundEnvelopes.map (QueueStep.stamped steps)).filter
    fun row => ¬ s'.Due s'.deliveredWatermark row
  sound : s'.QueueSound

/-- No row of the queue is due. -/
def Store.Settled : Prop := ∀ row ∈ s.outboundEnvelopes, ¬ s.Due s.deliveredWatermark row

/-- The store without the rows that are due. -/
def Store.retireDue : Store :=
  { s with
    outboundEnvelopes := s.outboundEnvelopes.filter fun row => ¬ s.Due s.deliveredWatermark row }

theorem Store.Settled.retireDue_eq {s : Store} (h : s.Settled) : s.retireDue = s := by
  have hall : s.outboundEnvelopes.filter (fun row => ¬ s.Due s.deliveredWatermark row) =
      s.outboundEnvelopes :=
    filter_eq_self.mpr fun row hrow => decide_eq_true (h row hrow)
  unfold retireDue
  rw [hall]

theorem Store.QueueSound.retireDue {s : Store} (h : s.QueueSound) : s.retireDue.QueueSound where
  msgIds := h.msgIds.sublist (filter_sublist.map _)
  lamports row hrow := h.lamports row (mem_of_mem_filter hrow)
  subjects := h.subjects
  throughs := h.throughs

/-! ## Watermarks -/

section Watermarks
variable {s : Store} {chatId senderUserId : Bytes} {receiptType : UInt8}

theorem Store.receiptThrough_eq : s.receiptThrough chatId senderUserId receiptType =
    ((Table.lookup ReceiptRow.subject (chatId, senderUserId, receiptType) s.receipts).map
      (·.throughLamport)).getD 0 := by
  unfold receiptThrough Table.lookup ReceiptRow.subject
  simp only [Prod.mk.injEq]

namespace Store.QueueSound
variable (h : s.QueueSound)
include h

theorem receiptThrough_lt :
    s.receiptThrough chatId senderUserId receiptType < 2 ^ 63 := by
  rw [receiptThrough_eq]
  cases hfound : Table.lookup ReceiptRow.subject (chatId, senderUserId, receiptType) s.receipts with
  | none => simp
  | some receipt => exact h.throughs receipt (mem_of_lookup hfound)

theorem deliveredWatermark_eq :
    s.deliveredWatermark chatId senderUserId =
      s.receiptThrough chatId senderUserId receiptTypeDelivered := by
  unfold deliveredWatermark
  rw [asI64_of_lt h.receiptThrough_lt, Int.toNat_natCast]

variable {throughLamport : Nat}

theorem raised_eq (hrange : throughLamport < 2 ^ 63) :
    s.raiseReceipt chatId senderUserId receiptType throughLamport = { s with
      receipts := upsert ReceiptRow.subject
        { chatId, senderUserId, receiptType
          throughLamport := max (s.receiptThrough chatId senderUserId receiptType) throughLamport }
        s.receipts } := by
  unfold raiseReceipt
  rw [receiptThrough_eq]
  cases hfound : Table.lookup ReceiptRow.subject (chatId, senderUserId, receiptType) s.receipts with
  | none => simp
  | some held =>
    have hheld : held.throughLamport < 2 ^ 63 := h.throughs held (mem_of_lookup hfound)
    have hmax : (if asI64 held.throughLamport < asI64 throughLamport then throughLamport
        else held.throughLamport) = max held.throughLamport throughLamport := by
      rw [asI64_of_lt hheld, asI64_of_lt hrange]
      split <;> omega
    simp only [hmax, Option.map_some, Option.getD_some]

/-- One watermark is raised, the others are as they were. -/
theorem receiptThrough_raiseReceipt
    (hrange : throughLamport < 2 ^ 63) (chat sender : Bytes) (type : UInt8) :
    (s.raiseReceipt chatId senderUserId receiptType throughLamport).receiptThrough
        chat sender type =
      if chatId = chat ∧ senderUserId = sender ∧ receiptType = type then
        max (s.receiptThrough chat sender type) throughLamport
      else s.receiptThrough chat sender type := by
  rw [h.raised_eq hrange, receiptThrough_eq, lookup_upsert]
  by_cases hkey : chatId = chat ∧ senderUserId = sender ∧ receiptType = type
  · obtain ⟨rfl, rfl, rfl⟩ := hkey
    simp [ReceiptRow.subject]
  · have hne : ¬ (chatId, senderUserId, receiptType) = (chat, sender, type) := by
      simpa only [Prod.mk.injEq] using hkey
    simp only [ReceiptRow.subject, if_neg hne, if_neg hkey, receiptThrough_eq]

theorem raiseReceipt (hrange : throughLamport < 2 ^ 63) :
    (s.raiseReceipt chatId senderUserId receiptType throughLamport).QueueSound := by
  rw [h.raised_eq hrange]
  refine ⟨h.msgIds, h.lamports, nodup_upsert h.subjects, ?_⟩
  intro receipt hreceipt
  rcases mem_upsert hreceipt with hold | rfl
  · exact h.throughs receipt hold
  · exact Nat.max_lt.mpr ⟨h.receiptThrough_lt, hrange⟩

end Store.QueueSound
end Watermarks

theorem validateReceiptWatermark_range {receiptType : UInt8} {u : Unit}
    (h : validateReceiptWatermark receiptType throughLamport = .ok u) :
    throughLamport < 2 ^ 63 := by
  obtain ⟨_, _, hrange⟩ := bind_eq_ok.mp h
  have := refuseWhen_eq_ok.mp hrange
  omega

namespace QueueStep
variable {chatId senderUserId : Bytes} {receiptType : UInt8}

@[simp] theorem received_nil : received [] chatId senderUserId receiptType = 0 := rfl

theorem received_singleton (step : QueueStep) :
    received [step] chatId senderUserId receiptType =
      (step.brings chatId senderUserId receiptType).getD 0 := by
  unfold received
  cases hbrings : step.brings chatId senderUserId receiptType with
  | none => simp [hbrings]
  | some through => simp [hbrings]

/-! Stamps. -/

@[simp] theorem msgId_stamp (step : QueueStep) (row : OutboundEnvelopeRow) :
    (step.stamp row).msgId = row.msgId := by
  unfold stamp
  split
  · rfl
  · split <;> rfl

/-- A row after a stamp is the row but for when it was posted, and posted it stays. -/
theorem stamp_eq (step : QueueStep) (row : OutboundEnvelopeRow) :
    ∃ at?, step.stamp row = { row with relayPostedAt := at? } ∧
      (row.relayPostedAt.isSome → at?.isSome) := by
  unfold stamp
  split
  · exact ⟨row.relayPostedAt, rfl, id⟩
  · rename_i msgId postedAtMs
    split
    · exact ⟨some postedAtMs, rfl, fun _ => rfl⟩
    · exact ⟨row.relayPostedAt, rfl, id⟩

theorem stamped_eq (steps : List QueueStep) (row : OutboundEnvelopeRow) :
    ∃ at?, stamped steps row = { row with relayPostedAt := at? } ∧
      (row.relayPostedAt.isSome → at?.isSome) := by
  induction steps generalizing row with
  | nil => exact ⟨row.relayPostedAt, rfl, id⟩
  | cons step rest ih =>
    obtain ⟨first?, hfirst, hkeep⟩ := stamp_eq step row
    obtain ⟨at?, hat, hkeep'⟩ := ih (step.stamp row)
    refine ⟨at?, ?_, fun h => hkeep' ?_⟩
    · show stamped rest (step.stamp row) = _
      rw [hat, hfirst]
    · rw [hfirst]
      exact hkeep h

theorem stamped_append (steps steps' : List QueueStep) :
    stamped (steps ++ steps') = stamped steps' ∘ stamped steps := by
  funext row
  exact foldl_append

end QueueStep

/-! ## What the hooks do -/

open QueueStep

section Hooks
variable {s : Store} {chatId senderUserId : Bytes}
  {through : Bytes → Bytes → Nat} {row : OutboundEnvelopeRow} {throughLamport : Nat}
  {msgId : Bytes} {receipt : ReceiptRow}

/-- What is due stays due under a higher watermark, and when the row is stamped. -/
theorem Store.Due.mono {s' : Store} {through' : Bytes → Bytes → Nat} (h : s.Due through row)
    (hcontacts : s'.contacts = s.contacts) (hgroups : s'.groups = s.groups)
    (hmessages : s'.messages = s.messages)
    (hthrough : through row.chatId row.senderUserId ≤ through' row.chatId row.senderUserId)
    (steps : List QueueStep) : s'.Due through' (stamped steps row) := by
  obtain ⟨hposted, hretirable, hcovered⟩ := h
  obtain ⟨at?, hrow, hkeep⟩ := stamped_eq steps row
  obtain ⟨hpos, hle⟩ := of_decide_eq_true hcovered
  rw [hrow]
  refine ⟨hkeep hposted, ?_, decide_eq_true ⟨lt_of_lt_of_le hpos hthrough, hle.trans hthrough⟩⟩
  unfold Store.Retirable
  rw [hcontacts, hgroups, hmessages]
  exact hretirable

/-- The statement of the retirement, at a watermark, takes the due rows of the stream. -/
theorem Store.covered_iff (hrow : row.lamport < 2 ^ 63)
    (hthrough : through chatId senderUserId < 2 ^ 63) :
    through chatId senderUserId ≠ 0 ∧
        s.covered chatId senderUserId (through chatId senderUserId) row ↔
      row.chatId = chatId ∧ row.senderUserId = senderUserId ∧ s.Due through row := by
  unfold covered Store.Due Store.Retirable coveredByDeliveredWatermark
  rw [asI64_of_lt hrow, asI64_of_lt hthrough, decide_eq_true_iff, Nat.pos_iff_ne_zero]
  constructor
  · rintro ⟨hne, hrecipient, rfl, rfl, hle, hposted, hcontact, hgroup, hmessage⟩
    exact ⟨rfl, rfl, hposted, ⟨hrecipient, hcontact, hgroup, hmessage⟩, hne, Int.ofNat_le.mp hle⟩
  · rintro ⟨rfl, rfl, hposted, ⟨hrecipient, hcontact, hgroup, hmessage⟩, hne, hle⟩
    exact ⟨hne, hrecipient, rfl, rfl, Int.ofNat_le.mpr hle, hposted, hcontact, hgroup, hmessage⟩

theorem returns_retireReceiptCovered (s : Store) (chatId senderUserId : Bytes) (through : Nat) :
    (retireReceiptCovered chatId senderUserId through).Returns s () { s with
      outboundEnvelopes := s.outboundEnvelopes.filter fun row =>
        ¬ (through ≠ 0 ∧ s.covered chatId senderUserId through row) } := by
  unfold retireReceiptCovered
  by_cases hzero : through = 0
  · rw [if_pos hzero, returns_pure]
    simp [hzero]
  · rw [if_neg hzero, returns_write]
    simp [hzero]

theorem Store.postRow_rows (msgId : Bytes) (postedAtMs : Int) :
    (s.postRow msgId postedAtMs).outboundEnvelopes =
      s.outboundEnvelopes.map (stamp (.relayPosted msgId postedAtMs)) := rfl

/-- The row goes when the watermark of `receipt` is applied. -/
def Store.CoveredBy (s : Store) (row : OutboundEnvelopeRow) (receipt : ReceiptRow) : Prop :=
  receipt.throughLamport ≠ 0 ∧
    s.covered receipt.chatId receipt.senderUserId receipt.throughLamport row

instance (row : OutboundEnvelopeRow) : DecidablePred (s.CoveredBy row) :=
  fun _ => inferInstanceAs (Decidable (_ ∧ _))

theorem returns_retireEach (receipts : List ReceiptRow) (s : Store) :
    (retireEach receipts).Returns s () { s with
      outboundEnvelopes := s.outboundEnvelopes.filter fun row =>
        ¬ ∃ receipt ∈ receipts, s.CoveredBy row receipt } := by
  induction receipts generalizing s with
  | nil => simp [retireEach]
  | cons receipt rest ih =>
    have hrows : ((s.outboundEnvelopes.filter fun row => ¬ s.CoveredBy row receipt).filter
          fun row => ¬ ∃ receipt ∈ rest, s.CoveredBy row receipt) =
        s.outboundEnvelopes.filter
          fun row => ¬ ∃ held ∈ receipt :: rest, s.CoveredBy row held := by
      rw [filter_filter]
      refine filter_congr fun row _ => ?_
      simp [Bool.and_comm]
    unfold retireEach
    rw [returns_bind, ← hrows]
    exact ⟨(), _, returns_retireReceiptCovered s _ _ _, ih _⟩

/-- The receipts the sweep goes over. -/
def Store.deliveredReceipts (s : Store) : List ReceiptRow :=
  s.receipts.filter fun receipt => receipt.receiptType = 1 ∧ 0 < asI64 receipt.throughLamport

namespace Store.QueueSound
variable (h : s.QueueSound)
include h

/-- Where only the stream of one chat and sender has rows that are due, retiring that stream
is retiring what is due. -/
theorem retire_stream (hstream : ∀ row ∈ s.outboundEnvelopes, s.Due s.deliveredWatermark row →
      row.chatId = chatId ∧ row.senderUserId = senderUserId) :
    (retireReceiptCovered chatId senderUserId (s.deliveredWatermark chatId senderUserId)).final s =
      s.retireDue := by
  have hthrough : s.deliveredWatermark chatId senderUserId < 2 ^ 63 := by
    rw [h.deliveredWatermark_eq]
    exact h.receiptThrough_lt
  have hrows : (s.outboundEnvelopes.filter fun row =>
      ¬ (s.deliveredWatermark chatId senderUserId ≠ 0 ∧
        s.covered chatId senderUserId (s.deliveredWatermark chatId senderUserId) row)) =
      s.outboundEnvelopes.filter fun row => ¬ s.Due s.deliveredWatermark row := by
    refine filter_congr fun row hrow => decide_eq_decide.mpr (not_congr ?_)
    rw [covered_iff (h.lamports row hrow) hthrough]
    constructor
    · rintro ⟨_, _, hdue⟩
      exact hdue
    · intro hdue
      exact ⟨(hstream row hrow hdue).1, (hstream row hrow hdue).2, hdue⟩
  rw [(returns_retireReceiptCovered s _ _ _).2, hrows]
  rfl

variable (chatId senderUserId) in
/-- A receipt makes rows of its own stream due, if it is one of delivery. -/
theorem due_raiseReceipt (hset : s.Settled)
    (receiptType : UInt8) (hrange : throughLamport < 2 ^ 63) :
    let raised := s.raiseReceipt chatId senderUserId receiptType throughLamport
    ∀ row ∈ raised.outboundEnvelopes, raised.Due raised.deliveredWatermark row →
      row.chatId = chatId ∧ row.senderUserId = senderUserId ∧ receiptType = receiptTypeDelivered := by
  intro raised row hrow hdue
  by_cases hkey : chatId = row.chatId ∧ senderUserId = row.senderUserId ∧
      receiptType = receiptTypeDelivered
  · exact ⟨hkey.1.symm, hkey.2.1.symm, hkey.2.2⟩
  -- the row's watermark did not move, so it was due before
  have hsame : raised.deliveredWatermark row.chatId row.senderUserId =
      s.deliveredWatermark row.chatId row.senderUserId := by
    rw [(h.raiseReceipt hrange).deliveredWatermark_eq, h.deliveredWatermark_eq,
      h.receiptThrough_raiseReceipt hrange, if_neg hkey]
  have hbefore : s.Due s.deliveredWatermark row :=
    Store.Due.mono hdue rfl rfl rfl (le_of_eq hsame) []
  exact absurd hbefore (hset row hrow)

/-- `record_receipt`, when it is not refused, on a queue where nothing is due. -/
theorem final_recordReceipt (hset : s.Settled)
    {receiptType : UInt8} (hvalid : validateReceiptWatermark receiptType throughLamport = .ok ()) :
    (recordReceipt chatId senderUserId receiptType throughLamport).final s =
      (s.raiseReceipt chatId senderUserId receiptType throughLamport).retireDue := by
  have hrange := validateReceiptWatermark_range hvalid
  have hdue := h.due_raiseReceipt chatId senderUserId hset receiptType hrange
  unfold recordReceipt
  rw [hvalid, lift_ok_bind]
  by_cases hdelivered : receiptType = receiptTypeDelivered
  · rw [if_pos hdelivered, ← (h.raiseReceipt hrange).retire_stream fun row hrow hrowDue =>
      ⟨(hdue row hrow hrowDue).1, (hdue row hrow hrowDue).2.1⟩]
    exact (transaction_ok rfl).2
  · rw [if_neg hdelivered, Store.Settled.retireDue_eq fun row hrow hrowDue =>
      hdelivered (hdue row hrow hrowDue).2.2]
    exact (transaction_ok rfl).2

theorem postRow (msgId : Bytes) (postedAtMs : Int) :
    (s.postRow msgId postedAtMs).QueueSound where
  msgIds := by
    have hids : (s.postRow msgId postedAtMs).outboundEnvelopes.map (·.msgId) =
        s.outboundEnvelopes.map (·.msgId) :=
      map_key_update (f := OutboundEnvelopeRow.post postedAtMs) (fun _ => rfl) _
    rw [hids]
    exact h.msgIds
  lamports row hrow := by
    rw [postRow_rows] at hrow
    obtain ⟨held, hheld, rfl⟩ := mem_map.mp hrow
    obtain ⟨at?, heq, _⟩ := stamp_eq (.relayPosted msgId postedAtMs) held
    rw [heq]
    exact h.lamports held hheld
  subjects := h.subjects
  throughs := h.throughs

/-- The hook behind a stamp, on a queue where no other row is due. -/
theorem final_retireCoveredAfterRelayPost
    (hdue : ∀ row ∈ s.outboundEnvelopes, s.Due s.deliveredWatermark row → row.msgId = msgId) :
    (retireCoveredAfterRelayPost msgId).final s = s.retireDue := by
  unfold retireCoveredAfterRelayPost
  rw [final_inspect_bind]
  split
  · -- the row is not one that can ever retire
    rename_i hnone
    have hset : s.Settled := by
      intro row hrow hrowDue
      have hnot := List.find?_eq_none.mp hnone row hrow
      exact hnot (decide_eq_true ⟨hdue row hrow hrowDue, hrowDue.2.1.1, hrowDue.2.1.2.1⟩)
    exact hset.retireDue_eq.symm
  · rename_i found hsome
    rw [final_inspect_bind]
    have hpicked := List.find?_some hsome
    have hfound : found.msgId = msgId := (of_decide_eq_true hpicked).1
    refine h.retire_stream fun row hrow hrowDue => ?_
    have hid : row.msgId = found.msgId := (hdue row hrow hrowDue).trans hfound.symm
    obtain rfl := eq_of_key_eq h.msgIds hrow (mem_of_find?_eq_some hsome) hid
    exact ⟨rfl, rfl⟩

/-- `mark_outbound_envelope_relay_posted` on a queue where nothing is due. -/
theorem final_markPosted (hset : s.Settled) (msgId : Bytes)
    (postedAtMs : Int) : (markOutboundEnvelopeRelayPosted msgId postedAtMs).final s =
      (s.postRow msgId postedAtMs).retireDue := by
  have hdue : ∀ row ∈ (s.postRow msgId postedAtMs).outboundEnvelopes,
      s.Due s.deliveredWatermark row → row.msgId = msgId := by
    -- a stamp makes the row it is put on due, or none
    intro row hrow hdue
    rw [postRow_rows] at hrow
    obtain ⟨held, hheld, rfl⟩ := mem_map.mp hrow
    rw [msgId_stamp]
    by_contra hid
    have hsame : stamp (.relayPosted msgId postedAtMs) held = held := if_neg hid
    rw [hsame] at hdue
    exact hset held hheld hdue
  by_cases hchanged : 0 < s.outboundEnvelopes.countP fun row => row.msgId = msgId
  · rw [← (h.postRow msgId postedAtMs).final_retireCoveredAfterRelayPost hdue]
    refine (transaction_ok (a := true) ?_).2
    simp only [Tx.bind_apply, Tx.get_apply, Tx.modify_apply, Except.bind, if_pos hchanged,
      decide_eq_true hchanged]
    rfl
  · have hnone : (s.postRow msgId postedAtMs).Settled := by
      intro row hrow hrowDue
      have hid := hdue row hrow hrowDue
      rw [postRow_rows] at hrow
      obtain ⟨held, hheld, rfl⟩ := mem_map.mp hrow
      rw [msgId_stamp] at hid
      exact hchanged (countP_pos_iff.mpr ⟨held, hheld, decide_eq_true hid⟩)
    rw [hnone.retireDue_eq]
    refine (transaction_ok (a := false) ?_).2
    simp only [Tx.bind_apply, Tx.get_apply, Tx.modify_apply, Except.bind, if_neg hchanged,
      decide_eq_false hchanged]
    rfl

/-! The sweep. -/

theorem deliveredWatermark_of_mem (hmem : receipt ∈ s.receipts)
    (htype : receipt.receiptType = receiptTypeDelivered) :
    s.deliveredWatermark receipt.chatId receipt.senderUserId = receipt.throughLamport := by
  have hfound : Table.lookup ReceiptRow.subject
      (receipt.chatId, receipt.senderUserId, receiptTypeDelivered) s.receipts = some receipt :=
    htype ▸ lookup_of_mem h.subjects hmem
  rw [h.deliveredWatermark_eq, receiptThrough_eq, hfound]
  rfl

theorem coveredBy_iff (hrow : row ∈ s.outboundEnvelopes)
    (hmem : receipt ∈ s.receipts) (htype : receipt.receiptType = receiptTypeDelivered) :
    s.CoveredBy row receipt ↔
      row.chatId = receipt.chatId ∧ row.senderUserId = receipt.senderUserId ∧
        s.Due s.deliveredWatermark row := by
  have hthrough := h.deliveredWatermark_of_mem hmem htype
  have hrange : s.deliveredWatermark receipt.chatId receipt.senderUserId < 2 ^ 63 :=
    hthrough ▸ h.throughs receipt hmem
  unfold Store.CoveredBy
  rw [← covered_iff (h.lamports row hrow) hrange, hthrough]

/-- What the sweep finds due is due. -/
theorem exists_coveredBy_iff (hrow : row ∈ s.outboundEnvelopes) :
    (∃ receipt ∈ s.deliveredReceipts, s.CoveredBy row receipt) ↔
      s.Due s.deliveredWatermark row := by
  constructor
  · rintro ⟨receipt, hmem, hcovered⟩
    obtain ⟨hheld, hpicked⟩ := mem_filter.mp hmem
    have htype : receipt.receiptType = receiptTypeDelivered := (of_decide_eq_true hpicked).1
    exact ((h.coveredBy_iff hrow hheld htype).mp hcovered).2.2
  intro hdue
  -- a watermark that covers something is one that is stored
  have hpos : 0 < s.receiptThrough row.chatId row.senderUserId receiptTypeDelivered := by
    rw [← h.deliveredWatermark_eq]
    exact (of_decide_eq_true hdue.2.2).1
  rw [receiptThrough_eq] at hpos
  cases hfound : Table.lookup ReceiptRow.subject
      (row.chatId, row.senderUserId, receiptTypeDelivered) s.receipts with
  | none =>
    rw [hfound] at hpos
    exact absurd hpos (lt_irrefl 0)
  | some receipt =>
    rw [hfound] at hpos
    have hheld := mem_of_lookup hfound
    have hsubject := key_of_lookup hfound
    simp only [ReceiptRow.subject, Prod.mk.injEq] at hsubject
    obtain ⟨hchat, hsender, htype⟩ := hsubject
    have hpositive : 0 < asI64 receipt.throughLamport := by
      rw [asI64_of_lt (h.throughs receipt hheld)]
      exact Int.natCast_pos.mpr hpos
    refine ⟨receipt, mem_filter.mpr ⟨hheld, decide_eq_true ⟨htype, hpositive⟩⟩, ?_⟩
    exact (h.coveredBy_iff hrow hheld htype).mpr ⟨hchat.symm, hsender.symm, hdue⟩

/-- `sweep_receipt_covered`. -/
theorem final_sweep :
    sweepReceiptCovered.final s = s.retireDue := by
  have hrows : (s.outboundEnvelopes.filter fun row =>
      ¬ ∃ receipt ∈ s.deliveredReceipts, s.CoveredBy row receipt) =
      s.outboundEnvelopes.filter fun row => ¬ s.Due s.deliveredWatermark row :=
    filter_congr fun row hrow => decide_eq_decide.mpr (not_congr (h.exists_coveredBy_iff hrow))
  have hswept := (returns_retireEach s.deliveredReceipts s).2
  rw [hrows] at hswept
  exact hswept

end Store.QueueSound
end Hooks

/-! ## Steps and runs -/

section Runs
variable {s s' s'' : Store} {steps steps' : List QueueStep}

theorem Retired.settled (h : Retired s steps s') : s'.Settled := by
  intro row hrow
  rw [h.queue] at hrow
  exact of_decide_eq_true (mem_filter.mp hrow).2

/-- One run after another. -/
theorem Retired.trans (h : Retired s steps s') (h' : Retired s' steps' s'') :
    Retired s (steps ++ steps') s'' where
  contacts := h'.contacts.trans h.contacts
  groups := h'.groups.trans h.groups
  messages := h'.messages.trans h.messages
  through chatId senderUserId receiptType := by
    rw [h'.through, h.through, Nat.max_assoc]
    unfold received
    rw [filterMap_append, toFinset_append, Finset.sup_union]
  queue := by
    have hstays : ∀ row, s'.Due s'.deliveredWatermark row →
        s''.Due s''.deliveredWatermark (stamped steps' row) := by
      intro row hdue
      refine hdue.mono h'.contacts h'.groups h'.messages ?_ steps'
      rw [h.sound.deliveredWatermark_eq, h'.sound.deliveredWatermark_eq, h'.through]
      exact le_max_left _ _
    rw [h'.queue, h.queue, filter_map_filter hstays, map_map,
      stamped_append]
  sound := h'.sound

/-- A change of stamps and watermarks, after which what is due is retired. -/
theorem Store.QueueSound.retired (h : s'.QueueSound) (hcontacts : s'.contacts = s.contacts)
    (hgroups : s'.groups = s.groups) (hmessages : s'.messages = s.messages)
    (hthrough : ∀ chatId senderUserId receiptType,
      s'.receiptThrough chatId senderUserId receiptType =
        max (s.receiptThrough chatId senderUserId receiptType)
          (received steps chatId senderUserId receiptType))
    (hqueue : s'.outboundEnvelopes = s.outboundEnvelopes.map (stamped steps)) :
    Retired s steps s'.retireDue where
  contacts := hcontacts
  groups := hgroups
  messages := hmessages
  through := hthrough
  queue := by
    rw [← hqueue]
    rfl
  sound := h.retireDue

/-- The sweep retires what is due, and that is all. -/
theorem Store.QueueSound.retired_sweep (h : s.QueueSound) :
    Retired s [] (sweepReceiptCovered.final s) := by
  rw [h.final_sweep]
  refine h.retired rfl rfl rfl (fun _ _ _ => ?_) ?_
  · rw [received_nil, Nat.max_zero]
  · exact (map_id _).symm

/-- One step. -/
theorem Store.QueueSound.retired_queueStep (h : s.QueueSound) (hset : s.Settled)
    (step : QueueStep) : Retired s [step] (s.queueStep step) := by
  cases step with
  | receipt chatId senderUserId receiptType throughLamport =>
    show Retired s _ ((recordReceipt chatId senderUserId receiptType throughLamport).final s)
    cases hvalid : validateReceiptWatermark receiptType throughLamport with
    | error e =>
      have hrefused : (recordReceipt chatId senderUserId receiptType throughLamport).final s =
          s.retireDue := by
        unfold recordReceipt
        rw [hvalid, hset.retireDue_eq]
        rfl
      rw [hrefused]
      refine h.retired rfl rfl rfl (fun chat sender type => ?_) (map_id _).symm
      rw [received_singleton]
      simp [brings, hvalid, Except.toOption]
    | ok _ =>
      have hrange := validateReceiptWatermark_range hvalid
      rw [h.final_recordReceipt hset hvalid]
      refine (h.raiseReceipt hrange).retired rfl rfl rfl (fun chat sender type => ?_)
        (map_id _).symm
      rw [h.receiptThrough_raiseReceipt hrange, received_singleton]
      by_cases hkey : chatId = chat ∧ senderUserId = sender ∧ receiptType = type
      · obtain ⟨rfl, rfl, rfl⟩ := hkey
        simp [brings, hvalid, Except.toOption]
      · simp [brings, hkey]
  | relayPosted msgId postedAtMs =>
    show Retired s _ ((markOutboundEnvelopeRelayPosted msgId postedAtMs).final s)
    rw [h.final_markPosted hset]
    refine (h.postRow msgId postedAtMs).retired rfl rfl rfl (fun _ _ _ => ?_) rfl
    rw [received_singleton]
    exact (Nat.max_zero _).symm

/-- Every step of a run, and so the run. -/
theorem Store.QueueSound.retired_run (h : s.QueueSound) (hset : s.Settled)
    (steps : List QueueStep) : Retired s steps (steps.foldl queueStep s) := by
  induction steps generalizing s with
  | nil =>
    have hnone := h.retired_sweep
    rwa [h.final_sweep, hset.retireDue_eq] at hnone
  | cons step rest ih =>
    have hstep := h.retired_queueStep hset step
    exact hstep.trans (ih hstep.sound hstep.settled)

/-! ## The order of the steps -/

/-- The largest delivered watermark received for a chat and a sender, before the run or
in it. -/
def Store.deliveredThrough (s : Store) (steps : List QueueStep) (chatId senderUserId : Bytes) :
    Nat :=
  max (s.receiptThrough chatId senderUserId receiptTypeDelivered)
    (received steps chatId senderUserId receiptTypeDelivered)

/-- The queue after a run, from the queue before it and what was received. -/
theorem Retired.queue_eq (h : Retired s steps s') :
    s'.outboundEnvelopes = (s.outboundEnvelopes.map (stamped steps)).filter
      fun row => ¬ s.Due (s.deliveredThrough steps) row := by
  have hthrough : s'.deliveredWatermark = s.deliveredThrough steps := by
    funext chatId senderUserId
    rw [h.sound.deliveredWatermark_eq, h.through]
    rfl
  rw [h.queue, hthrough]
  refine filter_congr fun row _ => decide_eq_decide.mpr (not_congr ?_)
  unfold Store.Due Store.Retirable
  rw [h.contacts, h.groups, h.messages]

/-- The row without the time of its stamp. -/
def OutboundEnvelopeRow.untimed (row : OutboundEnvelopeRow) : OutboundEnvelopeRow :=
  { row with relayPostedAt := row.relayPostedAt.map fun _ => 0 }

/-- A row is posted when it was, or when one of the steps posts it. -/
theorem QueueStep.posted_stamped (steps : List QueueStep) (row : OutboundEnvelopeRow) :
    (stamped steps row).relayPostedAt.isSome ↔
      row.relayPostedAt.isSome ∨ ∃ postedAtMs, .relayPosted row.msgId postedAtMs ∈ steps := by
  induction steps generalizing row with
  | nil => simp [stamped]
  | cons step rest ih =>
    have hrest := ih (step.stamp row)
    rw [msgId_stamp] at hrest
    refine hrest.trans ?_
    cases step with
    | receipt chatId senderUserId receiptType throughLamport => simp [stamp]
    | relayPosted msgId postedAtMs =>
      by_cases hid : row.msgId = msgId
      · subst hid
        simp only [stamp, if_pos, OutboundEnvelopeRow.post, Option.isSome_some, true_or, true_iff]
        exact .inr ⟨postedAtMs, mem_cons_self⟩
      · simp [stamp, hid]

theorem QueueStep.untimed_stamped (steps : List QueueStep) (row : OutboundEnvelopeRow) :
    (stamped steps row).untimed = { row with
      relayPostedAt := if (stamped steps row).relayPostedAt.isSome then some 0 else none } := by
  obtain ⟨at?, hrow, _⟩ := stamped_eq steps row
  rw [hrow]
  cases at? <;> rfl

/-- The same steps in another order, and any number of times, leave the same queue. -/
theorem Retired.queue_congr (h : Retired s steps s') (h' : Retired s steps' s'')
    (hsame : ∀ step, step ∈ steps' ↔ step ∈ steps) :
    s''.outboundEnvelopes.map (·.untimed) = s'.outboundEnvelopes.map (·.untimed) := by
  have hthrough : s.deliveredThrough steps' = s.deliveredThrough steps := by
    -- neither the order nor the number of times matters
    have hreceived : received steps' = received steps := by
      funext chatId senderUserId receiptType
      unfold received
      congr 1
      ext through
      simp [hsame]
    funext chatId senderUserId
    unfold deliveredThrough
    rw [hreceived]
  have hrow : ∀ row, (stamped steps' row).untimed =
      (stamped steps row).untimed := by
    intro row
    have hposted : (stamped steps' row).relayPostedAt.isSome ↔
        (stamped steps row).relayPostedAt.isSome := by
      rw [posted_stamped, posted_stamped]
      simp only [hsame]
    rw [untimed_stamped, untimed_stamped]
    simp only [hposted]
  -- whether a row is due does not depend on when it was posted
  have hforget : ∀ rows : List OutboundEnvelopeRow,
      (rows.filter fun row => ¬ s.Due (s.deliveredThrough steps) row).map (·.untimed) =
        (rows.map (·.untimed)).filter fun row => ¬ s.Due (s.deliveredThrough steps) row := by
    intro rows
    rw [filter_map]
    congr 1
    refine filter_congr fun row _ => decide_eq_decide.mpr (not_congr ?_)
    unfold Store.Due OutboundEnvelopeRow.untimed
    rw [Option.isSome_map]
    exact Iff.rfl
  rw [h.queue_eq, h'.queue_eq, hthrough, hforget, hforget, map_map, map_map]
  congr 2
  funext row
  exact hrow row

end Runs

/-- Receipts and stamps, in any order and any number of times, take from the queue the rows
that the relay has carried, that are one to one with a contact, whose message is kept, and
that the largest delivered watermark received covers, and no others. A run begins with the
sweep of `open`, which does nothing where no receipt has been stored. -/
theorem outbound_retirement_exact (s : Store) (hs : s.QueueSound) (steps : List QueueStep) :
    let start := sweepReceiptCovered.final s
    let last := steps.foldl queueStep start
    (s.receipts = [] → start = s) ∧
    (last.outboundEnvelopes = (s.outboundEnvelopes.map (QueueStep.stamped steps)).filter
      fun row => ¬ s.Due (s.deliveredThrough steps) row) ∧
    (∀ steps' : List QueueStep, (∀ step, step ∈ steps' ↔ step ∈ steps) →
      (steps'.foldl queueStep start).outboundEnvelopes.map (·.untimed) =
        last.outboundEnvelopes.map (·.untimed)) ∧
    (∀ chatId senderUserId receiptType, last.receiptThrough chatId senderUserId receiptType =
      max (s.receiptThrough chatId senderUserId receiptType)
        (QueueStep.received steps chatId senderUserId receiptType)) ∧
    sweepReceiptCovered.final last = last ∧
    ∀ envelope, last.backfillRejoinsTheQueue envelope = true →
      supersedesQueuedGenerations envelope.kind = false ∧
        (s.deliveredThrough steps envelope.chatId envelope.senderUserId = 0 ∨
          s.deliveredThrough steps envelope.chatId envelope.senderUserId < envelope.lamport) := by
  intro start last
  have hstart : Retired s [] start := hs.retired_sweep
  have hrun : ∀ steps', Retired s steps' (steps'.foldl queueStep start) := fun steps' =>
    hstart.trans (hstart.sound.retired_run hstart.settled steps')
  have hlast : Retired s steps last := hrun steps
  refine ⟨fun hnone => ?_, hlast.queue_eq, fun steps' hsame => hlast.queue_congr (hrun steps') hsame,
    hlast.through, ?_, fun envelope hrejoins => ?_⟩
  · show (retireEach (s.receipts.filter _)).final s = s
    rw [hnone]
    rfl
  · rw [hlast.sound.final_sweep, hlast.settled.retireDue_eq]
  have hthrough : last.deliveredWatermark envelope.chatId envelope.senderUserId =
      s.deliveredThrough steps envelope.chatId envelope.senderUserId := by
    rw [hlast.sound.deliveredWatermark_eq, hlast.through]
    rfl
  unfold backfillRejoinsTheQueue coveredByDeliveredWatermark at hrejoins
  split at hrejoins
  · cases hrejoins
  · rename_i hkind
    rw [hthrough] at hrejoins
    simp only [decide_eq_true_eq, not_and, not_le] at hrejoins
    refine ⟨Bool.eq_false_iff.mpr hkind, ?_⟩
    by_cases hzero : s.deliveredThrough steps envelope.chatId envelope.senderUserId = 0
    · exact .inl hzero
    · exact .inr (hrejoins (Nat.pos_of_ne_zero hzero))

/-- A text to a contact, queued under `msgId`. -/
def sampleQueued (lamport : Nat) : OutboundEnvelopeRow where
  msgId := msgId
  recipientUserId := [2]
  chatId := [2]
  senderUserId := [1]
  kind := 1
  lamport := lamport
  timestamp := 10
  hopTtl := 4
  expiry := 1000
  recipientHint := [2]
  body := []
  dedupeKey := msgId
  queuedAt := 10

/-- Three texts to a contact, two of which are kept as messages. -/
def sampleQueue : Store where
  contacts := [{ userId := [2], name := [], signPk := [], agreePk := [] }]
  messages := [
    { id := 1, chatId := [2], senderUserId := [1], senderDeviceId := [], lamport := 1,
      timestamp := 10, kind := 1, payload := [] },
    { id := 2, chatId := [2], senderUserId := [1], senderDeviceId := [], lamport := 2,
      timestamp := 10, kind := 1, payload := [] }]
  outboundEnvelopes := [sampleQueued [11] 1, sampleQueued [12] 2, sampleQueued [13] 3]

/-- All three are covered and two are posted; the one that is both, and has its message,
goes. -/
theorem sample_retirement_exact : sampleQueue.QueueSound ∧
    ([.relayPosted [11] 20, .receipt [2] [1] receiptTypeDelivered 3, .relayPosted [13] 21].foldl
      queueStep (sweepReceiptCovered.final sampleQueue)).outboundEnvelopes =
        [sampleQueued [12] 2, (sampleQueued [13] 3).post 21] := by
  have hsound : sampleQueue.QueueSound := ⟨by decide, by decide, by decide, by decide⟩
  refine ⟨hsound, ?_⟩
  rw [(outbound_retirement_exact sampleQueue hsound _).2.1]
  decide

end CruiseMesh
