import CruiseMesh.Store.Schema

/-!
# Opening a store

`MessageStore::open` on a file that this build has written. The schema is there, so what
is left of it are its sweeps: rosters, devices and safety facts of people who are not
contacts go, messages of the outbound queue learn their envelope ids, and queued
envelopes that a delivered receipt covers are retired.
-/

namespace CruiseMesh
open Durable Prog

/-! ## Receipt coverage -/

/-- `RETIRE_COVERED_SQL`: a one-to-one envelope of `senderUserId` at or below the delivered
watermark, which the relay has carried and whose message is kept. -/
def Store.covered (s : Store) (chatId senderUserId : Bytes) (throughLamport : Nat)
    (row : OutboundEnvelopeRow) : Prop :=
  row.recipientUserId = chatId ∧ row.chatId = chatId ∧ row.senderUserId = senderUserId ∧
    asI64 row.lamport ≤ asI64 throughLamport ∧ row.relayPostedAt.isSome ∧
    (∃ contact ∈ s.contacts, contact.userId = chatId) ∧
    (¬ ∃ group ∈ s.groups, group.groupId = chatId) ∧
    ∃ message ∈ s.messages, message.chatId = row.chatId ∧
      message.senderUserId = row.senderUserId ∧ message.lamport = row.lamport

instance (s : Store) (chatId senderUserId : Bytes) (through : Nat) (row : OutboundEnvelopeRow) :
    Decidable (s.covered chatId senderUserId through row) :=
  inferInstanceAs (Decidable (_ ∧ _))

/-- `retire_receipt_covered`. -/
def retireReceiptCovered (chatId senderUserId : Bytes) (throughLamport : Nat) :
    Prog Store CoreError Unit :=
  if throughLamport = 0 then pure ()
  else write fun s => { s with
    outboundEnvelopes := s.outboundEnvelopes.filter fun row =>
      ¬ s.covered chatId senderUserId throughLamport row }

/-- The loop of `sweep_receipt_covered`. -/
def retireEach : List ReceiptRow → Prog Store CoreError Unit
  | [] => pure ()
  | receipt :: rest => do
    retireReceiptCovered receipt.chatId receipt.senderUserId receipt.throughLamport
    retireEach rest

/-- `sweep_receipt_covered`. -/
def sweepReceiptCovered : Prog Store CoreError Unit := do
  let delivered ← inspect fun s => s.receipts.filter fun receipt =>
    receipt.receiptType = 1 ∧ 0 < asI64 receipt.throughLamport
  retireEach delivered

/-! ## The other sweeps -/

/-- The person is a contact. -/
def Store.isContact (s : Store) (userId : Bytes) : Bool :=
  s.contacts.any fun contact => contact.userId = userId

/-- `roster_store::sweep_orphaned_persons`. -/
def sweepOrphanedRosters : Prog Store CoreError Unit := do
  write fun s => { s with
    contactRosters := s.contactRosters.filter fun row => s.isContact row.personUserId }
  write fun s => { s with
    contactDevices := s.contactDevices.filter fun row => s.isContact row.personUserId }

/-- `contact_safety::sweep_orphaned_persons`. -/
def sweepOrphanedSafetyFacts : Prog Store CoreError Unit :=
  write fun s => { s with
    contactSafetyFacts := s.contactSafetyFacts.filter fun row => s.isContact row.personUserId }

/-- The id of the envelope that was queued first for a message. -/
def Store.queuedMsgId (s : Store) (message : MessageRow) : Option Bytes :=
  ((s.outboundEnvelopes.filter fun row => row.chatId = message.chatId ∧
    row.senderUserId = message.senderUserId ∧ row.lamport = message.lamport).insertionSort
      fun a b => a.queuedAt ≤ b.queuedAt).head?.map (·.msgId)

/-- Messages of the legacy stream without an id take the one of their queued envelope. -/
def backfillMsgIds : Prog Store CoreError Unit :=
  write fun s => { s with
    messages := s.messages.map fun message =>
      if message.msgId = none ∧ message.senderDeviceId = legacyDeviceId then
        { message with msgId := s.queuedMsgId message }
      else message }

/-- `MessageStore::open`. -/
def openStore : Prog Store CoreError Unit := do
  sweepOrphanedRosters
  sweepOrphanedSafetyFacts
  backfillMsgIds
  sweepReceiptCovered

/-! ## What opening leaves alone -/

section Frames
variable {τ : Type} {view : Store → τ}

theorem keeps_retireReceiptCovered
    (hview : ∀ s rows, view { s with outboundEnvelopes := rows } = view s)
    (chatId senderUserId : Bytes) (throughLamport : Nat) :
    (retireReceiptCovered chatId senderUserId throughLamport).Keeps view := by
  unfold retireReceiptCovered
  split
  · exact keeps_pure _
  · exact keeps_write fun s => hview s _

theorem keeps_retireEach
    (hview : ∀ s rows, view { s with outboundEnvelopes := rows } = view s) :
    ∀ receipts : List ReceiptRow, (retireEach receipts).Keeps view
  | [] => keeps_pure _
  | _ :: rest =>
    keeps_bind (keeps_retireReceiptCovered hview _ _ _) fun _ => keeps_retireEach hview rest

/-- What opening does to the contact rosters, and that it leaves what else is in `view`
alone. -/
theorem view_openStore (view : Store → τ)
    (hdevices : ∀ s rows, view { s with contactDevices := rows } = view s)
    (hfacts : ∀ s rows, view { s with contactSafetyFacts := rows } = view s)
    (hmessages : ∀ s rows, view { s with messages := rows } = view s)
    (hqueue : ∀ s rows, view { s with outboundEnvelopes := rows } = view s) (s : Store) :
    view (openStore.final s) = view { s with
      contactRosters := s.contactRosters.filter fun row => s.isContact row.personUserId } := by
  have hrest : (do sweepOrphanedSafetyFacts; backfillMsgIds; sweepReceiptCovered :
      Prog Store CoreError Unit).Keeps view := by
    refine keeps_bind (keeps_write fun s => hfacts s _) fun _ => ?_
    refine keeps_bind (keeps_write fun s => hmessages s _) fun _ => ?_
    exact keeps_inspect_bind fun _ => keeps_retireEach hqueue _
  unfold openStore
  rw [view_final_bind view fun _ => hrest]
  unfold sweepOrphanedRosters
  rw [view_final_bind view fun _ => keeps_write fun s => hdevices s _]
  rfl

end Frames
end CruiseMesh
