import CruiseMesh.Carry.Queue

/-!
# Offering carried envelopes

What a mule shows a peer it meets: pages of the carry queue in the order of arrival, cut
by bytes and by rows, and resumed behind the last row shown. Offering never removes a
row; a row leaves because it expired, or because its recipient was proved to have it.
-/

namespace CruiseMesh
open Durable Prog

def defaultCarriedPageMaxRows : Nat := 64
def u32Max : Nat := 2 ^ 32 - 1

/-- A point in the queue's order. -/
structure CoreCarriedCursor where
  receivedAt : Int
  msgId : Bytes
deriving DecidableEq

structure CoreCarriedSyncPage where
  rows : List CarriedEnvelope
  next : Option CoreCarriedCursor
  exhausted : Bool
deriving DecidableEq

/-- The cursor behind a row. -/
def CarriedRow.cursor (row : CarriedRow) : CoreCarriedCursor := ⟨row.receivedAt, row.msgId⟩

/-- The row comes after the cursor. -/
def CarriedRow.after (row : CarriedRow) (cursor : CoreCarriedCursor) : Prop :=
  cursor.receivedAt < row.receivedAt ∨
    row.receivedAt = cursor.receivedAt ∧ cursor.msgId < row.msgId

instance (row : CarriedRow) (cursor : CoreCarriedCursor) : Decidable (row.after cursor) :=
  inferInstanceAs (Decidable (_ ∨ _))

namespace Carry

/-- The rows of a page query: unexpired, eligible and behind the cursor, the oldest first. -/
def pageRows (eligible : CarriedRow → Bool) (nowMs : Int) (after : Option CoreCarriedCursor)
    (rows : List CarriedRow) : List CarriedRow :=
  (rows.filter fun row =>
    nowMs < row.expiry ∧ eligible row ∧ ∀ cursor ∈ after, row.after cursor).insertionSort
      CarriedRow.Older

/-- The loop of `carried_envelopes_for_hints_page`. -/
def hintsPage (budgetBytes maxRows : Nat) :
    List CarriedRow → List CarriedEnvelope → Option CoreCarriedCursor → Nat → CoreCarriedSyncPage
  | [], selected, next, _ => ⟨selected, next, true⟩
  | row :: rest, selected, next, used =>
    let size := row.body.length
    if maxRows ≤ selected.length then ⟨selected, next, false⟩
    else if 0 < used ∧ budgetBytes < saturatingAdd used size then ⟨selected, next, false⟩
    else if used = 0 ∧ budgetBytes < size then
      -- one row that is larger than the budget is offered alone
      ⟨selected ++ [row.toCarriedEnvelope], some row.cursor, false⟩
    else
      hintsPage budgetBytes maxRows rest (selected ++ [row.toCarriedEnvelope]) (some row.cursor)
        (saturatingAdd used size)

/-- The loop of `carried_envelopes_for_peer_sync`. -/
def peerSyncPage (budgetBytes maxRows : Nat) :
    List CarriedRow → List CarriedEnvelope → Option CoreCarriedCursor → Nat → CoreCarriedSyncPage
  | [], selected, next, _ => ⟨selected, next, true⟩
  | row :: rest, selected, next, used =>
    let size := row.body.length
    if maxRows ≤ selected.length then ⟨selected, next, false⟩
    else if budgetBytes < saturatingAdd used size then
      if selected = [] ∧ 0 < budgetBytes then
        ⟨selected ++ [row.toCarriedEnvelope], some row.cursor, false⟩
      else ⟨selected, next, false⟩
    else
      peerSyncPage budgetBytes maxRows rest (selected ++ [row.toCarriedEnvelope]) (some row.cursor)
        (used + size)

end Carry

namespace Store

/-- `carried_envelopes_for_hints_page`. -/
def carriedEnvelopesForHintsPage (s : Store) (hints : List Bytes) (nowMs : Int)
    (budgetBytes maxRows : Nat) (after : Option CoreCarriedCursor) : CoreCarriedSyncPage :=
  if hints = [] ∨ budgetBytes = 0 ∨ maxRows = 0 then ⟨[], none, hints = []⟩
  else
    Carry.hintsPage budgetBytes maxRows
      (Carry.pageRows (·.recipientHint ∈ hints) nowMs after s.carriedEnvelopes) [] none 0

/-- `carried_envelopes_for_hints`. -/
def carriedEnvelopesForHints (s : Store) (hints : List Bytes) (nowMs : Int) :
    List CarriedEnvelope :=
  (s.carriedEnvelopesForHintsPage hints nowMs u64Max u32Max none).rows

/-- `carried_envelopes_for_peer_sync`. -/
def carriedEnvelopesForPeerSync (s : Store) (peerHints peerKnownMsgIds : List Bytes) (nowMs : Int)
    (budgetBytes maxRows : Nat) (after : Option CoreCarriedCursor) : CoreCarriedSyncPage :=
  if budgetBytes = 0 ∨ maxRows = 0 then ⟨[], none, false⟩
  else
    Carry.peerSyncPage budgetBytes maxRows
      (Carry.pageRows (fun row => row.msgId ∉ peerKnownMsgIds ∧ row.recipientHint ∉ peerHints) nowMs
        after s.carriedEnvelopes) [] none 0

end Store

/-- `remove_carried_envelope`. -/
def removeCarriedEnvelope (msgId : Bytes) : Prog Store CoreError Bool := do
  let held ← inspect fun s => s.carriedEnvelopes.any fun row => row.msgId = msgId
  write fun s => { s with
    carriedEnvelopes := s.carriedEnvelopes.filter fun row => row.msgId ≠ msgId }
  pure held

/-- `prune_expired_carried`. -/
def pruneExpiredCarried (nowMs : Int) : Prog Store CoreError Nat := do
  let expired ← inspect fun s => s.carriedEnvelopes.countP fun row => row.expiry ≤ nowMs
  write fun s => { s with carriedEnvelopes := Carry.unexpired nowMs s.carriedEnvelopes }
  pure expired

/-! ## Confirmed deliveries -/

/-- Remove each candidate the peer has, and count the rows that were there. -/
def confirmEach (known : List Bytes) : List CarriedEnvelope → Nat → Prog Store CoreError Nat
  | [], removed => pure removed
  | candidate :: rest, removed =>
    if candidate.msgId ∈ known then do
      let gone ← removeCarriedEnvelope candidate.msgId
      confirmEach known rest (if gone then removed + 1 else removed)
    else confirmEach known rest removed

/-- `core_confirm_carried_deliveries`. -/
def coreConfirmCarriedDeliveries (P : Primitives) (peerUserId : Bytes)
    (peerKnownMsgIds : List Bytes) (peerAuthenticated : Bool) (nowMs : Int) :
    Prog Store CoreError Nat := do
  if peerAuthenticated = false then pure 0
  else do
    let allowed ← inspect fun s => s.linkGateAllows .ack
    if allowed = false ∨ peerKnownMsgIds = [] then pure 0
    else do
      -- never a group's hints: other members may still need the envelope
      let peerHints := (List.range (carryHintDayWindowDays + 1).toNat).map fun (daysAgo : Nat) =>
        computeRecipientHint P peerUserId (nowMs - daysAgo * msPerDay)
      let candidates ← inspect fun s => s.carriedEnvelopesForHints peerHints nowMs
      confirmEach peerKnownMsgIds candidates 0

end CruiseMesh
