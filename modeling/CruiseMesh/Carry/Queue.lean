import CruiseMesh.Lib.Shed
import CruiseMesh.Routing.Ack

/-!
# The carry queue

Envelopes under way to others wait in `carried_envelopes`. Admission is one transaction:
insert the candidate, prune what has expired, ask whether it can fit at all once every
other foreign row is gone, and only then evict foreign rows, the oldest first, until both
byte budgets hold. A row for someone this device knows is never evicted.

The diagnostics events of the source are left out: they are written beside the queue and
nothing here reads them.
-/

namespace CruiseMesh
open Durable

def defaultHopTtl : UInt8 := 7
def maxCarryFutureMs : Int := 30 * msPerDay
def carriedContentDigestLen : Nat := 32
def defaultTotalCarryBudgetBytes : Int := 64 * 1024 * 1024

def carryAdmissionCapacityError : CoreError :=
  .store "carry admission rejected: applicable byte budget cannot fit row"

/-- What admission answers when its two rules disagree. -/
def carryAdmissionMismatchError : CoreError :=
  .store "carry admission feasibility/enforcement mismatch"

/-- `validate_carried_envelope`. -/
def validateCarriedEnvelope (envelope : CarriedEnvelope) (nowMs : Int) : Except CoreError Unit := do
  refuseWhen (defaultHopTtl < envelope.hopTtl) (.malformed "carried envelope hop_ttl exceeds 7")
  refuseWhen (envelope.expiry ≤ nowMs ∨ saturateI64 (nowMs + maxCarryFutureMs) < envelope.expiry)
    (.malformed "carried envelope expiry is outside the accepted window")

/-! ## Queries -/

/-- `ORDER BY received_at ASC, msg_id ASC`. -/
def CarriedRow.Older (a b : CarriedRow) : Prop :=
  a.receivedAt < b.receivedAt ∨ a.receivedAt = b.receivedAt ∧ a.msgId ≤ b.msgId

instance : DecidableRel CarriedRow.Older := fun a b => by unfold CarriedRow.Older; infer_instance

namespace Carry
variable (rows : List CarriedRow)

/-- `SUM(size_bytes)`, which SQLite refuses to wrap around. -/
def sumSizeBytes : Except CoreError Int :=
  let sum := (rows.map (·.sizeBytes)).sum
  if i64Min ≤ sum ∧ sum ≤ i64Max then .ok sum else .error (.store "integer overflow")

def foreign : List CarriedRow := rows.filter (·.isFamily = false)

def family : List CarriedRow := rows.filter (·.isFamily = true)

/-- `DELETE FROM carried_envelopes WHERE expiry <= ?1` leaves these. -/
def unexpired (nowMs : Int) (rows : List CarriedRow) : List CarriedRow :=
  rows.filter (nowMs < ·.expiry)

/-- The foreign rows but the protected one, the oldest first. -/
def victims (candidate : Option Bytes) (rows : List CarriedRow) : List CarriedRow :=
  (rows.filter fun row => row.isFamily = false ∧ candidate ≠ some row.msgId).insertionSort
    CarriedRow.Older

/-! ## Enforcing the budgets -/

/-- `CarriedBudgetEnforcement`. -/
structure BudgetEnforcement where
  evictedRows : Int := 0
  evictedBytes : Int := 0
  totalBytes : Int := 0
  withinBudget : Bool := false
deriving DecidableEq

/-- The table and the local variables of the two enforcement loops. -/
structure Enforcing where
  rows : List CarriedRow
  foreignTotal : Int
  total : Int
  pressure : BudgetEnforcement := {}
deriving DecidableEq

/-- The body the two loops share: delete the oldest foreign row but the candidate. -/
def evictOldest (candidate : Option Bytes) (e : Enforcing) : Option Enforcing :=
  (victims candidate e.rows).head?.map fun oldest =>
    { rows := e.rows.filter (·.msgId ≠ oldest.msgId)
      foreignTotal := saturateI64 (e.foreignTotal - oldest.sizeBytes)
      total := saturateI64 (e.total - oldest.sizeBytes)
      pressure :=
        { e.pressure with
          evictedRows := saturateI64 (e.pressure.evictedRows + 1)
          evictedBytes := saturateI64 (e.pressure.evictedBytes + max oldest.sizeBytes 0) } }

/-- `enforce_carried_budgets_protecting`. Each turn of a loop deletes a row, so there are
no more turns than rows. -/
def enforceCarriedBudgetsProtecting (foreignBudgetBytes totalBudgetBytes : Int)
    (candidate : Option Bytes) : Tx (List CarriedRow) CoreError BudgetEnforcement := do
  let rows ← get
  let foreignTotal ← liftM (sumSizeBytes (foreign rows))
  let total ← liftM (sumSizeBytes rows)
  let foreignBudget := max foreignBudgetBytes 0
  let totalBudget := max totalBudgetBytes 0
  let first := Shed.drain (fun e => foreignBudget < e.foreignTotal) (evictOldest candidate)
    rows.length { rows, foreignTotal, total }
  let second := Shed.drain (fun e => totalBudget < e.total) (evictOldest candidate)
    rows.length first
  set second.rows
  pure { second.pressure with
    totalBytes := max second.total 0
    withinBudget := second.foreignTotal ≤ foreignBudget ∧ second.total ≤ totalBudget }

/-- `carried_admission_can_fit`. -/
def carriedAdmissionCanFit (isFamily : Bool)
    (incomingBytes foreignBudgetBytes totalBudgetBytes : Int) : Except CoreError Bool := do
  let familyBytes ← sumSizeBytes (family rows)
  let totalBudget := max totalBudgetBytes 0
  if isFamily then pure (decide (familyBytes ≤ totalBudget))
  else pure (decide (incomingBytes ≤ max foreignBudgetBytes 0 ∧
    saturateI64 (familyBytes + incomingBytes) ≤ totalBudget))

/-- `finalize_carried_admission`. -/
def finalizeCarriedAdmission (msgId : Bytes) (isFamily : Bool)
    (incomingBytes foreignBudgetBytes totalBudgetBytes : Int) :
    Tx (List CarriedRow) CoreError Bool := do
  let rows ← get
  let fits ← liftM (carriedAdmissionCanFit rows isFamily incomingBytes foreignBudgetBytes
    totalBudgetBytes)
  if fits = false then
    modify fun rows => rows.filter (·.msgId ≠ msgId)
    pure false
  else
    let pressure ← enforceCarriedBudgetsProtecting foreignBudgetBytes totalBudgetBytes (some msgId)
    if pressure.withinBudget = false then throw carryAdmissionMismatchError
    else pure true

/-- `INSERT OR IGNORE INTO carried_envelopes`, whose message ids and content digests are
unique. -/
def insertOrIgnore (row : CarriedRow) (rows : List CarriedRow) : Option (List CarriedRow) :=
  if ∃ held ∈ rows, held.msgId = row.msgId ∨ held.contentDigest = row.contentDigest then none
  else some (rows ++ [row])

/-- The transaction the two enqueueing functions share, with the row they insert. It
answers nothing when the row is carried already. -/
def enqueueRow (row : CarriedRow) (foreignBudgetBytes totalBudgetBytes nowMs : Int) :
    Tx (List CarriedRow) CoreError (Option Bool) := do
  match insertOrIgnore row (← get) with
  | none => pure none
  | some rows =>
    set rows
    modify (unexpired nowMs)
    let admitted ← finalizeCarriedAdmission row.msgId row.isFamily row.sizeBytes
      foreignBudgetBytes totalBudgetBytes
    pure (some admitted)

/-- A transaction that reads and writes the carry queue only. -/
def onQueue {α : Type} (t : Tx (List CarriedRow) CoreError α) : Tx Store CoreError α := fun s =>
  (t s.carriedEnvelopes).map fun r => (r.1, { s with carriedEnvelopes := r.2 })

end Carry

/-! ## The three ways in -/

section Entry
open Carry
variable (P : Primitives)

/-- `carried_content_digest`. -/
def carriedContentDigest (recipientHint body : Bytes) : Bytes :=
  P.blake2b carriedContentDigestLen (recipientHint ++ body)

variable (envelope : CarriedEnvelope)

/-- The columns of an envelope that is carried from now on. -/
def carriedRow (isFamily fromRelay : Bool) (receivedAtMs : Int) : CarriedRow :=
  { envelope with
    isFamily, fromRelay
    receivedAt := receivedAtMs
    sizeBytes := envelope.body.length
    contentDigest := carriedContentDigest P envelope.recipientHint envelope.body }

/-- What an enqueueing function answers once its transaction has committed. -/
def enqueueAnswer : Option Bool → Except CoreError Bool
  | none => .ok false
  | some true => .ok true
  | some false => .error carryAdmissionCapacityError

/-- Validate, run the transaction, answer. -/
def enqueueValidated (row : CarriedRow) (foreignBudgetBytes totalBudgetBytes nowMs : Int) :
    Prog Store CoreError Bool := do
  validateCarriedEnvelope row.toCarriedEnvelope nowMs
  let admitted ← transaction (onQueue (enqueueRow row foreignBudgetBytes totalBudgetBytes nowMs))
  enqueueAnswer admitted

/-- `enqueue_carried_envelope_with_budgets`. -/
def enqueueCarriedEnvelopeWithBudgets (isFamily : Bool)
    (receivedAtMs foreignBudgetBytes totalBudgetBytes : Int) : Prog Store CoreError Bool :=
  enqueueValidated (carriedRow P envelope isFamily false receivedAtMs) foreignBudgetBytes
    totalBudgetBytes receivedAtMs

/-- `enqueue_relay_carried_envelope_with_budget`. -/
def enqueueRelayCarriedEnvelopeWithBudget
    (nowMs totalBudgetBytes : Int) : Prog Store CoreError Bool :=
  enqueueValidated (carriedRow P envelope true true nowMs) i64Max totalBudgetBytes nowMs

/-- `enqueue_carried_envelope`. -/
def enqueueCarriedEnvelope (isFamily : Bool)
    (receivedAtMs foreignBudgetBytes : Int) : Prog Store CoreError Bool :=
  enqueueCarriedEnvelopeWithBudgets P envelope isFamily receivedAtMs foreignBudgetBytes
    defaultTotalCarryBudgetBytes

/-- `enqueue_relay_carried_envelope`. -/
def enqueueRelayCarriedEnvelope (nowMs : Int) : Prog Store CoreError Bool :=
  enqueueRelayCarriedEnvelopeWithBudget P envelope nowMs defaultTotalCarryBudgetBytes

/-- A row of a relay page. -/
structure CoreRelayFetchedEnvelope where
  id : Int
  msgId : Bytes
  hopTtl : UInt8
  recipientHint : Bytes
  body : Bytes
  expiryMs : Int
deriving DecidableEq

/-- The envelope of a fetched row as its header has it. -/
def CoreRelayFetchedEnvelope.carried (envelope : CoreRelayFetchedEnvelope) : CarriedEnvelope where
  msgId := envelope.msgId
  hopTtl := envelope.hopTtl
  expiry := envelope.expiryMs
  recipientHint := envelope.recipientHint
  body := envelope.body

/-- What an ingested page came to. -/
structure CoreRelayPageIngest where
  rows : List CoreRelayEnvelopeDisposition := []
  rowsReturned : Nat
  rowsIngested : Nat := 0
  rowsAlreadyKnown : Nat := 0
  rowsExpired : Nat := 0
  rowsRejected : Nat := 0
  fullyProcessed : Bool := true
deriving DecidableEq

/-- `relay_row_already_known`. -/
def relayRowAlreadyKnown (s : Store) (msgId : Bytes) : Bool :=
  s.messages.any (·.msgId = some msgId) || s.consumedHiddenMsgIds.any (·.msgId = msgId) ||
    s.carriedEnvelopes.any (·.msgId = msgId)

/-- The carried row of a fetched one: fetching from the relay and handing on is a hop. -/
def fetchedRow (envelope : CoreRelayFetchedEnvelope) (nowMs : Int) : CarriedRow :=
  { carriedRow P envelope.carried true true nowMs with
    hopTtl := if envelope.hopTtl = 0 then 0 else envelope.hopTtl - 1 }

/-- What becomes of one row of a page. -/
def ingestRow (envelope : CoreRelayFetchedEnvelope) (nowMs : Int) :
    Tx Store CoreError CoreInboundDisposition := do
  let s ← get
  if envelope.expiryMs ≤ nowMs then pure .expired
  else if (validateCarriedEnvelope envelope.carried nowMs).toOption = none then pure .rejected
  else if relayRowAlreadyKnown s envelope.msgId = true then pure .seen
  else
    let row := fetchedRow P envelope nowMs
    match insertOrIgnore row s.carriedEnvelopes with
    | none => pure .seen
    | some rows =>
      set { s with carriedEnvelopes := rows }
      let admitted ← onQueue (finalizeCarriedAdmission row.msgId true row.sizeBytes i64Max
        defaultTotalCarryBudgetBytes)
      if admitted = true then pure .carried else pure .failed

/-- One row counted into the report. -/
def CoreRelayPageIngest.note (ingest : CoreRelayPageIngest) (envelope : CoreRelayFetchedEnvelope)
    (disposition : CoreInboundDisposition) : CoreRelayPageIngest :=
  { ingest with
    rows := ingest.rows ++ [⟨envelope.id, envelope.msgId, disposition, envelope.recipientHint⟩]
    rowsIngested := ingest.rowsIngested + if disposition = .carried then 1 else 0
    rowsAlreadyKnown := ingest.rowsAlreadyKnown + if disposition = .seen then 1 else 0
    rowsExpired := ingest.rowsExpired + if disposition = .expired then 1 else 0
    rowsRejected := ingest.rowsRejected + if disposition = .rejected then 1 else 0 }

/-- The loop over the rows of a page. -/
def ingestRows (nowMs : Int) : List CoreRelayFetchedEnvelope → CoreRelayPageIngest →
    Tx Store CoreError CoreRelayPageIngest
  | [], ingest => pure ingest
  | envelope :: rest, ingest => do
    let disposition ← ingestRow P envelope nowMs
    ingestRows nowMs rest (ingest.note envelope disposition)

/-- `ingest_relay_page`, without the ids that only name its diagnostics event. -/
def ingestRelayPage (envelopes : List CoreRelayFetchedEnvelope) (nowMs : Int) :
    Prog Store CoreError CoreRelayPageIngest :=
  if envelopes = [] then pure { rowsReturned := 0 }
  else do
    let ingest ← transaction (do
      onQueue (modify (unexpired nowMs))
      ingestRows P nowMs envelopes { rowsReturned := envelopes.length })
    pure { ingest with fullyProcessed := ingest.rows.all (·.disposition ≠ .failed) }

end Entry
end CruiseMesh
