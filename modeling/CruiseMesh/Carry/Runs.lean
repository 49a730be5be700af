import CruiseMesh.Carry.Budget
import CruiseMesh.Lib.Runs

/-!
# The carry queue over whole runs

The three ways into the queue (a foreign envelope met on the mesh, one fetched from the
relay for someone else, and a whole relay page) as one step function, and what any
sequence of them keeps: the byte budgets, the family rows, and that nothing goes which did
not have to.
-/

namespace CruiseMesh
open Durable Prog List Runs

namespace Carry

/-! ## What one call leaves of the queue -/

section Outcome
variable {foreignBudget totalBudget nowMs : Int} {before after : List CarriedRow} {ids : List Bytes}

/-- A call that reports the envelopes `ids` as admitted left the queue so. -/
structure Outcome (foreignBudget totalBudget nowMs : Int) (before after : List CarriedRow)
    (ids : List Bytes) : Prop where
  ok : QueueOk after
  pressure : ∃ admitted gone, admitted.map (·.msgId) = ids ∧
    Admission foreignBudget totalBudget (unexpired nowMs before) admitted gone (unexpired nowMs after)
  /-- An admission prunes the queue first. -/
  pruned : ids ≠ [] → unexpired nowMs after = after
  /-- Without one it does not grow. -/
  shrinks : ids = [] → after.Sublist before

theorem unexpired_sublist : (unexpired nowMs before).Sublist before := filter_sublist

/-- The queue is as it was, or it was pruned and nothing else. -/
theorem Outcome.of_rejected (hok : QueueOk before)
    (h : after = before ∨ after = unexpired nowMs before) :
    Outcome foreignBudget totalBudget nowMs before after [] := by
  have hsub : after.Sublist before := by
    rcases h with rfl | rfl
    · exact List.Sublist.refl _
    · exact unexpired_sublist
  have hsame : unexpired nowMs after = unexpired nowMs before := by
    rcases h with rfl | rfl
    · rfl
    · unfold unexpired
      rw [filter_filter]
      exact filter_congr fun row _ => Bool.and_self _
  refine ⟨hok.sublist hsub, ⟨[], [], rfl, ?_⟩, fun hne => absurd rfl hne, fun _ => hsub⟩
  rw [hsame]
  exact Admission.refl _ _ _

/-- Rows that have not expired were admitted to the pruned queue. -/
theorem Outcome.of_admission {admitted gone : List CarriedRow} (hok : QueueOk after)
    (h : Admission foreignBudget totalBudget (unexpired nowMs before) admitted gone after)
    (hlive : ∀ row ∈ admitted, nowMs < row.expiry) (hids : admitted.map (·.msgId) = ids) :
    Outcome foreignBudget totalBudget nowMs before after ids := by
  have hpruned : unexpired nowMs after = after := by
    refine filter_eq_self.mpr fun row hrow => ?_
    rcases mem_append.mp (h.sublist.subset hrow) with hold | hnew
    · exact (mem_filter.mp hold).2
    · exact decide_eq_true (hlive row hnew)
  refine ⟨hok, ⟨admitted, gone, hids, hpruned.symm ▸ h⟩, fun _ => hpruned, fun hnone => ?_⟩
  have hempty : admitted = [] := map_eq_nil_iff.mp (hids.trans hnone)
  rw [h.unchanged hempty]
  exact unexpired_sublist

end Outcome

/-! ## Enqueueing -/

section Enqueue
variable {row : CarriedRow} {foreignBudget totalBudget nowMs : Int} {rows : List CarriedRow}

theorem insertOrIgnore_eq_some {held : List CarriedRow} (h : insertOrIgnore row rows = some held) :
    held = rows ++ [row] ∧ ∀ other ∈ rows, other.msgId ≠ row.msgId := by
  unfold insertOrIgnore at h
  split at h
  · cases h
  · rename_i hfree
    refine ⟨(Option.some.inj h).symm, fun other hother heq => hfree ⟨other, hother, .inl heq⟩⟩

theorem QueueOk.append (h : QueueOk rows) (hfresh : ∀ other ∈ rows, other.msgId ≠ row.msgId)
    (hsize : row.sizeBytes = row.body.length) : QueueOk (rows ++ [row]) where
  keys := by
    rw [map_append, nodup_append]
    refine ⟨h.keys, nodup_singleton _, ?_⟩
    intro id hid id' hid' heq
    obtain ⟨other, hother, rfl⟩ := mem_map.mp hid
    exact hfresh other hother (heq.trans (by simpa using hid'))
  sizes := by
    intro other hother
    rcases mem_append.mp hother with hold | hnew
    · exact h.sizes other hold
    · rw [mem_singleton.mp hnew]
      exact hsize

/-- The enqueueing transaction: the row is carried already, or a sum overflows, or it
cannot fit and only the expired rows go, or it is admitted. -/
theorem enqueueRow_spec (h : QueueOk rows) (hforeign : 0 ≤ foreignBudget) (htotal : 0 ≤ totalBudget)
    (hsize : row.sizeBytes = row.body.length) (hlive : nowMs < row.expiry) :
    enqueueRow row foreignBudget totalBudget nowMs rows = .ok (none, rows) ∨
      enqueueRow row foreignBudget totalBudget nowMs rows = .error (.store "integer overflow") ∨
      enqueueRow row foreignBudget totalBudget nowMs rows = .ok (some false, unexpired nowMs rows) ∨
      ∃ gone after, enqueueRow row foreignBudget totalBudget nowMs rows = .ok (some true, after) ∧
        QueueOk after ∧
        Admission foreignBudget totalBudget (unexpired nowMs rows) [row] gone after := by
  unfold enqueueRow
  rw [Tx.get_bind]
  cases hinsert : insertOrIgnore row rows with
  | none => exact .inl rfl
  | some held =>
    obtain ⟨rfl, hfresh⟩ := insertOrIgnore_eq_some hinsert
    have hprune : unexpired nowMs (rows ++ [row]) = unexpired nowMs rows ++ [row] := by
      unfold unexpired
      rw [filter_append, filter_cons_of_pos (by simpa using hlive), filter_nil]
    have hok : QueueOk (unexpired nowMs rows ++ [row]) :=
      (h.sublist unexpired_sublist).append
        (fun other hother => hfresh other (unexpired_sublist.subset hother)) hsize
    have hset : (set (rows ++ [row]) : Tx (List CarriedRow) CoreError PUnit) rows =
        .ok ((), rows ++ [row]) := rfl
    dsimp only
    rw [Tx.bind_apply_ok hset, Tx.bind_apply_ok (Tx.modify_apply _ _), hprune]
    right
    rcases finalize_spec hok hforeign htotal with hover | hfull | ⟨gone, after, hfit, hadmission⟩
    · rw [Tx.bind_apply_error hover]
      exact .inl rfl
    · rw [Tx.bind_apply_ok hfull]
      exact .inr (.inl rfl)
    · rw [Tx.bind_apply_ok hfit]
      exact .inr (.inr ⟨gone, after, rfl, hok.sublist hadmission.sublist, hadmission⟩)

variable {envelope : CarriedEnvelope} {e : CoreError} {α : Type}
  {t : Tx (List CarriedRow) CoreError α}

/-- Validation answers with its own errors. -/
theorem validate_error (h : validateCarriedEnvelope envelope nowMs = .error e) :
    e ≠ carryAdmissionMismatchError := by
  unfold validateCarriedEnvelope at h
  by_cases hhop : defaultHopTtl < envelope.hopTtl
  · rw [refuseWhen_pos hhop] at h
    cases h
    decide
  rw [refuseWhen_neg hhop] at h
  by_cases hexpiry : envelope.expiry ≤ nowMs ∨ saturateI64 (nowMs + maxCarryFutureMs) < envelope.expiry
  · have hrefused := refuseWhen_pos (e := CoreError.malformed
      "carried envelope expiry is outside the accepted window") hexpiry
    cases hrefused.symm.trans h
    decide
  · have hpassed := refuseWhen_neg (e := CoreError.malformed
      "carried envelope expiry is outside the accepted window") hexpiry
    cases hpassed.symm.trans h

theorem live_of_valid (h : validateCarriedEnvelope envelope nowMs = .ok ()) :
    nowMs < envelope.expiry := by
  unfold validateCarriedEnvelope at h
  simp only [bind_eq_ok, refuseWhen_eq_ok, not_or] at h
  obtain ⟨_, _, hexpiry, _⟩ := h
  omega

variable {s : Store} {rows : List CarriedRow}

theorem onQueue_ok {a : α} (h : t s.carriedEnvelopes = .ok (a, rows)) :
    onQueue t s = .ok (a, { s with carriedEnvelopes := rows }) := by
  unfold onQueue
  rw [h]
  rfl

theorem onQueue_error (h : t s.carriedEnvelopes = .error e) :
    onQueue t s = .error e := by
  unfold onQueue
  rw [h]
  rfl

theorem enqueueValidated_committed {admitted : Option Bool}
    (hvalid : validateCarriedEnvelope row.toCarriedEnvelope nowMs = .ok ())
    (hrow : enqueueRow row foreignBudget totalBudget nowMs s.carriedEnvelopes = .ok (admitted, rows)) :
    (enqueueValidated row foreignBudget totalBudget nowMs).result s = enqueueAnswer admitted ∧
      (enqueueValidated row foreignBudget totalBudget nowMs).final s =
        { s with carriedEnvelopes := rows } := by
  refine run_eq [{ s with carriedEnvelopes := rows }] ?_
  unfold enqueueValidated
  rw [hvalid, lift_ok_bind, transaction_bind_ok (onQueue_ok hrow)]
  rfl

/-- Nothing is durable when a check fails before the transaction, or inside it. -/
theorem enqueueValidated_failed
    (h : validateCarriedEnvelope row.toCarriedEnvelope nowMs = .error e ∨
      validateCarriedEnvelope row.toCarriedEnvelope nowMs = .ok () ∧
        enqueueRow row foreignBudget totalBudget nowMs s.carriedEnvelopes = .error e) :
    (enqueueValidated row foreignBudget totalBudget nowMs).result s = .error e ∧
      (enqueueValidated row foreignBudget totalBudget nowMs).final s = s := by
  refine run_eq [] ?_
  unfold enqueueValidated
  rcases h with hinvalid | ⟨hvalid, hrow⟩
  · rw [hinvalid, lift_error_bind]
  · rw [hvalid, lift_ok_bind, transaction_bind_error (onQueue_error hrow)]

/-- The ids of the envelopes an enqueueing function reports as admitted. -/
def enqueuedIds (msgId : Bytes) (answer : Except CoreError Bool) : Except CoreError (List Bytes) :=
  answer.map fun admitted => if admitted then [msgId] else []

/-- One of the two enqueueing functions on a store. -/
theorem enqueueValidated_spec (h : QueueOk s.carriedEnvelopes) (hforeign : 0 ≤ foreignBudget)
    (htotal : 0 ≤ totalBudget) (hsize : row.sizeBytes = row.body.length) :
    enqueuedIds row.msgId ((enqueueValidated row foreignBudget totalBudget nowMs).result s) ≠
        .error carryAdmissionMismatchError ∧
      Outcome foreignBudget totalBudget nowMs s.carriedEnvelopes
        ((enqueueValidated row foreignBudget totalBudget nowMs).final s).carriedEnvelopes
        ((enqueuedIds row.msgId
          ((enqueueValidated row foreignBudget totalBudget nowMs).result s)).toOption.getD []) := by
  cases hvalid : validateCarriedEnvelope row.toCarriedEnvelope nowMs with
  | error e =>
    obtain ⟨hresult, hfinal⟩ := enqueueValidated_failed (s := s) (.inl hvalid)
    rw [hresult, hfinal]
    exact ⟨fun heq => validate_error hvalid (Except.error.inj heq), .of_rejected h (.inl rfl)⟩
  | ok u =>
    have hlive := live_of_valid hvalid
    rcases enqueueRow_spec h hforeign htotal hsize hlive with
      hrow | hrow | hrow | ⟨gone, after, hrow, hok, hadmission⟩
    · obtain ⟨hresult, hfinal⟩ := enqueueValidated_committed hvalid hrow
      rw [hresult, hfinal]
      exact ⟨(nomatch ·), .of_rejected h (.inl rfl)⟩
    · obtain ⟨hresult, hfinal⟩ := enqueueValidated_failed (.inr ⟨hvalid, hrow⟩)
      rw [hresult, hfinal]
      exact ⟨fun heq => absurd (Except.error.inj heq) (by decide), .of_rejected h (.inl rfl)⟩
    · obtain ⟨hresult, hfinal⟩ := enqueueValidated_committed hvalid hrow
      rw [hresult, hfinal]
      exact ⟨fun heq => absurd (Except.error.inj heq) (by decide), .of_rejected h (.inr rfl)⟩
    · obtain ⟨hresult, hfinal⟩ := enqueueValidated_committed hvalid hrow
      rw [hresult, hfinal]
      refine ⟨(nomatch ·), .of_admission hok hadmission ?_ rfl⟩
      intro other hother
      rw [mem_singleton.mp hother]
      exact hlive

/-- What is carried afterwards was carried before, or is the row. -/
theorem mem_enqueueValidated (h : QueueOk s.carriedEnvelopes) (hforeign : 0 ≤ foreignBudget)
    (htotal : 0 ≤ totalBudget) (hsize : row.sizeBytes = row.body.length) {other : CarriedRow}
    (hother : other ∈
      ((enqueueValidated row foreignBudget totalBudget nowMs).final s).carriedEnvelopes) :
    other ∈ s.carriedEnvelopes ∨ other = row := by
  cases hvalid : validateCarriedEnvelope row.toCarriedEnvelope nowMs with
  | error e =>
    rw [(enqueueValidated_failed (s := s) (.inl hvalid)).2] at hother
    exact .inl hother
  | ok u =>
    rcases enqueueRow_spec h hforeign htotal hsize (live_of_valid hvalid) with
      hrow | hrow | hrow | ⟨gone, after, hrow, _, hadmission⟩
    · rw [(enqueueValidated_committed hvalid hrow).2] at hother
      exact .inl hother
    · rw [(enqueueValidated_failed (.inr ⟨hvalid, hrow⟩)).2] at hother
      exact .inl hother
    · rw [(enqueueValidated_committed hvalid hrow).2] at hother
      exact .inl (unexpired_sublist.subset hother)
    · rw [(enqueueValidated_committed hvalid hrow).2] at hother
      rcases mem_append.mp (hadmission.sublist.subset hother) with hold | hnew
      · exact .inl (unexpired_sublist.subset hold)
      · exact .inr (mem_singleton.mp hnew)

end Enqueue

/-! ## A relay page -/

section Page
variable {P : Primitives} {nowMs : Int}

/-- The envelopes a report calls carried. -/
def carriedIds (ingest : CoreRelayPageIngest) : List Bytes :=
  (ingest.rows.filter (·.disposition = .carried)).map (·.msgId)

theorem carriedIds_note (ingest : CoreRelayPageIngest) (envelope : CoreRelayFetchedEnvelope)
    (disposition : CoreInboundDisposition) :
    carriedIds (ingest.note envelope disposition) =
      carriedIds ingest ++ if disposition = .carried then [envelope.msgId] else [] := by
  unfold carriedIds CoreRelayPageIngest.note
  rw [filter_append, map_append]
  by_cases h : disposition = .carried
  · simp [h]
  · simp [h]

variable {s : Store}

/-- A row of a page: a sum overflows, or nothing changes, or it is carried. -/
theorem ingestRow_spec (envelope : CoreRelayFetchedEnvelope) (h : QueueOk s.carriedEnvelopes) :
    ingestRow P envelope nowMs s = .error (.store "integer overflow") ∨
      (∃ disposition, disposition ≠ .carried ∧ ingestRow P envelope nowMs s = .ok (disposition, s)) ∨
      ∃ gone after,
        ingestRow P envelope nowMs s = .ok (.carried, { s with carriedEnvelopes := after }) ∧
        nowMs < envelope.expiryMs ∧ QueueOk after ∧
        Admission i64Max defaultTotalCarryBudgetBytes s.carriedEnvelopes [fetchedRow P envelope nowMs]
          gone after := by
  unfold ingestRow
  rw [Tx.get_bind]
  by_cases hexpired : envelope.expiryMs ≤ nowMs
  · rw [if_pos hexpired]
    exact .inr (.inl ⟨.expired, by decide, rfl⟩)
  rw [if_neg hexpired]
  by_cases hrejected : (validateCarriedEnvelope envelope.carried nowMs).toOption = none
  · rw [if_pos hrejected]
    exact .inr (.inl ⟨.rejected, by decide, rfl⟩)
  rw [if_neg hrejected]
  by_cases hknown : relayRowAlreadyKnown s envelope.msgId = true
  · rw [if_pos hknown]
    exact .inr (.inl ⟨.seen, by decide, rfl⟩)
  rw [if_neg hknown]
  cases hinsert : insertOrIgnore (fetchedRow P envelope nowMs) s.carriedEnvelopes with
  | none => exact .inr (.inl ⟨.seen, by decide, rfl⟩)
  | some held =>
    obtain ⟨rfl, hfresh⟩ := insertOrIgnore_eq_some hinsert
    have hok := h.append hfresh rfl
    let mid : Store :=
      { s with carriedEnvelopes := s.carriedEnvelopes ++ [fetchedRow P envelope nowMs] }
    have hset : (set mid : Tx Store CoreError PUnit) s = .ok ((), mid) := rfl
    dsimp only
    rw [Tx.bind_apply_ok hset]
    have hforeign : 0 ≤ i64Max := by decide
    have htotal : 0 ≤ defaultTotalCarryBudgetBytes := by decide
    rcases finalize_spec hok hforeign htotal with hover | hfull | ⟨gone, after, hfit, hadmission⟩
    · rw [Tx.bind_apply_error (onQueue_error hover)]
      exact .inl rfl
    · rw [Tx.bind_apply_ok (onQueue_ok hfull)]
      exact .inr (.inl ⟨.failed, by decide, rfl⟩)
    · rw [Tx.bind_apply_ok (onQueue_ok hfit)]
      exact .inr (.inr ⟨gone, after, rfl, not_le.mp hexpired, hok.sublist hadmission.sublist,
        hadmission⟩)

/-- The rows of a page one after the other: what they came to is one admission of the
rows that the report calls carried. -/
theorem ingestRows_spec (page : List CoreRelayFetchedEnvelope) :
    ∀ {ingest : CoreRelayPageIngest} {s : Store}, QueueOk s.carriedEnvelopes →
      ingestRows P nowMs page ingest s = .error (.store "integer overflow") ∨
        ∃ report s' admitted gone, ingestRows P nowMs page ingest s = .ok (report, s') ∧
          QueueOk s'.carriedEnvelopes ∧
          carriedIds report = carriedIds ingest ++ admitted.map (·.msgId) ∧
          (∀ row ∈ admitted, row.isFamily = true ∧ nowMs < row.expiry) ∧
          Admission i64Max defaultTotalCarryBudgetBytes s.carriedEnvelopes admitted gone
            s'.carriedEnvelopes := by
  induction page with
  | nil =>
    intro ingest s h
    exact .inr ⟨ingest, s, [], [], rfl, h, by simp, by simp, Admission.refl _ _ _⟩
  | cons envelope rest ih =>
    intro ingest s h
    unfold ingestRows
    rcases ingestRow_spec envelope h with
      hover | ⟨disposition, hother, hrow⟩ | ⟨gone, after, hrow, hlive, hok, hadmission⟩
    · exact .inl (Tx.bind_apply_error hover)
    · rw [Tx.bind_apply_ok hrow]
      rcases ih h with hover | ⟨report, s', admitted, gone, hrest, hok, hids, hrows, hadmission⟩
      · exact .inl hover
      · refine .inr ⟨report, s', admitted, gone, hrest, hok, ?_, hrows, hadmission⟩
        rw [hids, carriedIds_note, if_neg hother, append_nil]
    · rw [Tx.bind_apply_ok hrow]
      have hokAfter : QueueOk ({ s with carriedEnvelopes := after } : Store).carriedEnvelopes := hok
      rcases ih hokAfter with
        hover | ⟨report, s', admitted, last, hrest, hok', hids, hrows, hadmission'⟩
      · exact .inl hover
      refine .inr ⟨report, s', [fetchedRow P envelope nowMs] ++ admitted, gone ++ last, hrest, hok',
        ?_, ?_, hadmission.trans h hadmission' ?_⟩
      · rw [hids, carriedIds_note, if_pos rfl, append_assoc]
        rfl
      · intro row hrow
        rcases mem_append.mp hrow with hfirst | hlater
        · rw [mem_singleton.mp hfirst]
          exact ⟨rfl, hlive⟩
        · exact hrows row hlater
      · intro row hrow
        rw [mem_singleton.mp hrow]
        rfl

/-- A page on a store. -/
theorem ingestRelayPage_spec (page : List CoreRelayFetchedEnvelope)
    (h : QueueOk s.carriedEnvelopes) :
    ((ingestRelayPage P page nowMs).result s).map carriedIds ≠ .error carryAdmissionMismatchError ∧
      Outcome i64Max defaultTotalCarryBudgetBytes nowMs s.carriedEnvelopes
        ((ingestRelayPage P page nowMs).final s).carriedEnvelopes
        ((((ingestRelayPage P page nowMs).result s).map carriedIds).toOption.getD []) := by
  by_cases hempty : page = []
  · have hrun : ingestRelayPage P page nowMs s = ([], .ok { rowsReturned := 0 }) := by
      unfold ingestRelayPage
      rw [if_pos hempty]
      rfl
    obtain ⟨hresult, hfinal⟩ := run_eq [] hrun
    rw [hresult, hfinal]
    exact ⟨(nomatch ·), .of_rejected h (.inl rfl)⟩
  -- the expired rows go first, in the same transaction
  let pruned : Store := { s with carriedEnvelopes := unexpired nowMs s.carriedEnvelopes }
  have hprune : onQueue (modify (unexpired nowMs)) s = .ok ((), pruned) :=
    onQueue_ok (Tx.modify_apply (unexpired nowMs) s.carriedEnvelopes)
  have hok : QueueOk pruned.carriedEnvelopes := h.sublist unexpired_sublist
  rcases ingestRows_spec page hok (P := P) with
    hover | ⟨report, s', admitted, gone, hrows, hok', hids, hall, hadmission⟩
  · have hrun : ingestRelayPage P page nowMs s = ([], .error (.store "integer overflow")) := by
      unfold ingestRelayPage
      rw [if_neg hempty]
      refine transaction_bind_error ?_
      rw [Tx.bind_apply_ok hprune]
      exact hover
    obtain ⟨hresult, hfinal⟩ := run_eq [] hrun
    rw [hresult, hfinal]
    exact ⟨fun heq => absurd (Except.error.inj heq) (by decide), .of_rejected h (.inl rfl)⟩
  · have hrun : ingestRelayPage P page nowMs s = ([s'], .ok
        { report with fullyProcessed := report.rows.all (·.disposition ≠ .failed) }) := by
      unfold ingestRelayPage
      rw [if_neg hempty]
      refine transaction_bind_ok ?_
      rw [Tx.bind_apply_ok hprune]
      exact hrows
    obtain ⟨hresult, hfinal⟩ := run_eq [s'] hrun
    rw [hresult, hfinal]
    refine ⟨(nomatch ·),
      .of_admission hok' hadmission (fun row hrow => (hall row hrow).2) hids.symm⟩

end Page

/-! ## Runs -/

/-- A byte budget that is not negative. -/
structure Budget where
  bytes : Int
  nonneg : 0 ≤ bytes

/-- A call that may add to the queue. -/
inductive Call where
  | enqueue (envelope : CarriedEnvelope) (isFamily : Bool) (receivedAtMs : Int)
      (foreignBudget totalBudget : Budget)
  | enqueueRelay (envelope : CarriedEnvelope) (nowMs : Int) (totalBudget : Budget)
  | ingest (page : List CoreRelayFetchedEnvelope) (nowMs : Int)

namespace Call

def nowMs : Call → Int
  | enqueue _ _ receivedAtMs _ _ => receivedAtMs
  | enqueueRelay _ nowMs _ => nowMs
  | ingest _ nowMs => nowMs

/-- Rows from the relay have no foreign budget. -/
def foreignBudget : Call → Int
  | enqueue _ _ _ foreignBudget _ => foreignBudget.bytes
  | enqueueRelay .. => i64Max
  | ingest .. => i64Max

def totalBudget : Call → Int
  | enqueue _ _ _ _ totalBudget => totalBudget.bytes
  | enqueueRelay _ _ totalBudget => totalBudget.bytes
  | ingest .. => defaultTotalCarryBudgetBytes

variable (P : Primitives)

/-- The call on a store: the store it leaves, and the ids of the envelopes it reports as
admitted. -/
def run (s : Store) : Call → Store × Except CoreError (List Bytes)
  | enqueue envelope isFamily receivedAtMs foreignBudget totalBudget =>
    let p := enqueueCarriedEnvelopeWithBudgets P envelope isFamily receivedAtMs foreignBudget.bytes
      totalBudget.bytes
    (p.final s, enqueuedIds envelope.msgId (p.result s))
  | enqueueRelay envelope nowMs totalBudget =>
    let p := enqueueRelayCarriedEnvelopeWithBudget P envelope nowMs totalBudget.bytes
    (p.final s, enqueuedIds envelope.msgId (p.result s))
  | ingest page nowMs =>
    let p := ingestRelayPage P page nowMs
    (p.final s, (p.result s).map carriedIds)

/-- The store a call leaves. -/
def next (s : Store) (call : Call) : Store := (call.run P s).1

/-- The envelopes a call reports as admitted; none when it fails. -/
def admitted (s : Store) (call : Call) : List Bytes := (call.run P s).2.toOption.getD []

end Call

/-- What one call does to the queue. -/
structure Step (P : Primitives) (s : Store) (call : Call) : Prop where
  /-- A call that admits leaves both budgets kept. -/
  within : call.admitted P s ≠ [] →
    bytes (call.next P s).carriedEnvelopes ≤ call.totalBudget ∧
      bytes (foreign (call.next P s).carriedEnvelopes) ≤ call.foreignBudget
  /-- A family row leaves by expiry only. -/
  family_kept : ∀ row ∈ unexpired call.nowMs s.carriedEnvelopes, row.isFamily = true →
    row ∈ (call.next P s).carriedEnvelopes
  /-- What pressure removes is the shortest prefix of the foreign rows, the oldest first,
  that makes room for what was admitted. -/
  pressure : ∃ admitted gone, admitted.map (·.msgId) = call.admitted P s ∧
    Admission call.foreignBudget call.totalBudget (unexpired call.nowMs s.carriedEnvelopes) admitted
      gone (unexpired call.nowMs (call.next P s).carriedEnvelopes)
  /-- A call that admits nothing takes nothing that has not expired. -/
  rejected : call.admitted P s = [] →
    unexpired call.nowMs (call.next P s).carriedEnvelopes =
      unexpired call.nowMs s.carriedEnvelopes
  /-- What was predicted to fit did. -/
  agrees : (call.run P s).2 ≠ .error carryAdmissionMismatchError

section Steps
variable {P : Primitives} {s : Store}

/-- Each of the three calls leaves an outcome under its own clock and budgets. -/
theorem call_outcome (h : QueueOk s.carriedEnvelopes) (call : Call) :
    (call.run P s).2 ≠ .error carryAdmissionMismatchError ∧
      Outcome call.foreignBudget call.totalBudget call.nowMs s.carriedEnvelopes
        (call.next P s).carriedEnvelopes (call.admitted P s) := by
  cases call with
  | enqueue envelope isFamily receivedAtMs foreignBudget totalBudget =>
    have hsize : (carriedRow P envelope isFamily false receivedAtMs).sizeBytes =
      (carriedRow P envelope isFamily false receivedAtMs).body.length := rfl
    exact enqueueValidated_spec h foreignBudget.nonneg totalBudget.nonneg hsize
  | enqueueRelay envelope nowMs totalBudget =>
    have hsize : (carriedRow P envelope true true nowMs).sizeBytes =
      (carriedRow P envelope true true nowMs).body.length := rfl
    exact enqueueValidated_spec h (by decide) totalBudget.nonneg hsize
  | ingest page nowMs => exact ingestRelayPage_spec page h

theorem queueOk_next (h : QueueOk s.carriedEnvelopes) (call : Call) :
    QueueOk (call.next P s).carriedEnvelopes := (call_outcome h call).2.ok

/-- One call. -/
theorem step_spec (h : QueueOk s.carriedEnvelopes) (call : Call) : Step P s call := by
  obtain ⟨hagrees, houtcome⟩ := call_outcome (P := P) h call
  obtain ⟨admitted, gone, hids, hadmission⟩ := houtcome.pressure
  refine ⟨?_, ?_, ⟨admitted, gone, hids, hadmission⟩, ?_, hagrees⟩
  · intro hsome
    have hrows : admitted ≠ [] := fun hnone => hsome (by rw [← hids, hnone]; rfl)
    have hwithin := hadmission.within hrows
    rw [houtcome.pruned hsome] at hwithin
    exact hwithin
  · intro row hrow hfamily
    exact unexpired_sublist.subset (hadmission.family_kept hrow hfamily)
  · intro hnone
    exact hadmission.unchanged (map_eq_nil_iff.mp (hids.trans hnone))

/-- A total that is within a budget stays within it under calls that have no larger one. -/
theorem bytes_next_le (h : QueueOk s.carriedEnvelopes) {call : Call} {budget : Int}
    (hbudget : call.totalBudget ≤ budget) (hbytes : bytes s.carriedEnvelopes ≤ budget) :
    bytes (call.next P s).carriedEnvelopes ≤ budget := by
  by_cases hnone : call.admitted P s = []
  · have hsub := (call_outcome (P := P) h call).2.shrinks hnone
    exact le_trans (bytes_le_of_sublist hsub) hbytes
  · exact le_trans ((step_spec h call).within hnone).1 hbudget

end Steps

/-- The store after the first `n` calls. -/
def storeAt (P : Primitives) (s : Store) (calls : List Call) (n : Nat) : Store :=
  stateAt (Call.next P) s calls n

/-- Over every sequence of calls: each call keeps the rules of admission, and once a call
has admitted something under a total budget, the queue stays within that budget as long
as no call has a larger one. -/
theorem carry_budgets_kept {P : Primitives} {s : Store} (hs : QueueOk s.carriedEnvelopes)
    (calls : List Call) {n : Nat} (hn : n < calls.length) :
    Step P (storeAt P s calls n) calls[n] ∧
    ∀ m, n < m → m ≤ calls.length → calls[n].admitted P (storeAt P s calls n) ≠ [] →
      (∀ k (hk : k < calls.length), n < k → k < m → calls[k].totalBudget ≤ calls[n].totalBudget) →
      bytes (storeAt P s calls m).carriedEnvelopes ≤ calls[n].totalBudget := by
  have hok : ∀ k, QueueOk (storeAt P s calls k).carriedEnvelopes :=
    stateAt_invariant (fun s : Store => QueueOk s.carriedEnvelopes)
      (fun _ call h => queueOk_next h call) hs
  refine ⟨step_spec (hok n) _, ?_⟩
  intro m hnm
  induction m, hnm using Nat.le_induction with
  | base =>
    intro _ hadmitted _
    rw [storeAt, stateAt_succ hn]
    exact ((step_spec (hok n) _).within hadmitted).1
  | succ m hnm ih =>
    intro hm hadmitted hlater
    have hbefore := ih (by omega) hadmitted fun k hk hnk hkm => hlater k hk hnk (by omega)
    rw [storeAt, stateAt_succ (by omega : m < calls.length)]
    exact bytes_next_le (hok m) (hlater m (by omega) hnm (Nat.lt_succ_self m)) hbefore

end Carry

namespace Sample

/-- An envelope of the given size. -/
def parcel (n size : Nat) : CarriedEnvelope where
  msgId := secretKey n
  hopTtl := 3
  expiry := noon + msPerDay
  recipientHint := computeRecipientHint primitives (secretKey n) noon
  body := List.replicate size (UInt8.ofNat n)

/-- A mule with two foreign envelopes, the second of which came first. -/
def muleStore : Store :=
  { carriedEnvelopes :=
      [carriedRow primitives (parcel 60 3) false false noon,
        carriedRow primitives (parcel 61 4) false false (noon - 1)] }

theorem muleStore_ok : Carry.QueueOk muleStore.carriedEnvelopes :=
  ⟨by decide +kernel, by decide +kernel⟩

/-- A family envelope, and a page with one for someone else. -/
def arrivals : List Carry.Call :=
  [.enqueue (parcel 62 2) true (noon + 1) ⟨10, by decide⟩ ⟨6, by decide⟩,
    .enqueueRelay (parcel 63 9) (noon + 2) ⟨6, by decide⟩]

end Sample

open Sample in
/-- The older of the two makes room, the other one stays, and the envelope that cannot fit
takes nothing. -/
theorem Carry.carry_budgets_kept_mule :
    (Carry.storeAt primitives muleStore arrivals 1).carriedEnvelopes.map (·.msgId) =
      [secretKey 60, secretKey 62] ∧
    Carry.Step primitives (Carry.storeAt primitives muleStore arrivals 0) (arrivals[0]) ∧
    Carry.Step primitives (Carry.storeAt primitives muleStore arrivals 1) (arrivals[1]) ∧
    Carry.bytes (Carry.storeAt primitives muleStore arrivals 2).carriedEnvelopes ≤ 6 := by
  have hfirst := Carry.carry_budgets_kept (P := primitives) muleStore_ok arrivals (n := 0) (by decide)
  have hsecond := Carry.carry_budgets_kept (P := primitives) muleStore_ok arrivals (n := 1) (by decide)
  refine ⟨by decide +kernel, hfirst.1, hsecond.1, ?_⟩
  refine hfirst.2 2 (by decide) (by decide) (by decide +kernel) ?_
  intro k hk hlow hhigh
  obtain rfl : k = 1 := by omega
  exact le_refl (6 : Int)

end CruiseMesh
