import CruiseMesh.Carry.Queue

/-!
# Admission under the byte budgets

Whether a row fits is predicted from one sum, before anything is evicted, and enforced
afterwards by two loops. Both are views of one list: the other foreign rows, the oldest
first. `finalize_spec` says what becomes of a candidate, with the rows that had to go as
a prefix of that list that no shorter prefix could have replaced.
-/

namespace CruiseMesh
open Durable List Shed

namespace CarriedRow

theorem Older.total (a b : CarriedRow) : a.Older b ∨ b.Older a := by
  rcases Int.lt_trichotomy a.receivedAt b.receivedAt with h | h | h
  · exact .inl (.inl h)
  · rcases List.le_total a.msgId b.msgId with hid | hid
    · exact .inl (.inr ⟨h, hid⟩)
    · exact .inr (.inr ⟨h.symm, hid⟩)
  · exact .inr (.inl h)

theorem Older.trans {a b c : CarriedRow} (hab : a.Older b) (hbc : b.Older c) : a.Older c := by
  rcases hab with hab | ⟨hab, hid⟩
  · rcases hbc with hbc | ⟨hbc, _⟩
    · exact .inl (by omega)
    · exact .inl (by omega)
  · rcases hbc with hbc | ⟨hbc, hid'⟩
    · exact .inl (by omega)
    · exact .inr ⟨by omega, List.le_trans hid hid'⟩

theorem Older.msgId_eq {a b : CarriedRow} (hab : a.Older b) (hba : b.Older a) :
    a.msgId = b.msgId := by
  rcases hab with hab | ⟨hab, hid⟩
  · rcases hba with hba | ⟨hba, _⟩ <;> omega
  · rcases hba with hba | ⟨_, hid'⟩
    · omega
    · exact List.le_antisymm hid hid'

instance : Std.Total CarriedRow.Older := ⟨Older.total⟩

instance : IsTrans CarriedRow CarriedRow.Older := ⟨fun _ _ _ => Older.trans⟩

end CarriedRow

namespace Carry
variable (rows : List CarriedRow)

/-- The sealed bytes of some rows. -/
def bytes : Int := (rows.map fun row => (row.body.length : Int)).sum

/-- Some rows in the order in which they are evicted. -/
def oldestFirst : List CarriedRow := rows.insertionSort CarriedRow.Older

/-- The table as its writers keep it: the message id is a primary key, and the size column
is the size. -/
structure QueueOk : Prop where
  keys : (rows.map (·.msgId)).Nodup
  sizes : ∀ row ∈ rows, row.sizeBytes = row.body.length

section Bytes
variable {rows more gone : List CarriedRow}

@[simp] theorem bytes_append : bytes (rows ++ more) = bytes rows + bytes more := by
  simp [bytes]

@[simp] theorem bytes_singleton (row : CarriedRow) : bytes [row] = row.body.length := by
  simp [bytes]

theorem bytes_nonneg (rows : List CarriedRow) : 0 ≤ bytes rows := by
  refine sum_nonneg fun n hn => ?_
  obtain ⟨row, _, rfl⟩ := mem_map.mp hn
  exact Int.natCast_nonneg _

theorem bytes_le_of_sublist (h : rows.Sublist more) : bytes rows ≤ bytes more := by
  refine List.Sublist.sum_le_sum (h.map _) fun n hn => ?_
  obtain ⟨row, _, rfl⟩ := mem_map.mp hn
  exact Int.natCast_nonneg _

@[simp] theorem foreign_append : foreign (rows ++ more) = foreign rows ++ foreign more :=
  filter_append ..

/-- What is evicted commutes with looking at the foreign rows only. -/
theorem foreign_filter (p : CarriedRow → Bool) : foreign (rows.filter p) = (foreign rows).filter p := by
  unfold foreign
  rw [filter_filter, filter_filter]
  exact filter_congr fun row _ => Bool.and_comm _ _

theorem foreign_of_family (h : ∀ row ∈ rows, row.isFamily = true) : foreign rows = [] :=
  filter_eq_nil_iff.mpr fun row hrow => by simp [h row hrow]

theorem foreign_sublist : (foreign rows).Sublist rows := filter_sublist

end Bytes

namespace QueueOk
variable {rows more : List CarriedRow}

theorem nodup (h : QueueOk rows) : rows.Nodup := List.Nodup.of_map _ h.keys

theorem sublist (h : QueueOk rows) (hsub : more.Sublist rows) : QueueOk more :=
  ⟨h.keys.sublist (hsub.map _), fun row hrow => h.sizes row (hsub.subset hrow)⟩

theorem eq_of_msgId (h : QueueOk rows) {a b : CarriedRow} (ha : a ∈ rows) (hb : b ∈ rows)
    (hid : a.msgId = b.msgId) : a = b :=
  inj_on_of_nodup_map h.keys ha hb hid

theorem sum_sizeBytes (h : QueueOk rows) : (rows.map (·.sizeBytes)).sum = bytes rows := by
  unfold bytes
  rw [map_congr_left fun row hrow => h.sizes row hrow]

theorem sumSizeBytes_of_le (h : QueueOk rows) (hmax : bytes rows ≤ i64Max) :
    sumSizeBytes rows = .ok (bytes rows) := by
  have hmin : i64Min ≤ bytes rows := le_trans (by decide) (bytes_nonneg rows)
  unfold sumSizeBytes
  rw [h.sum_sizeBytes]
  exact if_pos ⟨hmin, hmax⟩

theorem sumSizeBytes_of_lt (h : QueueOk rows) (hover : i64Max < bytes rows) :
    sumSizeBytes rows = .error (.store "integer overflow") := by
  unfold sumSizeBytes
  rw [h.sum_sizeBytes]
  exact if_neg fun hboth => not_le.mpr hover hboth.2

/-- Deleting one row by its id. -/
theorem bytes_delete (h : QueueOk rows) {row : CarriedRow} (hrow : row ∈ rows) :
    bytes (rows.filter (·.msgId ≠ row.msgId)) = bytes rows - row.body.length := by
  have hfilter : rows.filter (·.msgId ≠ row.msgId) = rows.filter (· ∉ [row]) := by
    refine filter_congr fun other hother => ?_
    have hiff : other.msgId ≠ row.msgId ↔ other ∉ [row] := by
      rw [mem_singleton]
      exact not_congr ⟨h.eq_of_msgId hother hrow, fun heq => heq ▸ rfl⟩
    simp only [hiff]
  rw [hfilter]
  have hsum : bytes (rows.filter (· ∉ [row])) = bytes rows - bytes [row] :=
    sum_filter_not_mem h.nodup (nodup_singleton row) (by simpa using hrow)
  rw [hsum, bytes_singleton]

end QueueOk

/-! ## What one admission does -/

/-- Rows were admitted to a queue under a foreign and a total budget, and other rows had
to go for them. -/
structure Admission (foreignBudget totalBudget : Int) (before admitted gone after : List CarriedRow) :
    Prop where
  /-- What is gone is gone, and nothing else changed. -/
  rows : after = before.filter (· ∉ gone) ++ admitted
  /-- The oldest foreign rows went first. -/
  oldest : gone <+: oldestFirst (foreign before)
  /-- None of them could have stayed. -/
  needed : ∀ fewer, fewer <+: gone → fewer ≠ gone →
    totalBudget < bytes (before.filter (· ∉ fewer) ++ admitted) ∨
      foreignBudget < bytes (foreign (before.filter (· ∉ fewer) ++ admitted))
  within : admitted ≠ [] → bytes after ≤ totalBudget ∧ bytes (foreign after) ≤ foreignBudget
  /-- Nothing goes for nothing. -/
  idle : admitted = [] → gone = []

section Enforcement
variable {base : List CarriedRow} {candidate : CarriedRow}

/-- The queue with the candidate, after `k` evictions. -/
def evictedRows (base : List CarriedRow) (candidate : CarriedRow) (k : Nat) : List CarriedRow :=
  base.filter (· ∉ (oldestFirst (foreign base)).take k) ++ [candidate]

/-- The enforcement loop's state after `k` turns. -/
def evictedState (msgId : Bytes) (e : Enforcing) : Nat → Enforcing
  | 0 => e
  | k + 1 => (evictOldest (some msgId) (evictedState msgId e k)).getD (evictedState msgId e k)

/-- The rows the loop has left, with the totals it keeps of them. -/
structure Tracks (e : Enforcing) (left : List CarriedRow) : Prop where
  rows : e.rows = left
  foreign : e.foreignTotal = bytes (foreign left)
  total : e.total = bytes left

/-- The rows left exceed no budget, and with any eviction fewer they would. -/
structure Stops (foreignBudget totalBudget : Int) (base : List CarriedRow) (candidate : CarriedRow)
    (m : Nat) : Prop where
  needed : ∀ j < m, totalBudget < bytes (evictedRows base candidate j) ∨
    foreignBudget < bytes (foreign (evictedRows base candidate j))
  total : bytes (evictedRows base candidate m) ≤ totalBudget
  foreign : bytes (foreign (evictedRows base candidate m)) ≤ foreignBudget

/-- The candidate is not among the rows that were there. -/
theorem fresh_of_queueOk (h : QueueOk (base ++ [candidate])) {row : CarriedRow} (hrow : row ∈ base) :
    row.msgId ≠ candidate.msgId := by
  have hkeys := h.keys
  rw [map_append, nodup_append] at hkeys
  exact hkeys.2.2 _ (mem_map_of_mem hrow) _ (by simp)

/-- The next victims are the rest of the foreign rows. -/
theorem victims_evictedRows (h : QueueOk (base ++ [candidate])) (k : Nat) :
    victims (some candidate.msgId) (evictedRows base candidate k) =
      (oldestFirst (foreign base)).drop k := by
  have hok : QueueOk (foreign base) :=
    h.sublist (foreign_sublist.trans (sublist_append_left _ _))
  have hsort : ((foreign base).filter (· ∉ (oldestFirst (foreign base)).take k)).insertionSort
      CarriedRow.Older = (oldestFirst (foreign base)).drop k :=
    sort_filter_take CarriedRow.Older hok.nodup
      (fun a ha b hb hab hba => hok.eq_of_msgId ha hb (hab.msgId_eq hba)) k
  rw [← hsort]
  unfold victims evictedRows
  congr 1
  -- the candidate is protected, and no other row has its id
  rw [filter_append, filter_cons_of_neg (by simp), filter_nil, append_nil,
    filter_filter]
  unfold foreign
  rw [filter_filter]
  refine filter_congr fun row hrow => ?_
  have hfresh : candidate.msgId ≠ row.msgId := (fresh_of_queueOk h hrow).symm
  simp [hfresh, Bool.and_comm]

theorem evictedRows_sublist (base : List CarriedRow) (candidate : CarriedRow) (k : Nat) :
    (evictedRows base candidate k).Sublist (base ++ [candidate]) :=
  filter_sublist.append (List.Sublist.refl _)

/-- Evicting the next victim by its id. -/
theorem evictedRows_succ (h : QueueOk (base ++ [candidate])) {k : Nat}
    (hk : k < (oldestFirst (foreign base)).length) :
    (evictedRows base candidate k).filter (·.msgId ≠ ((oldestFirst (foreign base))[k]).msgId) =
      evictedRows base candidate (k + 1) := by
  have hvictim : (oldestFirst (foreign base))[k] ∈ base :=
    foreign_sublist.subset ((mem_insertionSort _).mp (getElem_mem hk))
  have hok : QueueOk base := h.sublist (sublist_append_left _ _)
  unfold evictedRows
  rw [filter_append, filter_filter, take_succ_eq_append_getElem hk]
  congr 1
  · refine filter_congr fun row hrow => ?_
    have hiff : row.msgId ≠ ((oldestFirst (foreign base))[k]).msgId ↔
        row ≠ (oldestFirst (foreign base))[k] :=
      not_congr ⟨hok.eq_of_msgId hrow hvictim, fun heq => heq ▸ rfl⟩
    simp only [hiff, mem_append, mem_singleton, not_or]
    rw [Bool.decide_and, Bool.and_comm]
  · have hfresh := fresh_of_queueOk h hvictim
    rw [filter_cons_of_pos (by simpa using hfresh.symm), filter_nil]

/-- The totals the loop keeps are those of the rows it has left, for as many turns as
there are victims; then it has none. -/
theorem evictedState_spec (h : QueueOk (base ++ [candidate]))
    (hmax : bytes (base ++ [candidate]) ≤ i64Max) {e : Enforcing}
    (he : Tracks e (base ++ [candidate])) : ∀ k ≤ (oldestFirst (foreign base)).length,
      Tracks (evictedState candidate.msgId e k) (evictedRows base candidate k) := by
  intro k
  induction k with
  | zero =>
    intro _
    have hall : evictedRows base candidate 0 = base ++ [candidate] := by
      unfold evictedRows
      rw [take_zero, filter_eq_self.mpr (by simp)]
    exact hall ▸ he
  | succ k ih =>
    intro hk
    obtain ⟨hrows, hforeign, htotal⟩ := ih (by omega)
    have hvictims := victims_evictedRows h k
    rw [← hrows] at hvictims
    have hhead : (victims (some candidate.msgId) (evictedState candidate.msgId e k).rows).head? =
        some ((oldestFirst (foreign base))[k]) := by
      rw [hvictims, head?_drop, getElem?_eq_getElem hk]
    have hok : QueueOk (evictedRows base candidate k) := h.sublist (evictedRows_sublist base candidate k)
    -- the victim is one of the foreign rows that are left
    have hmem : (oldestFirst (foreign base))[k] ∈ foreign (evictedRows base candidate k) := by
      have hin : (oldestFirst (foreign base))[k] ∈ victims (some candidate.msgId)
          (evictedState candidate.msgId e k).rows := mem_of_mem_head? hhead
      have hfilter := (mem_filter.mp ((mem_insertionSort _).mp hin))
      rw [hrows] at hfilter
      have hfam : ((oldestFirst (foreign base))[k]).isFamily = false := by
        simpa using (of_decide_eq_true hfilter.2).1
      exact mem_filter.mpr ⟨hfilter.1, by simpa using hfam⟩
    have hsize := hok.sizes _ (foreign_sublist.subset hmem)
    have hforeignOk : QueueOk (foreign (evictedRows base candidate k)) := hok.sublist foreign_sublist
    have hsucc := evictedRows_succ h hk
    have hbytes := hok.bytes_delete (foreign_sublist.subset hmem)
    have hforeignBytes := hforeignOk.bytes_delete hmem
    rw [← foreign_filter] at hforeignBytes
    rw [hsucc] at hbytes hforeignBytes
    have hle := bytes_le_of_sublist (evictedRows_sublist base candidate (k + 1))
    have hleForeign : bytes (foreign (evictedRows base candidate (k + 1))) ≤
        bytes (evictedRows base candidate (k + 1)) := bytes_le_of_sublist foreign_sublist
    have hmin : i64Min ≤ 0 := by decide
    have hpos := bytes_nonneg (evictedRows base candidate (k + 1))
    have hposForeign := bytes_nonneg (foreign (evictedRows base candidate (k + 1)))
    unfold evictedState evictOldest
    rw [hhead]
    refine ⟨?_, ?_, ?_⟩
    · show (evictedState candidate.msgId e k).rows.filter _ = _
      rw [hrows, hsucc]
    · show saturateI64 ((evictedState candidate.msgId e k).foreignTotal - _) = _
      rw [hforeign, hsize, ← hforeignBytes]
      exact saturateI64_of_mem (by omega) (by omega)
    · show saturateI64 ((evictedState candidate.msgId e k).total - _) = _
      rw [htotal, hsize, ← hbytes]
      exact saturateI64_of_mem (by omega) (by omega)

/-- A turn of the loop is the next state, until no victim is left. -/
theorem evictOldest_evictedState (h : QueueOk (base ++ [candidate])) {e : Enforcing} {k : Nat}
    (hstate : Tracks (evictedState candidate.msgId e k) (evictedRows base candidate k)) :
    evictOldest (some candidate.msgId) (evictedState candidate.msgId e k) =
      if k < (oldestFirst (foreign base)).length then some (evictedState candidate.msgId e (k + 1))
      else none := by
  have hhead : (victims (some candidate.msgId) (evictedState candidate.msgId e k).rows).head? =
      (oldestFirst (foreign base))[k]? := by
    rw [hstate.rows, victims_evictedRows h, head?_drop]
  by_cases hk : k < (oldestFirst (foreign base)).length
  · rw [if_pos hk]
    conv_rhs => unfold evictedState
    unfold evictOldest
    rw [hhead, getElem?_eq_getElem hk]
    rfl
  · rw [if_neg hk]
    unfold evictOldest
    rw [hhead, getElem?_eq_none (Nat.le_of_not_lt hk)]
    rfl

/-- With every other foreign row gone, the family rows and the candidate are left. -/
theorem evictedRows_all (base : List CarriedRow) (candidate : CarriedRow) :
    evictedRows base candidate (oldestFirst (foreign base)).length = family base ++ [candidate] := by
  unfold evictedRows family
  rw [take_length]
  congr 1
  refine filter_congr fun row hrow => ?_
  have hiff : row ∉ oldestFirst (foreign base) ↔ row.isFamily = true := by
    unfold oldestFirst foreign
    rw [mem_insertionSort, mem_filter]
    simp [hrow]
  simp only [hiff]

theorem evictedRows_sublist_of_le {j k : Nat} (hjk : j ≤ k) :
    (evictedRows base candidate k).Sublist (evictedRows base candidate j) := by
  refine List.Sublist.append ?_ (List.Sublist.refl _)
  refine monotone_filter_right base fun row hrow => ?_
  have hnot : row ∉ (oldestFirst (foreign base)).take k := by simpa using hrow
  have hnot' : row ∉ (oldestFirst (foreign base)).take j :=
    fun hmem => hnot ((take_sublist_take_left hjk).subset hmem)
  simpa using hnot'

variable {foreignBudget totalBudget : Int}

/-- The loops' first state. -/
def startState (rows : List CarriedRow) : Enforcing :=
  { rows, foreignTotal := bytes (foreign rows), total := bytes rows }

/-- What the two loops come to where the candidate can fit: they stop within both budgets,
after as many evictions as that takes. -/
theorem loops_stop (h : QueueOk (base ++ [candidate])) (hmax : bytes (base ++ [candidate]) ≤ i64Max)
    (hfitForeign : bytes (foreign [candidate]) ≤ foreignBudget)
    (hfitTotal : bytes (family base ++ [candidate]) ≤ totalBudget) :
    ∃ m, drain (fun e => totalBudget < e.total) (evictOldest (some candidate.msgId))
        (base ++ [candidate]).length
        (drain (fun e => foreignBudget < e.foreignTotal) (evictOldest (some candidate.msgId))
          (base ++ [candidate]).length (startState (base ++ [candidate]))) =
        evictedState candidate.msgId (startState (base ++ [candidate])) m ∧
      m ≤ (oldestFirst (foreign base)).length ∧ Stops foreignBudget totalBudget base candidate m := by
  generalize hn : (oldestFirst (foreign base)).length = n
  generalize he : startState (base ++ [candidate]) = e
  have hstate : ∀ k ≤ n, Tracks (evictedState candidate.msgId e k) (evictedRows base candidate k) :=
    hn ▸ evictedState_spec h hmax (he ▸ ⟨rfl, rfl, rfl⟩)
  have hnext : ∀ k < n, evictOldest (some candidate.msgId) (evictedState candidate.msgId e k) =
      some (evictedState candidate.msgId e (k + 1)) := by
    intro k hk
    rw [evictOldest_evictedState h (hstate k (le_of_lt hk)), hn, if_pos hk]
  have hend : evictOldest (some candidate.msgId) (evictedState candidate.msgId e n) = none := by
    rw [evictOldest_evictedState h (hstate n (le_refl n)), hn, if_neg (lt_irrefl n)]
  have hfuel : n ≤ (base ++ [candidate]).length := by
    rw [← hn, oldestFirst, length_insertionSort]
    exact (foreign_sublist.trans (sublist_append_left base [candidate])).length_le
  obtain ⟨m₁, _, hm₁, hdrain₁, hover₁, hstop₁⟩ :=
    drain_numbered (fun e : Enforcing => foreignBudget < e.foreignTotal) hnext hend
      (Nat.zero_le n) (le_trans hfuel (Nat.le_add_left _ 0))
  obtain ⟨m, hm₁m, hm, hdrain, hover, hstop⟩ :=
    drain_numbered (fun e : Enforcing => totalBudget < e.total) hnext hend hm₁
      (le_trans hfuel (Nat.le_add_left _ m₁))
  have hstart : evictedState candidate.msgId e 0 = e := rfl
  refine ⟨m, ?_, hm, ⟨?_, ?_, ?_⟩⟩
  · rw [hstart] at hdrain₁
    rw [hdrain₁, hdrain]
  · intro j hj
    have htracks := hstate j (by omega)
    by_cases hfirst : j < m₁
    · right
      rw [← htracks.foreign]
      exact of_decide_eq_true (hover₁ j (Nat.zero_le j) hfirst)
    · left
      rw [← htracks.total]
      exact of_decide_eq_true (hover j (Nat.le_of_not_lt hfirst) hj)
  · rcases hstop with hlast | hstop
    · rw [hlast, ← hn, evictedRows_all]
      exact hfitTotal
    · rw [(hstate m hm).total] at hstop
      exact not_lt.mp (of_decide_eq_false hstop)
  · -- the second loop does not undo the first
    rcases hstop₁ with hlast | hstop₁
    · have hfamily : foreign (family base) = [] :=
        foreign_of_family fun row hrow => by simpa using (mem_filter.mp hrow).2
      have hlast' : m = n := by omega
      rw [hlast', ← hn, evictedRows_all, foreign_append, hfamily, nil_append]
      exact hfitForeign
    · rw [(hstate m₁ hm₁).foreign] at hstop₁
      have hsub : (foreign (evictedRows base candidate m)).Sublist
          (foreign (evictedRows base candidate m₁)) := (evictedRows_sublist_of_le hm₁m).filter _
      exact le_trans (bytes_le_of_sublist hsub) (not_lt.mp (of_decide_eq_false hstop₁))

/-- Enforcement after a candidate that can fit. -/
theorem enforce_spec (h : QueueOk (base ++ [candidate])) (hmax : bytes (base ++ [candidate]) ≤ i64Max)
    (hforeign : 0 ≤ foreignBudget) (htotal : 0 ≤ totalBudget)
    (hfitForeign : bytes (foreign [candidate]) ≤ foreignBudget)
    (hfitTotal : bytes (family base ++ [candidate]) ≤ totalBudget) :
    ∃ pressure m, pressure.withinBudget = true ∧
      enforceCarriedBudgetsProtecting foreignBudget totalBudget (some candidate.msgId)
        (base ++ [candidate]) = .ok (pressure, evictedRows base candidate m) ∧
      Stops foreignBudget totalBudget base candidate m := by
  have hmaxForeign : bytes (foreign (base ++ [candidate])) ≤ i64Max :=
    le_trans (bytes_le_of_sublist foreign_sublist) hmax
  obtain ⟨m, hdrain, hm, hstops⟩ := loops_stop h hmax hfitForeign hfitTotal
  have hstate := evictedState_spec h hmax (e := startState (base ++ [candidate])) ⟨rfl, rfl, rfl⟩ m hm
  have hwithin : decide (bytes (foreign (evictedRows base candidate m)) ≤ foreignBudget ∧
      (evictedState candidate.msgId (startState (base ++ [candidate])) m).total ≤ totalBudget) = true := by
    rw [hstate.total]
    exact decide_eq_true ⟨hstops.foreign, hstops.total⟩
  refine ⟨{ (evictedState candidate.msgId (startState (base ++ [candidate])) m).pressure with
    totalBytes := max (evictedState candidate.msgId (startState (base ++ [candidate])) m).total 0
    withinBudget := true }, m, rfl, ?_, hstops⟩
  unfold enforceCarriedBudgetsProtecting
  rw [Tx.get_bind, max_eq_left hforeign, max_eq_left htotal,
    (h.sublist foreign_sublist).sumSizeBytes_of_le hmaxForeign, Tx.bind_apply_ok (Tx.lift_ok_apply _ _),
    h.sumSizeBytes_of_le hmax, Tx.bind_apply_ok (Tx.lift_ok_apply _ _),
    show Enforcing.mk (base ++ [candidate]) (bytes (foreign (base ++ [candidate])))
      (bytes (base ++ [candidate])) {} = startState (base ++ [candidate]) from rfl, hdrain,
    hstate.rows, hstate.foreign, hwithin]
  rfl

/-- Enforcement where the total of the table does not fit an `i64`. -/
theorem enforce_overflow {rows : List CarriedRow} (h : QueueOk rows) (hover : i64Max < bytes rows)
    {msgId : Option Bytes} :
    enforceCarriedBudgetsProtecting foreignBudget totalBudget msgId rows =
      .error (.store "integer overflow") := by
  unfold enforceCarriedBudgetsProtecting
  rw [Tx.get_bind, h.sumSizeBytes_of_lt hover]
  by_cases hforeign : bytes (foreign rows) ≤ i64Max
  · rw [(h.sublist foreign_sublist).sumSizeBytes_of_le hforeign]
    rfl
  · rw [(h.sublist foreign_sublist).sumSizeBytes_of_lt (not_le.mp hforeign)]
    rfl

theorem evictedRows_admission {m : Nat} (h : Stops foreignBudget totalBudget base candidate m) :
    Admission foreignBudget totalBudget base [candidate] ((oldestFirst (foreign base)).take m)
      (evictedRows base candidate m) where
  rows := rfl
  oldest := take_prefix _ _
  needed := by
    intro fewer hfewer hne
    -- a shorter prefix is what an earlier turn had evicted
    have hlength : fewer.length < ((oldestFirst (foreign base)).take m).length :=
      lt_of_le_of_ne hfewer.length_le fun heq => hne (hfewer.eq_of_length heq)
    have hfewer' : fewer = (oldestFirst (foreign base)).take fewer.length :=
      prefix_iff_eq_take.mp (hfewer.trans (List.take_prefix m _))
    have hlt : fewer.length < m := lt_of_lt_of_le hlength (length_take_le _ _)
    have hover := h.needed fewer.length hlt
    unfold evictedRows at hover
    rwa [← hfewer'] at hover
  within := fun _ => ⟨h.total, h.foreign⟩
  idle := fun h => absurd h (cons_ne_nil _ _)

/-- Whether the candidate can fit is what the loops will find, where the sums are read at
all. -/
theorem canFit_spec (h : QueueOk (base ++ [candidate])) (hforeign : 0 ≤ foreignBudget)
    (htotal : 0 ≤ totalBudget) (hmax : bytes (base ++ [candidate]) ≤ i64Max) :
    carriedAdmissionCanFit (base ++ [candidate]) candidate.isFamily candidate.sizeBytes foreignBudget
      totalBudget = .ok (decide (bytes (foreign [candidate]) ≤ foreignBudget ∧
        bytes (family base ++ [candidate]) ≤ totalBudget)) := by
  have hsize : candidate.sizeBytes = candidate.body.length := h.sizes candidate (by simp)
  have hfamilyOk : QueueOk (family (base ++ [candidate])) := h.sublist filter_sublist
  have hle : bytes (family (base ++ [candidate])) ≤ i64Max :=
    le_trans (bytes_le_of_sublist filter_sublist) hmax
  have hsplit : family (base ++ [candidate]) = family base ++ family [candidate] := filter_append ..
  unfold carriedAdmissionCanFit
  rw [hfamilyOk.sumSizeBytes_of_le hle, max_eq_left hforeign, max_eq_left htotal, hsplit]
  cases hkind : candidate.isFamily with
  | true =>
    have hself : family [candidate] = [candidate] := filter_cons_of_pos (by simp [hkind])
    have hnone : foreign [candidate] = [] := filter_cons_of_neg (by simp [hkind])
    rw [hself, hnone]
    simp [hforeign, bytes]
  | false =>
    have hself : foreign [candidate] = [candidate] := filter_cons_of_pos (by simp [hkind])
    have hnone : family [candidate] = [] := filter_cons_of_neg (by simp [hkind])
    have hbase : bytes (family base) ≤ bytes base := bytes_le_of_sublist filter_sublist
    have hpos := bytes_nonneg (family base)
    have hmin : i64Min ≤ 0 := by decide
    rw [bytes_append, bytes_singleton] at hmax
    show Except.ok _ = _
    rw [hself, hnone, append_nil, hsize, bytes_singleton, bytes_append, bytes_singleton,
      saturateI64_of_mem (by omega) (by omega)]

/-- The decision about a candidate that was just inserted. -/
theorem finalize_spec (h : QueueOk (base ++ [candidate])) (hforeign : 0 ≤ foreignBudget)
    (htotal : 0 ≤ totalBudget) :
    finalizeCarriedAdmission candidate.msgId candidate.isFamily candidate.sizeBytes foreignBudget
        totalBudget (base ++ [candidate]) = .error (.store "integer overflow") ∨
      finalizeCarriedAdmission candidate.msgId candidate.isFamily candidate.sizeBytes foreignBudget
        totalBudget (base ++ [candidate]) = .ok (false, base) ∨
      ∃ gone after,
        finalizeCarriedAdmission candidate.msgId candidate.isFamily candidate.sizeBytes foreignBudget
          totalBudget (base ++ [candidate]) = .ok (true, after) ∧
        Admission foreignBudget totalBudget base [candidate] gone after := by
  have hdelete : (base ++ [candidate]).filter (·.msgId ≠ candidate.msgId) = base := by
    rw [filter_append, filter_cons_of_neg (by simp), filter_nil, append_nil]
    exact filter_eq_self.mpr fun row hrow => by simpa using fresh_of_queueOk h hrow
  unfold finalizeCarriedAdmission
  rw [Tx.get_bind]
  by_cases hmax : bytes (base ++ [candidate]) ≤ i64Max
  · rw [canFit_spec h hforeign htotal hmax, Tx.bind_apply_ok (Tx.lift_ok_apply _ _)]
    by_cases hfit : bytes (foreign [candidate]) ≤ foreignBudget ∧
        bytes (family base ++ [candidate]) ≤ totalBudget
    · obtain ⟨pressure, m, hwithin, henforce, hstops⟩ :=
        enforce_spec h hmax hforeign htotal hfit.1 hfit.2
      rw [if_neg (by simpa using hfit), Tx.bind_apply_ok henforce, if_neg (by simp [hwithin])]
      exact .inr (.inr ⟨_, _, rfl, evictedRows_admission hstops⟩)
    · rw [if_pos (decide_eq_false hfit), Tx.bind_apply_ok (Tx.modify_apply _ _), hdelete]
      exact .inr (.inl rfl)
  · -- the total of the table is not read, so nothing can be admitted
    cases hfits : carriedAdmissionCanFit (base ++ [candidate]) candidate.isFamily candidate.sizeBytes
        foreignBudget totalBudget with
    | error e =>
      -- only a sum can fail
      have hfamily : QueueOk (family (base ++ [candidate])) := h.sublist filter_sublist
      unfold carriedAdmissionCanFit at hfits
      by_cases hmax : bytes (family (base ++ [candidate])) ≤ i64Max
      · rw [hfamily.sumSizeBytes_of_le hmax] at hfits
        generalize candidate.isFamily = isFamily at hfits
        cases isFamily <;> cases hfits
      · rw [hfamily.sumSizeBytes_of_lt (not_le.mp hmax)] at hfits
        cases hfits
        exact .inl rfl
    | ok fits =>
      rw [Tx.bind_apply_ok (Tx.lift_ok_apply _ _)]
      cases fits with
      | true =>
        rw [if_neg (by decide), Tx.bind_apply_error (enforce_overflow h (not_le.mp hmax))]
        exact .inl rfl
      | false =>
        rw [if_pos rfl, Tx.bind_apply_ok (Tx.modify_apply _ _), hdelete]
        exact .inr (.inl rfl)

end Enforcement

/-! ## A sequence of admissions -/

namespace Admission
variable {foreignBudget totalBudget : Int} {before mid after admitted more gone last : List CarriedRow}

/-- Nothing was admitted and nothing happened. -/
theorem refl (foreignBudget totalBudget : Int) (rows : List CarriedRow) :
    Admission foreignBudget totalBudget rows [] [] rows where
  rows := by rw [append_nil, filter_eq_self.mpr (by simp)]
  oldest := nil_prefix
  needed := fun fewer hfewer hne => absurd (prefix_nil.mp hfewer) hne
  within := fun h => absurd rfl h
  idle := fun _ => rfl

section Admitted
variable (h : Admission foreignBudget totalBudget before admitted gone after)
include h

theorem gone_foreign {row : CarriedRow} (hrow : row ∈ gone) : row ∈ before ∧ row.isFamily = false := by
  have hmem := (mem_insertionSort _).mp (h.oldest.subset hrow)
  obtain ⟨hbefore, hfamily⟩ := mem_filter.mp hmem
  exact ⟨hbefore, by simpa using hfamily⟩

/-- A row for someone this device knows is never evicted. -/
theorem family_kept {row : CarriedRow} (hrow : row ∈ before) (hfamily : row.isFamily = true) : row ∈ after := by
  rw [h.rows]
  refine mem_append_left _ (mem_filter.mpr ⟨hrow, ?_⟩)
  have hnot : row ∉ gone := fun hgone => by
    have hforeign := (h.gone_foreign hgone).2
    rw [hfamily] at hforeign
    exact Bool.noConfusion hforeign
  simpa using hnot

theorem unchanged (hnone : admitted = []) : after = before := by
  rw [h.rows, h.idle hnone, hnone, append_nil, filter_eq_self.mpr (by simp)]

theorem sublist : after.Sublist (before ++ admitted) := by
  rw [h.rows]
  exact filter_sublist.append (List.Sublist.refl _)

end Admitted

/-- Evicting more leaves what evicting both leaves, where the rows admitted first are none
of those. -/
theorem filter_filter (hapart : ∀ row ∈ admitted, row ∉ last) (rows : List CarriedRow) :
    (rows.filter (· ∉ gone) ++ admitted).filter (· ∉ last) =
      rows.filter (· ∉ gone ++ last) ++ admitted := by
  rw [List.filter_append, List.filter_filter]
  congr 1
  · refine List.filter_congr fun row _ => ?_
    simp only [List.mem_append, not_or]
    rw [Bool.decide_and, Bool.and_comm]
  · exact List.filter_eq_self.mpr fun row hrow => by simpa using hapart row hrow

/-- Two admissions in a row, of which the first added family rows only, are one. -/
theorem trans (hbefore : QueueOk before)
    (h : Admission foreignBudget totalBudget before admitted gone mid)
    (h' : Admission foreignBudget totalBudget mid more last after)
    (hfamily : ∀ row ∈ admitted, row.isFamily = true) :
    Admission foreignBudget totalBudget before (admitted ++ more) (gone ++ last) after := by
  have hapart : ∀ row ∈ admitted, row ∉ last := fun row hrow hlast => by
    have hforeign := (h'.gone_foreign hlast).2
    rw [hfamily row hrow] at hforeign
    exact Bool.noConfusion hforeign
  have hforeignMid : foreign mid = (foreign before).filter (· ∉ gone) := by
    rw [h.rows, foreign_append, foreign_of_family hfamily, append_nil, foreign_filter]
  have hgoneTake : gone = (oldestFirst (foreign before)).take gone.length :=
    prefix_iff_eq_take.mp h.oldest
  have hok : QueueOk (foreign before) := hbefore.sublist foreign_sublist
  -- the second admission went on where the first had stopped
  have hrest : oldestFirst (foreign mid) = (oldestFirst (foreign before)).drop gone.length := by
    have hsort := sort_filter_take CarriedRow.Older hok.nodup
      (fun a ha b hb hab hba => hok.eq_of_msgId ha hb (hab.msgId_eq hba)) gone.length
    rw [hforeignMid]
    conv_lhs => rw [hgoneTake]
    exact hsort
  refine ⟨?_, ?_, ?_, ?_, ?_⟩
  · rw [h'.rows, h.rows, filter_filter hapart, append_assoc]
  · obtain ⟨tail, htail⟩ := h'.oldest
    refine ⟨tail, ?_⟩
    rw [append_assoc, htail, hrest]
    conv_lhs => rw [hgoneTake]
    rw [length_take, Nat.min_eq_left h.oldest.length_le, take_append_drop]
  · intro fewer hfewer hne
    rcases prefix_or_prefix_of_prefix hfewer (prefix_append gone last) with hshort | hlong
    · by_cases hgone : fewer = gone
      · -- all of the first part: what is missing is the second
        have hlast : [] ≠ last := fun hnil => hne (by rw [hgone, ← hnil, append_nil])
        have hover := h'.needed [] nil_prefix hlast
        rw [h.rows, filter_filter (by simp), append_nil, append_assoc, ← hgone] at hover
        exact hover
      · -- even without the rows admitted later a budget was exceeded
        have hover := h.needed fewer hshort hgone
        have hmore := bytes_nonneg more
        have hmoreForeign := bytes_nonneg (foreign more)
        simp only [bytes_append, foreign_append] at hover ⊢
        omega
    · obtain ⟨fewer', rfl⟩ := hlong
      have hover := h'.needed fewer' ((prefix_append_right_inj gone).mp hfewer)
        fun heq => hne (by rw [heq])
      have hapart' : ∀ row ∈ admitted, row ∉ fewer' := fun row hrow hmem =>
        hapart row hrow (((prefix_append_right_inj gone).mp hfewer).subset hmem)
      rw [h.rows, filter_filter hapart', append_assoc] at hover
      exact hover
  · intro hsome
    by_cases hmore : more = []
    · rw [h'.unchanged hmore]
      exact h.within fun hnone => hsome (by rw [hnone, hmore]; rfl)
    · exact h'.within hmore
  · intro hnone
    obtain ⟨hfirst, hsecond⟩ := append_eq_nil_iff.mp hnone
    rw [h.idle hfirst, h'.idle hsecond]
    rfl

end Admission
end Carry
end CruiseMesh
