import CruiseMesh.Mesh.Receive

/-!
# What the seen set holds

`Inner` of `gossip.rs` keeps its ids twice: in a hash set, for the lookup, and in a queue, for the
order in which they go. An envelope that arrives is judged by `SeenIds`, which is the queue; here
the two are kept apart as the code has them, and `SeenIds` is shown to be what they stand for.
-/

namespace CruiseMesh
open List

/-- `Inner`. -/
structure SeenInner where
  seen : Finset Bytes
  order : List Bytes
  capacity : Nat

inductive SeenCall where
  | checkAndRecord (msgId : Bytes)
  | record (msgId : Bytes)
  | contains (msgId : Bytes)

namespace SeenInner

def new (capacity : Nat) : SeenInner := ⟨∅, [], max capacity 1⟩

/-- The loop of `insert`: the oldest id leaves the queue and the set until the others fit. -/
def evict (capacity : Nat) (seen : Finset Bytes) : List Bytes → Finset Bytes × List Bytes
  | [] => (seen, [])
  | evicted :: order =>
    if capacity < order.length + 1 then evict capacity (seen.erase evicted) order
    else (seen, evicted :: order)

variable (inner : SeenInner) (msgId : Bytes)

/-- `insert`, of an id that is assumed not to be present. -/
def insert : SeenInner :=
  let (seen, order) := evict inner.capacity ({msgId} ∪ inner.seen) (inner.order ++ [msgId])
  { inner with seen, order }

/-- `check_and_record`. -/
def checkAndRecord : Bool × SeenInner :=
  if msgId ∈ inner.seen then (false, inner) else (true, inner.insert msgId)

def contains : Bool × SeenInner := (msgId ∈ inner.seen, inner)

def record : SeenInner := if msgId ∉ inner.seen then inner.insert msgId else inner

def call : SeenCall → SeenInner
  | .checkAndRecord msgId => (inner.checkAndRecord msgId).2
  | .record msgId => inner.record msgId
  | .contains msgId => (inner.contains msgId).2

theorem evict_toFinset {capacity : Nat} : ∀ {order : List Bytes}, order.Nodup →
    evict capacity order.toFinset order =
      ((order.drop (order.length - capacity)).toFinset, order.drop (order.length - capacity))
  | [], _ => by simp [evict]
  | evicted :: order, h => by
    obtain ⟨hnew, hnodup⟩ := nodup_cons.mp h
    rw [evict, length_cons]
    split
    · rw [toFinset_cons, Finset.erase_insert (by simpa using hnew), evict_toFinset hnodup,
        Nat.succ_sub (by omega), drop_succ_cons]
    · rw [Nat.sub_eq_zero_of_le (by omega), drop_zero]

end SeenInner

/-- The two parts that a seen set is kept in. -/
def SeenIds.inner (ids : SeenIds) : SeenInner := ⟨ids.order.toFinset, ids.order, ids.capacity⟩

/-- The last ids of a log, as many as fit. -/
def newest (capacity : Nat) (log : List Bytes) : List Bytes := log.drop (log.length - capacity)

/-- The log of the ids as they are recorded: an id comes again once it is no longer among the last
ones, which is to say that it has been evicted. -/
def recorded (capacity : Nat) (log : List Bytes) (msgId : Bytes) : List Bytes :=
  if msgId ∈ newest capacity log then log else log ++ [msgId]

/-- The log after a call. -/
def recordings (capacity : Nat) (log : List Bytes) : SeenCall → List Bytes
  | .checkAndRecord msgId | .record msgId => recorded capacity log msgId
  | .contains _ => log

section Run
variable {ids : SeenIds} {log : List Bytes} {msgId : Bytes}

theorem insert_inner (h : msgId ∉ ids.order) :
    ids.inner.insert msgId = (ids.insert msgId h).inner := by
  have hnodup : (ids.order ++ [msgId]).Nodup :=
    List.Nodup.append ids.nodup (nodup_singleton _) (disjoint_singleton.mpr h)
  have hseen : {msgId} ∪ ids.inner.seen = (ids.order ++ [msgId]).toFinset := by
    rw [toFinset_append, Finset.union_comm]
    rfl
  unfold SeenInner.insert
  rw [hseen]
  show (match SeenInner.evict ids.capacity _ (ids.order ++ [msgId]) with
    | (seen, order) => (⟨seen, order, ids.capacity⟩ : SeenInner)) = _
  rw [SeenInner.evict_toFinset hnodup]
  rfl

theorem record_inner : ids.inner.record msgId = (ids.record msgId).inner := by
  unfold SeenInner.record SeenIds.record
  by_cases h : msgId ∈ ids.order
  · rw [dif_pos h]
    exact if_neg (not_not.mpr (mem_toFinset.mpr h))
  · rw [dif_neg h, ← insert_inner h]
    exact if_pos fun hseen => h (mem_toFinset.mp hseen)

/-- Recording an id keeps the queue at the end of the log. -/
theorem order_record (horder : ids.order = newest ids.capacity log) :
    (ids.record msgId).capacity = ids.capacity ∧
      (ids.record msgId).order = newest ids.capacity (recorded ids.capacity log msgId) := by
  unfold SeenIds.record recorded
  rw [← horder]
  by_cases h : msgId ∈ ids.order
  · rw [dif_pos h, if_pos h]
    exact ⟨rfl, horder⟩
  · rw [dif_neg h, if_neg h]
    refine ⟨rfl, ?_⟩
    show newest _ (ids.order ++ [msgId]) = _
    unfold newest at horder ⊢
    rw [horder, ← drop_append_of_le_length (Nat.sub_le _ _), drop_drop]
    congr 1
    simp only [length_drop, length_append, length_singleton]
    omega

theorem run_inner (capacity : Nat) (calls : List SeenCall) :
    ∃ ids : SeenIds, calls.foldl SeenInner.call (.new capacity) = ids.inner ∧
      ids.capacity = max capacity 1 ∧
      ids.order = newest (max capacity 1) (calls.foldl (recordings (max capacity 1)) []) := by
  induction calls using reverseRecOn with
  | nil => exact ⟨.new capacity, rfl, rfl, drop_nil.symm⟩
  | append_singleton calls call ih =>
    obtain ⟨ids, hrun, hcapacity, horder⟩ := ih
    rw [foldl_append, foldl_append, hrun, ← hcapacity]
    rw [← hcapacity] at horder
    cases call with
    | contains msgId => exact ⟨ids, rfl, rfl, horder⟩
    | record msgId => exact ⟨ids.record msgId, record_inner, order_record horder⟩
    | checkAndRecord msgId =>
      refine ⟨ids.record msgId, ?_, order_record horder⟩
      rw [← record_inner]
      show (ids.inner.checkAndRecord msgId).2 = _
      unfold SeenInner.checkAndRecord SeenInner.record
      split <;> rfl

end Run

/-- Whatever is called, the hash set and the queue hold the same ids, each once and no more than the
capacity, and these are the last of the ids in the order they were recorded. -/
theorem seen_set_holds_last (capacity : Nat) (calls : List SeenCall) :
    let inner := calls.foldl SeenInner.call (.new capacity)
    inner.seen = inner.order.toFinset ∧ inner.order.Nodup ∧
      inner.order.length ≤ max capacity 1 ∧
      inner.order = newest (max capacity 1) (calls.foldl (recordings (max capacity 1)) []) ∧
      ∀ msgId, ((inner.checkAndRecord msgId).1 = true ↔ msgId ∉ inner.order) ∧
        ((inner.contains msgId).1 = true ↔ msgId ∈ inner.order) ∧
        (inner.contains msgId).2 = inner := by
  obtain ⟨ids, hrun, hcapacity, horder⟩ := run_inner capacity calls
  rw [hrun]
  refine ⟨rfl, ids.nodup, hcapacity ▸ ids.bounded, horder, fun msgId => ⟨?_, ?_, rfl⟩⟩
  · unfold SeenInner.checkAndRecord
    by_cases h : msgId ∈ ids.order
    · simp [SeenIds.inner, h]
    · simp [SeenIds.inner, h]
  · simp [SeenInner.contains, SeenIds.inner]

end CruiseMesh
