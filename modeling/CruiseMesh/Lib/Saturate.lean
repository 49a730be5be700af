import Mathlib

/-!
# Marking to a fixpoint

A row of marks is swept from left to right again and again; a sweep marks every
unmarked index that is *enabled* by the marks made so far, this sweep's own
included, and the loop stops after the first sweep that marks nothing. Such a loop
computes the least set closed under `enabled` when `enabled` is monotone; what its
callers need of it is proved here for any `enabled`:

* `saturate_closed`: when it stops, no unmarked index is enabled;
* `saturate_induction`: whatever holds of the first marks and is kept by marking an
  enabled index holds of the last ones;
* `saturate_passes`: how many sweeps it takes.

Every sweep that goes on has one unmarked index fewer, so as many rounds as there
are indices, and one more to notice the end, are always enough.
-/

namespace Saturate
open List
variable (enabled : List Bool → Nat → Bool)

/-- Look at one index: an unmarked, enabled one is marked, and the sweep has grown. -/
def visit (st : List Bool × Bool) (i : Nat) : List Bool × Bool :=
  if st.1.getD i false then st
  else if enabled st.1 i then (st.1.set i true, true)
  else st

/-- One sweep over all indices, saying whether it marked any. -/
def sweep (marks : List Bool) : List Bool × Bool :=
  (List.range marks.length).foldl (visit enabled) (marks, false)

/-- Sweep until a sweep marks nothing. -/
def saturateFor : Nat → List Bool → List Bool
  | 0, marks => marks
  | fuel + 1, marks =>
    if (sweep enabled marks).2 then saturateFor fuel (sweep enabled marks).1
    else (sweep enabled marks).1

/-- The whole loop, from the given marks to the fixpoint. -/
def saturate (marks : List Bool) : List Bool := saturateFor enabled (marks.length + 1) marks

/-- No unmarked index is enabled. -/
def Closed (marks : List Bool) : Prop :=
  ∀ i < marks.length, marks.getD i false = true ∨ enabled marks i = false

/-- A visit does nothing, or marks an index that was neither marked nor out of range. -/
theorem visit_cases (st : List Bool × Bool) (i : Nat) :
    (visit enabled st i = st ∧ (st.1.getD i false = true ∨ enabled st.1 i = false)) ∨
    (st.1.getD i false = false ∧ enabled st.1 i = true ∧
      visit enabled st i = (st.1.set i true, true)) := by
  unfold visit
  split
  · next hm => exact .inl ⟨rfl, .inl hm⟩
  · next hm =>
    split
    · next he => exact .inr ⟨by simpa using hm, he, rfl⟩
    · next he => exact .inl ⟨rfl, .inr (by simpa using he)⟩

/-- Marking an unmarked index leaves fewer unmarked ones. -/
theorem count_false_set {marks : List Bool} {i : Nat} (hi : i < marks.length)
    (hm : marks.getD i false = false) :
    (marks.set i true).count false < marks.count false := by
  have hget : marks[i] = false := by simpa [getD, hi] using hm
  have hpos : 0 < marks.count false := count_pos_iff.mpr (hget ▸ getElem_mem hi)
  rw [count_set hi, hget]
  simp only [beq_self_eq_true, if_true, beq_iff_eq, Bool.true_eq_false, if_false]
  omega

/-- Visits in a row either change nothing, every index having been marked or not
enabled, or grow the marks. -/
theorem visits_cases : ∀ (is : List Nat) (st : List Bool × Bool),
    (∀ i ∈ is, i < st.1.length) →
    (is.foldl (visit enabled) st = st ∧
      ∀ i ∈ is, st.1.getD i false = true ∨ enabled st.1 i = false) ∨
    ((is.foldl (visit enabled) st).2 = true ∧
      (is.foldl (visit enabled) st).1.length = st.1.length ∧
      (is.foldl (visit enabled) st).1.count false < st.1.count false)
  | [], st, _ => .inl ⟨rfl, by simp⟩
  | i :: is, st, hin => by
    rw [foldl_cons]
    rcases visit_cases enabled st i with ⟨heq, hquiet⟩ | ⟨hm, _, heq⟩
    · rw [heq]
      have hrest := visits_cases is st fun j hj => hin j (mem_cons_of_mem _ hj)
      rcases hrest with ⟨hsame, hall⟩ | hgrew
      · exact .inl ⟨hsame, by simpa using ⟨hquiet, hall⟩⟩
      · exact .inr hgrew
    · rw [heq]
      have hlt := count_false_set (hin i mem_cons_self) hm
      have hrest := visits_cases is (st.1.set i true, true)
        (by simpa using fun j hj => hin j (mem_cons_of_mem _ hj))
      rcases hrest with ⟨hsame, _⟩ | ⟨hgrew, hlen, hcount⟩
      · rw [hsame]; exact .inr ⟨rfl, by simp, hlt⟩
      · exact .inr ⟨hgrew, by simpa using hlen, by simp only at hcount; omega⟩

theorem sweep_cases (marks : List Bool) :
    (sweep enabled marks = (marks, false) ∧ Closed enabled marks) ∨
    ((sweep enabled marks).2 = true ∧ (sweep enabled marks).1.length = marks.length ∧
      (sweep enabled marks).1.count false < marks.count false) := by
  rcases visits_cases enabled (List.range marks.length) (marks, false)
    (by simp) with ⟨hsame, hall⟩ | hgrew
  · exact .inl ⟨hsame, fun i hi => hall i (mem_range.mpr hi)⟩
  · exact .inr hgrew

/-- With more rounds than unmarked indices the loop ends at a fixpoint. -/
theorem saturateFor_closed : ∀ (fuel : Nat) (marks : List Bool), marks.count false < fuel →
    Closed enabled (saturateFor enabled fuel marks) ∧
      (saturateFor enabled fuel marks).length = marks.length
  | 0, _, h => absurd h (Nat.not_lt_zero _)
  | fuel + 1, marks, h => by
    unfold saturateFor
    rcases sweep_cases enabled marks with ⟨heq, hclosed⟩ | ⟨hgrew, hlen, hcount⟩
    · rw [heq]; exact ⟨hclosed, rfl⟩
    · rw [if_pos hgrew, ← hlen]
      exact saturateFor_closed fuel _ (by omega)

theorem saturate_closed (marks : List Bool) :
    Closed enabled (saturate enabled marks) ∧ (saturate enabled marks).length = marks.length :=
  saturateFor_closed enabled _ _ (Nat.lt_succ_of_le count_le_length)

/-- The marks after some number of sweeps. -/
def swept : Nat → List Bool → List Bool
  | 0, marks => marks
  | passes + 1, marks => swept passes (sweep enabled marks).1

theorem saturateFor_passes : ∀ (fuel : Nat) (marks : List Bool), marks.count false < fuel →
    ∃ passes ≤ marks.count false,
      saturateFor enabled fuel marks = swept enabled passes marks ∧
      (sweep enabled (swept enabled passes marks)).2 = false ∧
      ∀ earlier < passes, (sweep enabled (swept enabled earlier marks)).2 = true
  | 0, _, h => absurd h (Nat.not_lt_zero _)
  | fuel + 1, marks, h => by
    unfold saturateFor
    rcases sweep_cases enabled marks with ⟨heq, _⟩ | ⟨hgrew, _, hcount⟩
    · refine ⟨0, Nat.zero_le _, ?_, ?_, fun earlier hearlier => absurd hearlier (Nat.not_lt_zero _)⟩
      · rw [heq]; rfl
      · show (sweep enabled marks).2 = false
        rw [heq]
    rw [if_pos hgrew]
    obtain ⟨passes, hle, hend, hquiet, hearlier⟩ :=
      saturateFor_passes fuel (sweep enabled marks).1 (by omega)
    refine ⟨passes + 1, by omega, hend, hquiet, ?_⟩
    intro earlier hlt
    cases earlier with
    | zero => exact hgrew
    | succ earlier => exact hearlier earlier (by omega)

/-- The loop ends with the first sweep that marks nothing, and before that one there are no more
sweeps than indices. -/
theorem saturate_passes (marks : List Bool) : ∃ passes ≤ marks.length,
    saturate enabled marks = swept enabled passes marks ∧
    (sweep enabled (swept enabled passes marks)).2 = false ∧
    ∀ earlier < passes, (sweep enabled (swept enabled earlier marks)).2 = true := by
  have hcount : marks.count false ≤ marks.length := count_le_length
  obtain ⟨passes, hle, hrest⟩ :=
    saturateFor_passes enabled (marks.length + 1) marks (Nat.lt_succ_of_le hcount)
  exact ⟨passes, Nat.le_trans hle hcount, hrest⟩

section Induction
variable {enabled} {Inv : List Bool → Prop}
  (hset : ∀ marks i, i < marks.length → enabled marks i = true → Inv marks →
    Inv (marks.set i true))
include hset

theorem visits_induction : ∀ (is : List Nat) (st : List Bool × Bool),
    (∀ i ∈ is, i < st.1.length) → Inv st.1 → Inv (is.foldl (visit enabled) st).1
  | [], _, _, h => h
  | i :: is, st, hin, h => by
    rw [foldl_cons]
    rcases visit_cases enabled st i with ⟨heq, _⟩ | ⟨_, he, heq⟩
    · rw [heq]
      exact visits_induction is st (fun j hj => hin j (mem_cons_of_mem _ hj)) h
    · rw [heq]
      refine visits_induction is _ ?_ (hset _ _ (hin i mem_cons_self) he h)
      simpa using fun j hj => hin j (mem_cons_of_mem _ hj)

theorem saturateFor_induction : ∀ (fuel : Nat) (marks : List Bool), Inv marks →
    Inv (saturateFor enabled fuel marks)
  | 0, _, h => h
  | fuel + 1, marks, h => by
    have hswept : Inv (sweep enabled marks).1 :=
      visits_induction hset _ (marks, false) (by simp) h
    unfold saturateFor
    split
    · exact saturateFor_induction fuel _ hswept
    · exact hswept

theorem saturate_induction {marks : List Bool} (h : Inv marks) : Inv (saturate enabled marks) :=
  saturateFor_induction hset _ _ h

end Induction
end Saturate
