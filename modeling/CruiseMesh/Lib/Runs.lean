import Mathlib

/-!
# States along a run

A run feeds a list of inputs to a step function, and the properties worth having
of it speak about two moments of it: nothing seen at moment `i` is lost at a later
moment `j`, or nothing changes from `i` on until some release. This module has the
state at each moment and the induction rules for such properties.
-/

namespace Runs
open List
variable {σ α : Type}

/-- The state after the first `n` inputs of `l`. -/
def stateAt (step : σ → α → σ) (s : σ) (l : List α) (n : Nat) : σ := (l.take n).foldl step s

variable {step : σ → α → σ} {s : σ} {l : List α}

@[simp] theorem stateAt_zero : stateAt step s l 0 = s := by simp [stateAt]

/-- One more input is one more step. -/
theorem stateAt_succ {n : Nat} (hn : n < l.length) :
    stateAt step s l (n + 1) = step (stateAt step s l n) l[n] := by
  rw [stateAt, take_succ_eq_append_getElem hn, foldl_append]
  rfl

/-- Past the end of the input nothing happens. -/
theorem stateAt_succ_of_length_le {n : Nat} (hn : l.length ≤ n) :
    stateAt step s l (n + 1) = stateAt step s l n := by
  simp [stateAt, take_of_length_le hn, take_of_length_le (Nat.le_succ_of_le hn)]

/-- From one moment to the next there is a step, or the input is used up. -/
theorem stateAt_step {R : σ → σ → Prop} {n : Nat} (hend : R (stateAt step s l n) (stateAt step s l n))
    (hstep : ∀ a, l[n]? = some a → R (stateAt step s l n) (step (stateAt step s l n) a)) :
    R (stateAt step s l n) (stateAt step s l (n + 1)) := by
  by_cases hn : n < l.length
  · rw [stateAt_succ hn]
    exact hstep _ (getElem?_eq_getElem hn)
  · rw [stateAt_succ_of_length_le (by omega)]
    exact hend

/-- What each step from a moment on keeps holds from then on. -/
theorem stateAt_from (Inv : σ → Prop) {i j : Nat} (hij : i ≤ j) (hi : Inv (stateAt step s l i))
    (hstep : ∀ k a, i ≤ k → k < j → l[k]? = some a → Inv (stateAt step s l k) →
      Inv (step (stateAt step s l k) a)) : Inv (stateAt step s l j) := by
  induction j, hij using Nat.le_induction with
  | base => exact hi
  | succ j hij ih =>
    refine stateAt_step (R := fun t t' => Inv t → Inv t') id (fun a ha => ?_) (ih ?_)
    · exact hstep j a hij (Nat.lt_succ_self j) ha
    · exact fun k a hik hkj => hstep k a hik (Nat.lt_succ_of_lt hkj)

/-- An invariant that the step keeps under a condition on the state and the input is an
invariant of the runs that meet the condition at every step. -/
theorem stateAt_invariant_along (Inv : σ → Prop) (Ok : σ → α → Prop)
    (hstep : ∀ s a, Ok s a → Inv s → Inv (step s a)) (h0 : Inv s)
    (hok : ∀ (k : Nat) (a : α), l[k]? = some a → Ok (stateAt step s l k) a) (n : Nat) :
    Inv (stateAt step s l n) :=
  stateAt_from Inv (Nat.zero_le n) (by simpa using h0) fun k a _ _ ha => hstep _ _ (hok k a ha)

/-- An invariant of the step is an invariant of the run. -/
theorem stateAt_invariant (Inv : σ → Prop) (hstep : ∀ s a, Inv s → Inv (step s a))
    (h0 : Inv s) (n : Nat) : Inv (stateAt step s l n) :=
  stateAt_from Inv (Nat.zero_le n) (by simpa using h0) fun _ _ _ _ _ => hstep _ _

/-- What no step takes away holds of every input so far, at every moment, exactly when each step
brings it about for its own input. -/
theorem stateAt_all_iff {Q : σ → α → Prop} (hkeep : ∀ s a b, b ∈ l → Q s a → Q (step s b) a) :
    (∀ n, ∀ a ∈ l.take n, Q (stateAt step s l n) a) ↔
      ∀ (k : Nat) (hk : k < l.length), Q (step (stateAt step s l k) l[k]) l[k] := by
  constructor
  · intro h k hk
    have hsucc : stateAt step s l (k + 1) = step (stateAt step s l k) l[k] := stateAt_succ hk
    rw [← hsucc]
    refine h (k + 1) l[k] ?_
    rw [take_succ_eq_append_getElem hk]
    exact mem_append_right _ (mem_singleton.mpr rfl)
  · intro h n
    induction n with
    | zero => simp
    | succ n ih =>
      intro a ha
      by_cases hn : n < l.length
      · rw [stateAt_succ hn]
        rw [take_succ_eq_append_getElem hn] at ha
        rcases mem_append.mp ha with hold | hnew
        · exact hkeep _ _ _ (getElem_mem hn) (ih a hold)
        · rw [mem_singleton.mp hnew]
          exact h n hn
      · rw [stateAt_succ_of_length_le (by omega)]
        rw [take_of_length_le (by omega), ← take_of_length_le (Nat.not_lt.mp hn)] at ha
        exact ih a ha

/-! ## Runs that meet a condition -/

/-- Every step of the run meets a condition on the state it is taken in. -/
def Along (step : σ → α → σ) (Ok : σ → α → Prop) : σ → List α → Prop
  | _, [] => True
  | s, a :: l => Ok s a ∧ Along step Ok (step s a) l

instance instDecidableAlong {Ok : σ → α → Prop} [∀ s a, Decidable (Ok s a)] :
    (s : σ) → (l : List α) → Decidable (Along step Ok s l)
  | _, [] => isTrue trivial
  | s, a :: l =>
    have : Decidable (Along step Ok (step s a) l) := instDecidableAlong (step s a) l
    inferInstanceAs (Decidable (Ok s a ∧ Along step Ok (step s a) l))

theorem Along.take {Ok : σ → α → Prop} (h : Along step Ok s l) (n : Nat) :
    Along step Ok s (l.take n) := by
  induction l generalizing s n with
  | nil =>
    rw [take_nil]
    trivial
  | cons a l ih =>
    cases n with
    | zero => trivial
    | succ n => exact ⟨h.1, ih h.2 n⟩

theorem foldl_invariant_along {Ok : σ → α → Prop} (Inv : σ → Prop)
    (hstep : ∀ s a, Ok s a → Inv s → Inv (step s a)) (hok : Along step Ok s l) (h : Inv s) :
    Inv (l.foldl step s) := by
  induction l generalizing s with
  | nil => exact h
  | cons a l ih => exact ih hok.2 (hstep s a hok.1 h)

/-! ## Two moments of a sequence -/

section Sequences
variable {τ : Type} {x : Nat → τ}

/-- A transitive relation between each element and the next one holds between each
element and every later one. -/
theorem seq_related {R : τ → τ → Prop} (hrefl : ∀ n, R (x n) (x n))
    (htrans : ∀ {a b c}, R a b → R b c → R a c) (hstep : ∀ n, R (x n) (x (n + 1)))
    {i j : Nat} (hij : i ≤ j) : R (x i) (x j) := by
  induction j, hij using Nat.le_induction with
  | base => exact hrefl i
  | succ j _ ih => exact htrans ih (hstep j)

/-- What only a release may change while it is locked is the same at `j` as at `i`, or
a release lies between the two, and nothing changed before the first of them. -/
theorem seq_unless (locked : τ → Prop) {Releases : Nat → Prop}
    (hstep : ∀ n, locked (x n) → Releases n ∨ x (n + 1) = x n) {i j : Nat} (hij : i ≤ j)
    (hi : locked (x i)) : x j = x i ∨ ∃ k, i ≤ k ∧ k < j ∧ x k = x i ∧ Releases k := by
  induction j, hij using Nat.le_induction with
  | base => exact .inl rfl
  | succ j hij ih =>
    rcases ih with hkeep | ⟨k, hik, hkj, hk, hrel⟩
    · rcases hstep j (hkeep ▸ hi) with hrel | hsame
      · exact .inr ⟨j, hij, Nat.lt_succ_self j, hkeep, hrel⟩
      · exact .inl (hsame.trans hkeep)
    · exact .inr ⟨k, hik, by omega, hk, hrel⟩

/-- A measure that falls until things are settled, and settled things stay so: they are
settled from some moment on. -/
theorem seq_settles (x : Nat → τ) (measure : τ → Nat) (Settled : τ → Prop)
    (hfalls : ∀ n, ¬ Settled (x n) → measure (x (n + 1)) < measure (x n))
    (hstays : ∀ n, Settled (x n) → Settled (x (n + 1))) : ∃ N, ∀ n, N ≤ n → Settled (x n) := by
  have hreach : ∀ m n, measure (x n) ≤ m → ∃ N, Settled (x N) := by
    intro m
    induction m with
    | zero =>
      intro n hm
      refine ⟨n, Classical.byContradiction fun hnot => ?_⟩
      have := hfalls n hnot
      omega
    | succ m ih =>
      intro n hm
      by_cases hset : Settled (x n)
      · exact ⟨n, hset⟩
      · have := hfalls n hset
        exact ih (n + 1) (by omega)
  obtain ⟨N, hN⟩ := hreach _ 0 (Nat.le_refl _)
  refine ⟨N, fun n hn => ?_⟩
  induction n, hn using Nat.le_induction with
  | base => exact hN
  | succ n _ ih => exact hstays n ih

end Sequences
end Runs
