import Mathlib

/-!
# Shedding in order

A bounded queue makes room by dropping what is first in some order, one element at a
time, until it is within bounds. This module has the loop, what it comes to when its
states are known in advance, and the two facts about lists that such a loop needs: what
is left of a sorted queue without its first elements, and what the remainder weighs.
-/

namespace Shed
open List

/-! ## The loop -/

section Loop
variable {σ : Type}

/-- `while full(s) { match next(s) { Some(s') => s = s', None => break } }`, for `fuel`
turns at most. -/
def drain (full : σ → Bool) (next : σ → Option σ) : Nat → σ → σ
  | 0, s => s
  | fuel + 1, s =>
    if full s then
      match next s with
      | none => s
      | some s' => drain full next fuel s'
    else s

/-- Where the loop goes through the states `state k`, …, `state n` and has the fuel for
them, it stops at the first that is not full, or at the last. -/
theorem drain_numbered (full : σ → Bool) {next : σ → Option σ} {state : Nat → σ} {n : Nat}
    (hnext : ∀ k < n, next (state k) = some (state (k + 1))) (hend : next (state n) = none) :
    ∀ {fuel k : Nat}, k ≤ n → n ≤ k + fuel →
      ∃ m, k ≤ m ∧ m ≤ n ∧ drain full next fuel (state k) = state m ∧
        (∀ j, k ≤ j → j < m → full (state j) = true) ∧ (m = n ∨ full (state m) = false) := by
  intro fuel
  induction fuel with
  | zero =>
    intro k hk hfuel
    exact ⟨k, le_refl k, hk, rfl, fun j hj hlt => by omega, .inl (by omega)⟩
  | succ fuel ih =>
    intro k hk hfuel
    by_cases hover : full (state k) = true
    · rcases Nat.lt_or_eq_of_le hk with hlt | rfl
      · obtain ⟨m, hkm, hmn, hdrain, hbefore, hstop⟩ := ih (k := k + 1) hlt (by omega)
        refine ⟨m, by omega, hmn, ?_, ?_, hstop⟩
        · rw [drain, if_pos hover, hnext k hlt]
          exact hdrain
        · intro j hj hjm
          rcases Nat.lt_or_eq_of_le hj with hgt | rfl
          · exact hbefore j hgt hjm
          · exact hover
      · refine ⟨k, le_refl k, hk, ?_, fun j hj hlt => by omega, .inl rfl⟩
        rw [drain, if_pos hover, hend]
    · refine ⟨k, le_refl k, hk, ?_, fun j hj hlt => by omega,
        .inr (Bool.eq_false_iff.mpr hover)⟩
      rw [drain, if_neg hover]

end Loop

/-! ## A queue without its first elements -/

section Remainder
variable {ρ : Type} [DecidableEq ρ]

theorem perm_append_filter {l gone : List ρ} (hl : l.Nodup) (hgone : gone.Nodup)
    (hsub : gone ⊆ l) : l.Perm (gone ++ l.filter (· ∉ gone)) := by
  refine (perm_ext_iff_of_nodup hl ?_).mpr ?_
  · refine nodup_append.mpr ⟨hgone, hl.filter _, ?_⟩
    rintro a ha b hb rfl
    exact absurd ha (by simpa using (mem_filter.mp hb).2)
  · intro a
    by_cases ha : a ∈ gone
    · simp [ha, hsub ha]
    · simp [ha]

/-- What is left weighs the difference. -/
theorem sum_filter_not_mem {size : ρ → Int} {l gone : List ρ} (hl : l.Nodup) (hgone : gone.Nodup)
    (hsub : gone ⊆ l) :
    ((l.filter (· ∉ gone)).map size).sum = (l.map size).sum - (gone.map size).sum := by
  have hperm := ((perm_append_filter hl hgone hsub).map size).sum_eq
  rw [map_append, sum_append] at hperm
  omega

variable (r : ρ → ρ → Prop) [DecidableRel r] [Std.Total r] [IsTrans ρ r]

/-- Dropping the first elements of a sorted queue and sorting what is left is what was
left of the sorted queue. -/
theorem sort_filter_take {l : List ρ} (hl : l.Nodup)
    (hantisymm : ∀ a ∈ l, ∀ b ∈ l, r a b → r b a → a = b) (k : Nat) :
    (l.filter (· ∉ (l.insertionSort r).take k)).insertionSort r = (l.insertionSort r).drop k := by
  have hperm : (l.insertionSort r).Perm l := perm_insertionSort r l
  have hnodup : (l.insertionSort r).Nodup := hperm.nodup_iff.mpr hl
  -- the same elements are left, whichever of the two lists they are left of
  have hleft : (l.filter (· ∉ (l.insertionSort r).take k)).Perm ((l.insertionSort r).drop k) := by
    refine (perm_ext_iff_of_nodup (hl.filter _) (hnodup.sublist (drop_sublist k _))).mpr ?_
    intro a
    have hsplit := take_append_drop k (l.insertionSort r)
    have hmem : a ∈ l ↔ a ∈ (l.insertionSort r).take k ∨ a ∈ (l.insertionSort r).drop k := by
      rw [← mem_append, hsplit, hperm.mem_iff]
    have hapart := disjoint_take_drop hnodup (le_refl k)
    simp only [mem_filter, decide_eq_true_eq, hmem]
    constructor
    · intro ⟨hor, hnot⟩
      exact hor.resolve_left hnot
    · intro hdrop
      exact ⟨.inr hdrop, fun htake => hapart htake hdrop⟩
  refine List.Perm.eq_of_pairwise ?_ (pairwise_insertionSort r _)
    ((pairwise_insertionSort r l).sublist (drop_sublist k _))
    ((perm_insertionSort r _).trans hleft)
  intro a b ha hb hab hba
  have hal : a ∈ l := (mem_filter.mp ((mem_insertionSort r).mp ha)).1
  have hbl : b ∈ l := (mem_insertionSort r).mp (mem_of_mem_drop hb)
  exact hantisymm a hal b hbl hab hba

end Remainder
end Shed
