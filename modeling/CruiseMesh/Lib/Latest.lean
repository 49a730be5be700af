import Mathlib

/-!
# A register that keeps the latest value

Values come in one after another, and one that is older than the value held is dropped.
`older` is a strict weak order: values of the same age are told apart by nothing but the
order in which they came, and the later one stays.

`foldl_keepLatest` says that a whole list counts as the value it would leave in an empty
register, so that lists which arrive as blocks can be taken one value each.
-/

namespace Latest
open List
variable {α : Type} (older : α → α → Prop)

/-- A strict weak order. -/
structure Ages : Prop where
  asymm : ∀ {a b}, older a b → ¬ older b a
  cotrans : ∀ {a c} (b), older a c → older a b ∨ older b c

variable {older}

theorem Ages.irrefl (h : Ages older) (a : α) : ¬ older a a := fun ha => h.asymm ha ha

variable {a new : α} {held : Option α} {values : List α}

theorem Ages.trans (h : Ages older) {b c : α} (hab : older a b) (hbc : older b c) : older a c :=
  (h.cotrans c hab).resolve_right (h.asymm hbc)

variable (older) [DecidableRel older]

/-- One value comes in. -/
def keepLatest (held : Option α) (new : α) : Option α :=
  if ∃ a ∈ held, older new a then held else some new

/-- What a list of values leaves in an empty register. -/
def latest (values : List α) : Option α := values.foldl (keepLatest older) none

variable {older}

@[simp] theorem keepLatest_none (new : α) : keepLatest older none new = some new := by
  simp [keepLatest]

theorem keepLatest_of_older (h : older new a) :
    keepLatest older (some a) new = some a := by
  simp [keepLatest, h]

theorem keepLatest_of_not_older (h : ∀ a ∈ held, ¬ older new a) :
    keepLatest older held new = some new := by
  rw [keepLatest, if_neg]
  exact fun ⟨a, ha, hold⟩ => h a ha hold

theorem latest_concat (values : List α) (new : α) :
    latest older (values ++ [new]) = keepLatest older (latest older values) new := by
  rw [latest, foldl_append]
  rfl

/-- What the register holds was there before or came in. -/
theorem mem_foldl_keepLatest (h : a ∈ values.foldl (keepLatest older) held) :
    a ∈ held ∨ a ∈ values := by
  induction values generalizing held with
  | nil => exact .inl h
  | cons b values ih =>
    rcases ih h with hheld | hmem
    · unfold keepLatest at hheld
      split at hheld
      · exact .inl hheld
      · rw [Option.mem_some_iff.mp hheld]
        exact .inr mem_cons_self
    · exact .inr (mem_cons_of_mem _ hmem)

/-- Two values after each other count as the later of the two. -/
theorem keepLatest_keepLatest (hages : Ages older) (held : Option α) (a b : α) :
    keepLatest older (keepLatest older held a) b =
      keepLatest older held (if older b a then a else b) := by
  by_cases hheld : ∃ h ∈ held, older a h
  · obtain ⟨h, rfl, hah⟩ := hheld
    rw [keepLatest_of_older hah]
    split
    · rename_i hba
      rw [keepLatest_of_older hah, keepLatest_of_older (hages.trans hba hah)]
    · rfl
  · have htaken : keepLatest older held a = some a := if_neg hheld
    rw [htaken]
    split
    · rename_i hba
      rw [keepLatest_of_older hba, htaken]
    · rename_i hba
      rw [keepLatest, if_neg (by simpa using hba), keepLatest_of_not_older]
      intro h hh hbh
      rcases hages.cotrans a hbh with hba' | hah
      · exact hba hba'
      · exact hheld ⟨h, hh, hah⟩

/-- A list of values counts as the latest of them. -/
theorem foldl_keepLatest (hages : Ages older) (held : Option α) (values : List α) :
    values.foldl (keepLatest older) held =
      match latest older values with
      | none => held
      | some a => keepLatest older held a := by
  induction values using reverseRecOn with
  | nil => rfl
  | append_singleton front b ih =>
    rw [foldl_append, foldl_cons, foldl_nil, ih, latest_concat]
    cases latest older front with
    | none => simp
    | some a =>
      have hlater := keepLatest_keepLatest hages none a b
      rw [keepLatest_none, keepLatest_none] at hlater
      rw [hlater]
      exact keepLatest_keepLatest hages held a b

variable (older) in
/-- The value came in, and neither another one nor what was held is later. -/
structure Stays (held : Option α) (values : List α) (a : α) : Prop where
  mem : a ∈ values
  latest : ∀ b ∈ values, ¬ older a b
  stored : ∀ h ∈ held, ¬ older a h

/-- A value that came in stays, or all of them are older than what was held. -/
theorem foldl_keepLatest_cases (hages : Ages older) (held : Option α) (values : List α) :
    (∃ a, values.foldl (keepLatest older) held = some a ∧ Stays older held values a) ∨
      (values.foldl (keepLatest older) held = held ∧ ∀ a ∈ values, ∃ h ∈ held, older a h) := by
  induction values using reverseRecOn with
  | nil => exact .inr ⟨rfl, fun _ => nofun⟩
  | append_singleton front b ih =>
    rw [foldl_append, foldl_cons, foldl_nil]
    simp only [mem_append, mem_singleton, or_imp, forall_and, forall_eq]
    rcases ih with ⟨a, hleft, hstays⟩ | ⟨hleft, hall⟩
    · rw [hleft]
      by_cases hba : older b a
      · refine .inl ⟨a, keepLatest_of_older hba, mem_append_left _ hstays.mem, ?_, hstays.stored⟩
        simpa [or_imp, forall_and] using ⟨hstays.latest, hages.asymm hba⟩
      · refine .inl ⟨b, by simp [keepLatest, hba], by simp, ?_, fun h hh hbh => ?_⟩
        · simp only [mem_append, mem_singleton, or_imp, forall_and, forall_eq]
          refine ⟨fun d hd hbd => ?_, hages.irrefl b⟩
          exact hstays.latest d hd ((hages.cotrans a hbd).resolve_left hba)
        · exact hstays.stored h hh ((hages.cotrans a hbh).resolve_left hba)
    · rw [hleft]
      by_cases hb : ∃ h ∈ held, older b h
      · exact .inr ⟨if_pos hb, hall, hb⟩
      · refine .inl ⟨b, if_neg hb, by simp, ?_, fun h hh hbh => hb ⟨h, hh, hbh⟩⟩
        simp only [mem_append, mem_singleton, or_imp, forall_and, forall_eq]
        refine ⟨fun d hd hbd => ?_, hages.irrefl b⟩
        obtain ⟨h, hh, hdh⟩ := hall d hd
        exact hb ⟨h, hh, hages.trans hbd hdh⟩

/-- The value that is left is one of those that came in, and none is later. -/
theorem latest_eq_some (hages : Ages older) (h : latest older values = some a) :
    a ∈ values ∧ ∀ b ∈ values, ¬ older a b := by
  rcases foldl_keepLatest_cases hages none values with ⟨b, hleft, hstays⟩ | ⟨hleft, _⟩
  · cases hleft.symm.trans h
    exact ⟨hstays.mem, hstays.latest⟩
  · cases hleft.symm.trans h

/-- Where at most one value can stay, it does not matter in which order they come. -/
theorem foldl_keepLatest_congr (hages : Ages older) {values' : List α}
    (hsame : ∀ a, a ∈ values ↔ a ∈ values')
    (hties : ∀ a b, Stays older held values a → Stays older held values b → a = b) :
    values.foldl (keepLatest older) held = values'.foldl (keepLatest older) held := by
  rcases foldl_keepLatest_cases hages held values with ⟨a, hleft, hstays⟩ | ⟨hleft, hall⟩ <;>
    rcases foldl_keepLatest_cases hages held values' with ⟨b, hleft', hstays'⟩ | ⟨hleft', hall'⟩
  · have hboth : Stays older held values b := ⟨(hsame b).mpr hstays'.mem,
      fun c hc => hstays'.latest c ((hsame c).mp hc), hstays'.stored⟩
    rw [hleft, hleft', hties a b hstays hboth]
  · obtain ⟨h, hh, hold⟩ := hall' a ((hsame a).mp hstays.mem)
    exact absurd hold (hstays.stored h hh)
  · obtain ⟨h, hh, hold⟩ := hall b ((hsame b).mpr hstays'.mem)
    exact absurd hold (hstays'.stored h hh)
  · rw [hleft, hleft']

end Latest
