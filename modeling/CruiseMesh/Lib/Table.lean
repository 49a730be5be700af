import Mathlib

/-!
# Keyed tables

A database table is a list of rows with a key. The operations are the statements a
store makes: look a row up, insert it or fail, insert it or leave what is there,
replace it or insert it, change the rows of a key, and delete by a condition.
-/

namespace Table
open List
variable {ρ κ : Type} [DecidableEq κ] (key : ρ → κ)

/-- `SELECT … WHERE key = k`, for a primary key. -/
def lookup (k : κ) (rows : List ρ) : Option ρ := rows.find? fun row => key row = k

/-- `INSERT … ON CONFLICT(key) DO UPDATE` of every column. -/
def upsert (row : ρ) : List ρ → List ρ
  | [] => [row]
  | held :: rest => if key held = key row then row :: rest else held :: upsert row rest

/-- `UPDATE … WHERE key = k`. -/
def update (k : κ) (f : ρ → ρ) (rows : List ρ) : List ρ :=
  rows.map fun row => if key row = k then f row else row

/-- `INSERT`, failing when the key is taken. -/
def insert (row : ρ) (rows : List ρ) : Option (List ρ) :=
  if ∃ held ∈ rows, key held = key row then none else some (rows ++ [row])

/-- `INSERT OR IGNORE`. -/
def insertOrIgnore (row : ρ) (rows : List ρ) : List ρ :=
  if ∃ held ∈ rows, key held = key row then rows else rows ++ [row]

/-- One `INSERT` for each of the new rows. -/
def insertAll (new : List ρ) (rows : List ρ) : Option (List ρ) :=
  new.foldlM (fun rows row => insert key row rows) rows

variable {key}

@[simp] theorem lookup_nil (k : κ) : lookup key k [] = none := rfl

theorem lookup_cons (k : κ) (row : ρ) (rows : List ρ) :
    lookup key k (row :: rows) = if key row = k then some row else lookup key k rows := by
  unfold lookup
  rw [List.find?_cons]
  by_cases h : key row = k
  · simp [h]
  · simp [h]

variable {k : κ} {row : ρ} {rows : List ρ} {k' : κ} {f : ρ → ρ} {held : ρ}

theorem key_of_lookup (h : lookup key k rows = some row) :
    key row = k := by
  simpa using List.find?_some h

theorem mem_of_lookup (h : lookup key k rows = some row) :
    row ∈ rows := mem_of_find?_eq_some h

/-- A row that was upserted is what is found under its key; other keys are not
touched. -/
theorem lookup_upsert (k : κ) (row : ρ) (rows : List ρ) :
    lookup key k (upsert key row rows) = if key row = k then some row else lookup key k rows := by
  induction rows with
  | nil => simp [upsert, lookup_cons]
  | cons held rest ih =>
    unfold upsert
    by_cases hk : key held = key row
    · rw [if_pos hk, lookup_cons, lookup_cons]
      by_cases hrow : key row = k
      · simp [hrow]
      · simp [hrow, hk]
    · rw [if_neg hk, lookup_cons, lookup_cons, ih]
      by_cases hheld : key held = k
      · have hrow : key row ≠ k := fun h => hk (hheld.trans h.symm)
        simp [hheld, hrow]
      · simp [hheld]

theorem update_cons (row : ρ) (rest : List ρ) : update key k f (row :: rest) =
    (if key row = k then f row else row) :: update key k f rest := rfl

theorem lookup_update (hf : ∀ row, key (f row) = key row) (rows : List ρ) :
    lookup key k' (update key k f rows) =
      if k = k' then (lookup key k' rows).map f else lookup key k' rows := by
  induction rows with
  | nil => simp [update]
  | cons row rest ih =>
    rw [update_cons, lookup_cons, lookup_cons, ih]
    by_cases hrow : key row = k
    · rw [if_pos hrow, hf]
      by_cases hk : key row = k'
      · have hkk : k = k' := hrow.symm.trans hk
        simp [hk, hkk]
      · simp [hk]
    · rw [if_neg hrow]
      by_cases hk : key row = k'
      · have hkk : k ≠ k' := fun h => hrow (hk.trans h.symm)
        simp [hk, hkk]
      · simp [hk]

variable (key) in
/-- The rows of another key are as they were. -/
theorem filter_update_of_ne (hf : ∀ row, key (f row) = key row) (hne : k' ≠ k) (rows : List ρ) :
    (update key k f rows).filter (fun row => decide (key row = k')) =
      rows.filter fun row => decide (key row = k') := by
  induction rows with
  | nil => rfl
  | cons row rest ih =>
    rw [update_cons, filter_cons, filter_cons, ih]
    by_cases hrow : key row = k
    · have hother : key row ≠ k' := fun h => hne (h.symm.trans hrow)
      rw [if_pos hrow, hf, if_neg (by simpa using hother), if_neg (by simpa using hother)]
    · rw [if_neg hrow]

/-! Where no two rows share a key, a row is found under its own. -/

theorem lookup_of_mem : ∀ {rows : List ρ}, (rows.map key).Nodup → row ∈ rows →
    lookup key (key row) rows = some row
  | [], _, hmem => absurd hmem not_mem_nil
  | held :: rest, hnd, hmem => by
    obtain ⟨hfresh, hnd'⟩ := nodup_cons.mp hnd
    rw [lookup_cons]
    by_cases hkey : key held = key row
    · rw [if_pos hkey]
      rcases mem_cons.mp hmem with rfl | hrest
      · rfl
      · exact absurd (hkey ▸ mem_map_of_mem hrest) hfresh
    · rw [if_neg hkey]
      rcases mem_cons.mp hmem with rfl | hrest
      · exact absurd rfl hkey
      · exact lookup_of_mem hnd' hrest

theorem eq_of_key_eq (hnd : (rows.map key).Nodup) {a b : ρ} (ha : a ∈ rows) (hb : b ∈ rows)
    (hkey : key a = key b) : a = b := by
  have hfound := lookup_of_mem hnd ha
  rw [hkey, lookup_of_mem hnd hb] at hfound
  exact (Option.some.inj hfound).symm

theorem map_key_update (hf : ∀ row, key (f row) = key row) (rows : List ρ) :
    (update key k f rows).map key = rows.map key := by
  unfold update
  rw [map_map]
  refine map_congr_left fun row _ => ?_
  by_cases hrow : key row = k
  · simp [hrow, hf]
  · simp [hrow]

theorem nodup_insertOrIgnore (hnd : (rows.map key).Nodup) :
    ((insertOrIgnore key row rows).map key).Nodup := by
  unfold insertOrIgnore
  split
  · exact hnd
  · rename_i hfree
    rw [map_append, nodup_append]
    refine ⟨hnd, nodup_singleton _, ?_⟩
    intro k hk k' hk' heq
    obtain ⟨held, hheld, hkey⟩ := mem_map.mp hk
    obtain rfl : k' = key row := by simpa using hk'
    exact hfree ⟨held, hheld, hkey.trans heq⟩

theorem mem_insertOrIgnore (h : held ∈ insertOrIgnore key row rows) : held ∈ rows ∨ held = row := by
  unfold insertOrIgnore at h
  split at h
  · exact .inl h
  · simpa using h

theorem lookup_eq_none :
    lookup key k rows = none ↔ ∀ row ∈ rows, key row ≠ k := by
  simp [lookup, List.find?_eq_none]

theorem insertOrIgnore_of_free (h : lookup key (key row) rows = none) :
    insertOrIgnore key row rows = rows ++ [row] := by
  unfold insertOrIgnore
  rw [if_neg]
  rintro ⟨held, hheld, hkey⟩
  exact lookup_eq_none.mp h held hheld hkey

theorem insertOrIgnore_of_taken (h : lookup key (key row) rows = some held) :
    insertOrIgnore key row rows = rows := by
  unfold insertOrIgnore
  rw [if_pos ⟨held, mem_of_lookup h, key_of_lookup h⟩]

theorem subset_insertOrIgnore : rows ⊆ insertOrIgnore key row rows := by
  intro held hheld
  unfold insertOrIgnore
  split
  · exact hheld
  · exact mem_append_left _ hheld

/-- A row that is there afterwards was there before, or is the one put in. -/
theorem mem_upsert : ∀ {rows : List ρ}, held ∈ upsert key row rows →
    held ∈ rows ∨ held = row
  | [], h => .inr (mem_singleton.mp h)
  | first :: rest, h => by
    unfold upsert at h
    split at h
    · rcases mem_cons.mp h with heq | hmem
      · exact .inr heq
      · exact .inl (mem_cons_of_mem _ hmem)
    · rcases mem_cons.mp h with rfl | hmem
      · exact .inl mem_cons_self
      · exact (mem_upsert hmem).imp_left (mem_cons_of_mem _)

/-- A row stays, unless it is the one that is replaced. -/
theorem mem_upsert_of_mem : ∀ {rows : List ρ}, held ∈ rows →
    held ∈ upsert key row rows ∨ lookup key (key row) rows = some held
  | first :: rest, h => by
    unfold upsert
    rw [lookup_cons]
    by_cases hk : key first = key row
    · rw [if_pos hk, if_pos hk]
      rcases mem_cons.mp h with rfl | hrest
      · exact .inr rfl
      · exact .inl (mem_cons_of_mem _ hrest)
    · rw [if_neg hk, if_neg hk]
      rcases mem_cons.mp h with rfl | hrest
      · exact .inl mem_cons_self
      · exact (mem_upsert_of_mem hrest).imp_left (mem_cons_of_mem _)

theorem mem_upsert_self (row : ρ) : ∀ rows : List ρ, row ∈ upsert key row rows
  | [] => mem_singleton.mpr rfl
  | first :: rest => by
    unfold upsert
    split
    · exact mem_cons_self
    · exact mem_cons_of_mem _ (mem_upsert_self row rest)

theorem nodup_upsert : ∀ {rows : List ρ}, (rows.map key).Nodup →
    ((upsert key row rows).map key).Nodup
  | [], _ => nodup_singleton _
  | first :: rest, hnd => by
    obtain ⟨hfresh, hrest⟩ := nodup_cons.mp hnd
    unfold upsert
    split
    · rename_i hkey
      exact nodup_cons.mpr ⟨hkey ▸ hfresh, hrest⟩
    · rename_i hkey
      refine nodup_cons.mpr ⟨fun hmem => ?_, nodup_upsert hrest⟩
      obtain ⟨held, hheld, heq⟩ := mem_map.mp hmem
      rcases mem_upsert hheld with hold | rfl
      · exact hfresh (heq ▸ mem_map_of_mem hold)
      · exact hkey heq.symm

theorem filter_upsert_of_ne (hne : key row ≠ k) : ∀ rows : List ρ,
    (upsert key row rows).filter (fun held => key held = k) =
      rows.filter fun held => key held = k
  | [] => by simp [upsert, hne]
  | held :: rows => by
    unfold upsert
    split
    next hkey => rw [filter_cons_of_neg (by simpa using hne),
      filter_cons_of_neg (by simpa [hkey] using hne)]
    next => rw [filter_cons, filter_cons, filter_upsert_of_ne hne rows]

theorem lookup_filter_ne (hne : k ≠ k') :
    lookup key k (rows.filter fun row => key row ≠ k') = lookup key k rows := by
  unfold lookup
  rw [List.find?_filter]
  congr 1
  funext row
  by_cases hrow : key row = k
  · simp [hrow, hne]
  · simp [hrow]

/-- A row appended under another key. -/
theorem lookup_append_of_ne (hne : key row ≠ k) :
    lookup key k (rows ++ [row]) = lookup key k rows := by
  unfold lookup
  rw [List.find?_append]
  simp [hne]

theorem insert_eq_some (h : ∀ held ∈ rows, key held ≠ key row) :
    insert key row rows = some (rows ++ [row]) := by
  unfold insert
  rw [if_neg]
  rintro ⟨held, hmem, hkey⟩
  exact h held hmem hkey

/-- Rows with fresh, distinct keys are all appended. -/
theorem insertAll_eq_some : ∀ {new rows : List ρ}, (new.map key).Nodup →
    (∀ row ∈ new, ∀ held ∈ rows, key held ≠ key row) →
    insertAll key new rows = some (rows ++ new)
  | [], rows, _, _ => by simp [insertAll]
  | row :: new, rows, hnd, hfresh => by
    obtain ⟨hnew, hnd'⟩ := nodup_cons.mp hnd
    have hhead : insert key row rows = some (rows ++ [row]) :=
      insert_eq_some (hfresh row mem_cons_self)
    -- after the first row, the later keys are still fresh
    have htail : insertAll key new (rows ++ [row]) = some (rows ++ [row] ++ new) := by
      refine insertAll_eq_some hnd' ?_
      intro later hlater held hheld
      rcases mem_append.mp hheld with hold | hrow
      · exact hfresh later (mem_cons_of_mem _ hlater) held hold
      · rw [mem_singleton.mp hrow]
        intro heq
        exact hnew (heq ▸ mem_map_of_mem hlater)
    unfold insertAll at htail ⊢
    rw [foldlM_cons, hhead]
    simpa using htail

/-! Deleting the rows that are due, again and again. -/

/-- Rows that were due and left stay due when they are changed, so that deleting them
early makes no difference to a later deletion. -/
theorem filter_map_filter {due due' : ρ → Prop} [DecidablePred due] [DecidablePred due']
    (hstays : ∀ row, due row → due' (f row)) (rows : List ρ) :
    ((rows.filter fun row => ¬ due row).map f).filter (fun row => ¬ due' row) =
      (rows.map f).filter fun row => ¬ due' row := by
  induction rows with
  | nil => rfl
  | cons row rest ih =>
    by_cases hdue : due row
    · have hlater : due' (f row) := hstays row hdue
      simpa [filter_cons, hdue, hlater] using ih
    · by_cases hlater : due' (f row)
      · simpa [filter_cons, hdue, hlater] using ih
      · simpa [filter_cons, hdue, hlater] using ih

end Table
