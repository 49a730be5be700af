import Mathlib

/-!
# Reading a log page by page

Rows with ascending ids are read in pages: a page is some of the rows behind a cursor,
from the first one on, and it is empty only when nothing is behind the cursor. A walk
reads a page, moves its cursor to the last id of it, and ends at the first empty page.

The log may change between two pages of a walk. What holds in spite of that is
`mem_of_walk`: a row that is in the log at every moment of a finished walk has been read
by it. Where nothing changes, `walk_const` says that the walk ends and what it has read.
-/

namespace Paging
open List
variable {ρ τ : Type} (id : ρ → Int)

/-- The rows behind a cursor. -/
def behind (after : Int) (rows : List ρ) : List ρ := rows.filter (after < id ·)

/-- A page of the log: the first rows behind the cursor, at least one if there are any. -/
structure IsPage (rows : List ρ) (after : Int) (page : List ρ) : Prop where
  isPrefix : page <+: behind id after rows
  done : page = [] → behind id after rows = []

/-- Where the cursor stands behind a page. -/
def cursorAfter (after : Int) (page : List ρ) : Int := (page.getLast?.map id).getD after

/-- The pages read at the given moments, up to the first empty one; `none` when there was
no empty one. -/
def walk (fetch : τ → Int → List ρ) : List τ → Int → Option (List ρ)
  | [], _ => none
  | moment :: moments, after =>
    let page := fetch moment after
    if page.isEmpty then some []
    else (walk fetch moments (cursorAfter id after page)).map (page ++ ·)

/-- The budget of a page: rows are taken while their sizes fit, and the first one is taken
whatever its size. -/
def fillPage (size : ρ → Nat) (add : Nat → Nat → Nat) (budget : Nat) : List ρ → List ρ
  | [] => []
  | first :: rest => first :: fill (add 0 (size first)) rest
where
  fill (spent : Nat) : List ρ → List ρ
    | [] => []
    | row :: rest =>
      if budget < add spent (size row) then [] else row :: fill (add spent (size row)) rest

section Pages
variable {id}
  {size : ρ → Nat} {add : Nat → Nat → Nat} {budget : Nat} {rows page : List ρ} {after : Int}

theorem fill_isPrefix :
    ∀ {spent : Nat} {rows : List ρ}, fillPage.fill size add budget spent rows <+: rows
  | _, [] => prefix_rfl
  | spent, row :: rest => by
    unfold fillPage.fill
    split
    · exact nil_prefix
    · exact (prefix_cons_inj row).mpr fill_isPrefix

theorem fillPage_isPrefix :
    ∀ {rows : List ρ}, fillPage size add budget rows <+: rows
  | [] => prefix_rfl
  | first :: _ => (prefix_cons_inj first).mpr fill_isPrefix

/-- A budgeted page of the first `limit` rows behind the cursor is a page. -/
theorem isPage_fillPage {limit : Nat} (hlimit : 0 < limit) (rows : List ρ) (after : Int) :
    IsPage id rows after (fillPage size add budget ((behind id after rows).take limit)) := by
  obtain ⟨limit, rfl⟩ : ∃ n, limit = n + 1 := ⟨limit - 1, by omega⟩
  cases hbehind : behind id after rows with
  | nil => exact ⟨by simp [hbehind, fillPage], fun _ => hbehind⟩
  | cons first rest =>
    constructor
    · rw [hbehind]
      exact fillPage_isPrefix.trans (List.take_prefix _ _)
    · intro hnil
      rw [take_succ_cons, fillPage] at hnil
      exact absurd hnil (cons_ne_nil _ _)

/-- A page of rows is a page of what is shown of them. -/
theorem IsPage.map {δ : Type} {id' : δ → Int} {f : ρ → δ} (hid : ∀ row, id' (f row) = id row)
    (h : IsPage id rows after page) :
    IsPage id' (rows.map f) after (page.map f) := by
  have hbehind : behind id' after (rows.map f) = (behind id after rows).map f := by
    simp [behind, filter_map, Function.comp_def, hid]
  refine ⟨hbehind ▸ h.isPrefix.map f, fun hnil => ?_⟩
  rw [hbehind, h.done (map_eq_nil_iff.mp hnil), map_nil]

/-- Behind a page that ends with `last` are the rows behind the page. -/
theorem behind_cursorAfter (hasc : rows.Pairwise (id · < id ·)) {rest : List ρ}
    (hsplit : behind id after rows = page ++ rest) (hpage : page ≠ []) :
    behind id (cursorAfter id after page) rows = rest := by
  obtain ⟨init, last, rfl⟩ : ∃ init last, page = init ++ [last] :=
    ⟨page.dropLast, page.getLast hpage, (dropLast_append_getLast hpage).symm⟩
  have hcursor : cursorAfter id after (init ++ [last]) = id last := by simp [cursorAfter]
  have hlast : last ∈ behind id after rows := by rw [hsplit]; simp
  have hafter : after < id last := by simpa [behind] using (mem_filter.mp hlast).2
  -- the rows behind `last` are those of the rows behind `after` that are behind `last`
  have hagain : behind id (id last) rows = (behind id after rows).filter (id last < id ·) := by
    unfold behind
    rw [filter_filter]
    refine filter_congr fun row _ => ?_
    by_cases h : id last < id row
    · have : after < id row := by omega
      simp [h, this]
    · simp [h]
  have hsorted : (init ++ [last] ++ rest).Pairwise (id · < id ·) := hsplit ▸ hasc.filter _
  have hparts := pairwise_append.mp hsorted
  have hfront := pairwise_append.mp hparts.1
  rw [hcursor, hagain, hsplit, filter_append, filter_append]
  have hinit : init.filter (id last < id ·) = [] := by
    refine filter_eq_nil_iff.mpr fun row hrow => ?_
    have := hfront.2.2 row hrow last (by simp)
    simp; omega
  have hrest : rest.filter (id last < id ·) = rest := by
    refine filter_eq_self.mpr fun row hrow => ?_
    simpa using hparts.2.2 last (by simp) row hrow
  simp [hinit, hrest]

end Pages

variable {id} {fetch : τ → Int → List ρ}

/-- A walk over a log that does not change ends, and has read all that is behind its
cursor. -/
theorem walk_const {moment : τ} {rows : List ρ} (hasc : rows.Pairwise (id · < id ·))
    (hpage : ∀ after, IsPage id rows after (fetch moment after)) :
    ∀ (pages : Nat) (after : Int), (behind id after rows).length ≤ pages →
      walk id fetch (List.replicate (pages + 1) moment) after = some (behind id after rows) := by
  intro pages
  induction pages with
  | zero =>
    intro after hlen
    have hnil : behind id after rows = [] := eq_nil_of_length_eq_zero (by omega)
    have hempty : fetch moment after = [] := prefix_nil.mp (hnil ▸ (hpage after).isPrefix)
    simp [walk, hempty, hnil]
  | succ pages ih =>
    intro after hlen
    obtain ⟨rest, hsplit⟩ := (hpage after).isPrefix
    rw [replicate_succ, walk]
    by_cases hempty : fetch moment after = []
    · simp [hempty, (hpage after).done hempty]
    · have hbehind := behind_cursorAfter hasc hsplit.symm hempty
      have hlength := congrArg List.length hsplit
      have hpos : 0 < (fetch moment after).length := length_pos_of_ne_nil hempty
      rw [length_append] at hlength
      rw [if_neg (by simpa using hempty), ih _ (by rw [hbehind]; omega), hbehind, Option.map_some,
        hsplit]

/-- A row that is in the log at every moment of a finished walk, if not always with the
same contents, has been read by it. -/
theorem mem_of_walk {rows : τ → List ρ} {i : Int} {Good : ρ → Prop} :
    ∀ {moments : List τ} {after : Int} {out : List ρ},
      (∀ moment ∈ moments, (rows moment).Pairwise (id · < id ·)) →
      (∀ moment ∈ moments, ∀ after, IsPage id (rows moment) after (fetch moment after)) →
      (∀ moment ∈ moments, ∃ row ∈ rows moment, id row = i ∧ Good row) →
      after < i → walk id fetch moments after = some out → ∃ row ∈ out, id row = i ∧ Good row := by
  intro moments
  induction moments with
  | nil =>
    intro after out _ _ _ _ hwalk
    cases hwalk
  | cons moment moments ih =>
    intro after out hasc hpage hthere hafter hwalk
    obtain ⟨row, hrow, hid, hgood⟩ := hthere moment mem_cons_self
    have hpage' := hpage moment mem_cons_self after
    obtain ⟨rest, hsplit⟩ := hpage'.isPrefix
    have hbehind : row ∈ behind id after (rows moment) := by
      simpa [behind, hid] using ⟨hrow, hafter⟩
    have hsome : fetch moment after ≠ [] := fun hnil => by
      rw [hpage'.done hnil] at hbehind
      cases hbehind
    rw [walk, if_neg (by simpa using hsome), Option.map_eq_some_iff] at hwalk
    obtain ⟨later, hlater, rfl⟩ := hwalk
    -- the page has the row, or the cursor stays in front of it
    rw [← hsplit, mem_append] at hbehind
    rcases hbehind with hin | hbeyond
    · exact ⟨row, mem_append_left _ hin, hid, hgood⟩
    have hnext := behind_cursorAfter (hasc moment mem_cons_self) hsplit.symm hsome
    have hfront : cursorAfter id after (fetch moment after) < i := by
      have hmem : row ∈ behind id (cursorAfter id after (fetch moment after)) (rows moment) := by
        rw [hnext]; exact hbeyond
      have := (mem_filter.mp hmem).2
      rw [hid] at this
      simpa using this
    obtain ⟨found, hfound, hrest⟩ := ih (fun m hm => hasc m (mem_cons_of_mem _ hm))
      (fun m hm => hpage m (mem_cons_of_mem _ hm))
      (fun m hm => hthere m (mem_cons_of_mem _ hm)) hfront hlater
    exact ⟨found, mem_append_right _ hfound, hrest⟩

end Paging
