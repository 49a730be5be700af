import CruiseMesh.Base

/-!
# Late arrivals

A bubble shows when its author sent it, so a message that was carried for hours is spliced in above
what was there already. The rows that say so are found in one pass from the end of the conversation,
which carries the least effective arrival of the rows below. Here the pass is compared with what the
mark is for, which looks at every later row.
-/

namespace CruiseMesh
open List

def lateArrivalMinDelayMs : Int := 10 * 60 * 1000

/-- One row of the conversation as displayed, oldest first. -/
structure LateArrivalInput where
  displayTsMs : Int
  arrivalTsMs : Option Int
  isOwn : Bool

namespace LateArrivalInput

/-- When this device came to hold the row. -/
def effective (row : LateArrivalInput) : Int := row.arrivalTsMs.getD row.displayTsMs

/-- The flag of a row, given the least effective arrival below it. -/
def flag (row : LateArrivalInput) (minBelow : Option Int) : Bool :=
  match row.isOwn, row.arrivalTsMs, minBelow with
  | false, some arrival, some below =>
    let delayed := lateArrivalMinDelayMs ≤ saturateI64 (arrival - row.displayTsMs)
    delayed ∧ below < arrival
  | _, _, _ => false

end LateArrivalInput

/-- The backward pass: the flags of the rows, and the least effective arrival among them. -/
def lateArrivalPass : List LateArrivalInput → List Bool × Option Int
  | [] => ([], none)
  | row :: rest =>
    let (flags, minBelow) := lateArrivalPass rest
    (row.flag minBelow :: flags, some (minBelow.elim row.effective (min · row.effective)))

/-- `late_arrival_flags`. -/
def lateArrivalFlags (rows : List LateArrivalInput) : List Bool := (lateArrivalPass rows).1

/-- What the mark is for. The delay counts from `sent`, and a later row was there since `held`. -/
def Displaced (sent held : LateArrivalInput → Int) (rows : List LateArrivalInput) (i : Nat) : Prop :=
  ∃ row arrival, rows[i]? = some row ∧ row.isOwn = false ∧ row.arrivalTsMs = some arrival ∧
    lateArrivalMinDelayMs ≤ saturateI64 (arrival - sent row) ∧
    ∃ later ∈ rows.drop (i + 1), held later < arrival

/-- The minimum that is carried is below a time when a row that was passed is. -/
theorem minBelow_lt {time : Int} : ∀ {rows : List LateArrivalInput},
    (∃ below, (lateArrivalPass rows).2 = some below ∧ below < time) ↔
      ∃ row ∈ rows, row.effective < time
  | [] => by simp [lateArrivalPass]
  | row :: rest => by
    rw [exists_mem_cons_iff, ← minBelow_lt]
    cases hrest : (lateArrivalPass rest).2 with
    | none => simp [lateArrivalPass, hrest]
    | some below => simp [lateArrivalPass, hrest, or_comm]

/-- The flags are those of the comparison with every later row: the delay counts from the time that
is displayed, and a later row was there since its effective arrival. -/
theorem late_arrival_flags_iff (rows : List LateArrivalInput) :
    (lateArrivalFlags rows).length = rows.length ∧ ∀ i,
      (lateArrivalFlags rows)[i]? = some true ↔ Displaced (·.displayTsMs) (·.effective) rows i := by
  induction rows with
  | nil =>
    refine ⟨rfl, fun i => ?_⟩
    simp [lateArrivalFlags, lateArrivalPass, Displaced]
  | cons row rest ih =>
    refine ⟨congrArg Nat.succ ih.1, fun i => ?_⟩
    cases i with
    | succ i => exact ih.2 i
    | zero =>
      show some (row.flag (lateArrivalPass rest).2) = some true ↔ ∃ found arrival,
        some row = some found ∧ _ ∧ _ ∧ _ ∧ ∃ later ∈ rest, later.effective < arrival
      simp only [← minBelow_lt]
      obtain ⟨display, arrival, own⟩ := row
      cases own <;> cases arrival <;> cases (lateArrivalPass rest).2 <;>
        simp [LateArrivalInput.flag]

/-- With one and the same time of each row in both places it would not be: not with the effective
arrival, which is no later than itself, and not with the time that is displayed. -/
theorem two_times_are_compared :
    (lateArrivalFlags [⟨0, some 600000, false⟩, ⟨300000, none, true⟩] = [true, false] ∧
      ¬ Displaced (·.effective) (·.effective)
        [⟨0, some 600000, false⟩, ⟨300000, none, true⟩] 0) ∧
    lateArrivalFlags [⟨0, some 600000, false⟩, ⟨300000, some 700000, false⟩] = [false, false] ∧
      Displaced (·.displayTsMs) (·.displayTsMs)
        [⟨0, some 600000, false⟩, ⟨300000, some 700000, false⟩] 0 := by
  refine ⟨⟨by decide, ?_⟩, by decide, ?_⟩
  · rintro ⟨_, _, hrow, _, harrival, hdelay, _⟩
    cases hrow
    cases harrival
    exact absurd hdelay (by decide)
  · exact ⟨_, 600000, rfl, rfl, rfl, by decide, _, mem_cons_self, by decide⟩

end CruiseMesh
