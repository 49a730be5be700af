import Mathlib

/-!
# UTF-8

Whether bytes are the UTF-8 form of a text, and what is wrong with them when they are
not: how many bytes are fine, and how many of the next ones form the broken sequence. A
sequence that the end of the input cuts off has no such number.
-/

namespace Utf8

/-- A byte that continues a sequence. -/
def isContinuation (b : UInt8) : Bool := 0x80 ≤ b ∧ b ≤ 0xBF

/-- How many bytes a sequence with this first byte has. -/
def width (lead : UInt8) : Nat :=
  if lead ≤ 0x7F then 1
  else if 0xC2 ≤ lead ∧ lead ≤ 0xDF then 2
  else if 0xE0 ≤ lead ∧ lead ≤ 0xEF then 3
  else if 0xF0 ≤ lead ∧ lead ≤ 0xF4 then 4
  else 0

/-- The second byte of a longer sequence: no overlong form, no surrogate, nothing above
the last code point. -/
def isSecond (lead second : UInt8) : Bool :=
  if lead = 0xE0 then 0xA0 ≤ second ∧ second ≤ 0xBF
  else if lead = 0xED then 0x80 ≤ second ∧ second ≤ 0x9F
  else if lead = 0xF0 then 0x90 ≤ second ∧ second ≤ 0xBF
  else if lead = 0xF4 then 0x80 ≤ second ∧ second ≤ 0x8F
  else isContinuation second

/-- The bytes that must still follow, each with its test. `seen` counts the good ones. -/
def follow : List (UInt8 → Bool) → Nat → List UInt8 → Except (Option Nat) Nat
  | [], seen, _ => .ok seen
  | _ :: _, _, [] => .error none
  | test :: tests, seen, b :: rest =>
    if test b then follow tests (seen + 1) rest else .error (some seen)

/-- The length of the first sequence, or of the broken one in its place. -/
def head (lead : UInt8) (rest : List UInt8) : Except (Option Nat) Nat :=
  match width lead with
  | 0 => .error (some 1)
  | w + 1 => follow ((isSecond lead :: List.replicate (w - 1) isContinuation).take w) 1 rest

/-- The scan, with at most `fuel` sequences. -/
def faultFrom : Nat → Nat → List UInt8 → Option (Nat × Option Nat)
  | _, _, [] => none
  | 0, _, _ :: _ => none
  | fuel + 1, index, lead :: rest =>
    match head lead rest with
    | .ok len => faultFrom fuel (index + len) (rest.drop (len - 1))
    | .error broken => some (index, broken)

/-- Where the bytes stop being UTF-8, if they do. -/
def fault (bytes : List UInt8) : Option (Nat × Option Nat) := faultFrom bytes.length 0 bytes

theorem head_ascii {lead : UInt8} (h : lead ≤ 0x7F) (rest : List UInt8) : head lead rest = .ok 1 := by
  simp [head, width, h, follow]

/-- ASCII is UTF-8. -/
theorem fault_ascii {bytes : List UInt8} (h : ∀ b ∈ bytes, b ≤ 0x7F) : fault bytes = none := by
  have hscan : ∀ (fuel index : Nat) (bytes : List UInt8), (∀ b ∈ bytes, b ≤ 0x7F) →
      faultFrom fuel index bytes = none := by
    intro fuel
    induction fuel with
    | zero =>
      intro index bytes _
      cases bytes <;> rfl
    | succ fuel ih =>
      intro index bytes hbytes
      cases bytes with
      | nil => rfl
      | cons lead rest =>
        rw [faultFrom, head_ascii (hbytes lead List.mem_cons_self)]
        exact ih _ _ fun b hb => hbytes b (List.mem_cons_of_mem _ hb)
  exact hscan _ _ _ h

/-- How the fault reads. -/
def describe : Nat × Option Nat → String
  | (index, some broken) =>
    "invalid utf-8 sequence of " ++ toString broken ++ " bytes from index " ++ toString index
  | (index, none) => "incomplete utf-8 byte sequence from index " ++ toString index

/-- Four characters of one, two, three and four bytes. -/
example : fault [0x61, 0xC3, 0xA9, 0xE2, 0x82, 0xAC, 0xF0, 0x9F, 0x98, 0x80] = none := by decide

end Utf8
