import Mathlib

/-!
# Base64 for URLs

The URL-safe alphabet without padding: three bytes become four characters, and one or two
bytes at the end become two or three. No two byte strings have the same text.
-/

namespace Base64

/-- `A`–`Z`, `a`–`z`, `0`–`9`, `-` and `_`. -/
def character (n : Nat) : UInt8 :=
  if n < 26 then UInt8.ofNat (65 + n)
  else if n < 52 then UInt8.ofNat (97 + (n - 26))
  else if n < 62 then UInt8.ofNat (48 + (n - 52))
  else if n = 62 then 45
  else 95

/-- The text of some bytes, six bits a character. -/
def encode : List UInt8 → List UInt8
  | [] => []
  | [a] => [character (a.toNat / 4), character (a.toNat % 4 * 16)]
  | [a, b] =>
    [character (a.toNat / 4), character (a.toNat % 4 * 16 + b.toNat / 16),
      character (b.toNat % 16 * 4)]
  | a :: b :: c :: rest =>
    character (a.toNat / 4) :: character (a.toNat % 4 * 16 + b.toNat / 16) ::
      character (b.toNat % 16 * 4 + c.toNat / 64) :: character (c.toNat % 64) :: encode rest

/-- The six bits of a character. -/
def value (c : UInt8) : Nat :=
  if 97 ≤ c.toNat then c.toNat - 97 + 26
  else if c.toNat = 95 then 63
  else if 65 ≤ c.toNat then c.toNat - 65
  else if 48 ≤ c.toNat then c.toNat - 48 + 52
  else 62

theorem value_character : ∀ n < 64, value (character n) = n := by decide

/-- The bytes of a text. -/
def decode : List UInt8 → List UInt8
  | [p, q] => [UInt8.ofNat (value p * 4 + value q / 16)]
  | [p, q, r] =>
    [UInt8.ofNat (value p * 4 + value q / 16), UInt8.ofNat (value q % 16 * 16 + value r / 4)]
  | p :: q :: r :: s :: rest =>
    UInt8.ofNat (value p * 4 + value q / 16) :: UInt8.ofNat (value q % 16 * 16 + value r / 4) ::
      UInt8.ofNat (value r % 4 * 64 + value s) :: decode rest
  | _ => []

theorem ofNat_eq {n : Nat} {a : UInt8} (h : n = a.toNat) : UInt8.ofNat n = a := by
  rw [h, UInt8.ofNat_toNat]

theorem decode_encode (x : List UInt8) : decode (encode x) = x := by
  induction x using encode.induct with
  | case1 => rfl
  | case2 a =>
    have ha := a.toNat_lt
    simp (disch := omega) only [encode, decode, value_character]
    rw [ofNat_eq (a := a) (by omega)]
  | case3 a b =>
    have ha := a.toNat_lt
    have hb := b.toNat_lt
    simp (disch := omega) only [encode, decode, value_character]
    rw [ofNat_eq (a := a) (by omega), ofNat_eq (a := b) (by omega)]
  | case4 a b c rest ih =>
    have ha := a.toNat_lt
    have hb := b.toNat_lt
    have hc := c.toNat_lt
    simp (disch := omega) only [encode, decode, value_character]
    rw [ofNat_eq (a := a) (by omega), ofNat_eq (a := b) (by omega), ofNat_eq (a := c) (by omega),
      ih]

theorem encode_injective : Function.Injective encode :=
  Function.LeftInverse.injective decode_encode

/-! ## What the text is made of -/

theorem character_visible : ∀ n < 64, 0x20 < character n ∧ character n < 0x7F := by decide

theorem encode_visible (bytes : List UInt8) : ∀ c ∈ encode bytes, 0x20 < c ∧ c < 0x7F := by
  induction bytes using encode.induct with
  | case1 => simp [encode]
  | case2 a =>
    have ha := a.toNat_lt
    intro c hc
    simp only [encode, List.mem_cons, List.not_mem_nil, or_false] at hc
    rcases hc with rfl | rfl <;> exact character_visible _ (by omega)
  | case3 a b =>
    have ha := a.toNat_lt
    have hb := b.toNat_lt
    intro c hc
    simp only [encode, List.mem_cons, List.not_mem_nil, or_false] at hc
    rcases hc with rfl | rfl | rfl <;> exact character_visible _ (by omega)
  | case4 a b c rest ih =>
    have ha := a.toNat_lt
    have hb := b.toNat_lt
    have hc := c.toNat_lt
    intro d hd
    simp only [encode, List.mem_cons] at hd
    rcases hd with rfl | rfl | rfl | rfl | hd
    · exact character_visible _ (by omega)
    · exact character_visible _ (by omega)
    · exact character_visible _ (by omega)
    · exact character_visible _ (by omega)
    · exact ih d hd

theorem length_encode_le (bytes : List UInt8) : (encode bytes).length ≤ 2 * bytes.length := by
  induction bytes using encode.induct with
  | case1 => simp [encode]
  | case2 a => simp [encode]
  | case3 a b => simp [encode]
  | case4 a b c rest ih =>
    simp only [encode, List.length_cons]
    omega

end Base64
