import CruiseMesh.Lib.Wire

/-!
# Bytes, errors and the cryptographic primitives

What every part of the core shares. Byte strings are lists of octets; `u64`
counters are natural numbers, with the checked and saturating operations of the
source written out where they occur.

The third-party primitives the core calls (BLAKE2b with a chosen output length,
Ed25519, X25519 with XSalsa20-Poly1305) are a parameter, `Primitives`: their functions together with what their
documentation promises of them. What only an *ideal* primitive gives
(unforgeability, no collisions) is no part of it; a theorem that needs it says so.
-/

namespace CruiseMesh
open Wire List

/-- A byte string. -/
abbrev Bytes : Type := List UInt8

/-- Membership in a list of byte strings is decided with this one proof everywhere. -/
instance : LawfulBEq Bytes := inferInstance

/-- The bytes of an ASCII text, a domain separator of the source. -/
def ascii (text : String) : Bytes := text.toList.map fun c => UInt8.ofNat c.toNat

/-- `push_len_prefixed`: a field behind its length, a big-endian `u64`. -/
def lenPrefixed (bytes : Bytes) : Bytes := beBytes 8 bytes.length ++ bytes

def u16Max : Nat := 65535

/-- `u64::MAX`. -/
def u64Max : Nat := 2 ^ 64 - 1

/-- `saturating_add(1)` on a `u64`. -/
def saturatingSucc (n : Nat) : Nat := min (n + 1) u64Max

/-- `saturating_add` on a `u64`. -/
def saturatingAdd (a b : Nat) : Nat := min (a + b) u64Max

/-- The `i64` with the bits of a `u64`, which is what SQLite compares. -/
def asI64 (n : Nat) : Int := Int.bmod n (2 ^ 64)

variable {n : Nat} {text : Bytes}

/-- Below `2 ^ 63` the two orders agree. -/
theorem asI64_of_lt (h : n < 2 ^ 63) : asI64 n = n := by
  apply Int.bmod_eq_of_le <;> omega

/-- A running maximum is bounded by what bounds all of its terms. -/
theorem foldl_max_le {α : Type} [LinearOrder α] {l : List α} :
    ∀ {acc bound : α}, l.foldl max acc ≤ bound ↔ acc ≤ bound ∧ ∀ a ∈ l, a ≤ bound := by
  induction l with
  | nil => simp
  | cons a l ih =>
    intro acc bound
    rw [foldl_cons, ih, max_le_iff, forall_mem_cons, and_assoc]

theorem foldl_max_lt {α : Type} [LinearOrder α] {l : List α} :
    ∀ {acc bound : α}, l.foldl max acc < bound ↔ acc < bound ∧ ∀ a ∈ l, a < bound := by
  induction l with
  | nil => simp
  | cons a l ih =>
    intro acc bound
    rw [foldl_cons, ih, max_lt_iff, forall_mem_cons, and_assoc]

theorem saturatingSucc_of_lt (h : n < u64Max) : saturatingSucc n = n + 1 :=
  Nat.min_eq_left h

def i64Min : Int := -2 ^ 63
def i64Max : Int := 2 ^ 63 - 1

theorem asI64_bounds (n : Nat) : i64Min ≤ asI64 n ∧ asI64 n ≤ i64Max := by
  unfold asI64 i64Min i64Max
  have hlow := Int.le_bmod (x := (n : Int)) (m := 2 ^ 64) (by decide)
  have hhigh := Int.bmod_lt (x := (n : Int)) (m := 2 ^ 64) (by decide)
  omega

/-- The saturating operations on an `i64`. -/
def saturateI64 (n : Int) : Int := max i64Min (min n i64Max)

theorem saturateI64_of_mem {n : Int} (hmin : i64Min ≤ n) (hmax : n ≤ i64Max) :
    saturateI64 n = n := by
  unfold saturateI64
  rw [Int.min_eq_left hmax, Int.max_eq_right hmin]

/-- Every way a core call can fail. -/
inductive CoreError where
  | invalidFriendCard (detail : String)
  | invalidKeyLength (expected actual : Nat)
  | store (detail : String)
  | crypto (detail : String)
  | signatureInvalid
  | malformed (detail : String)
  | unsupportedLink
  | deviceLinkOffer
deriving DecidableEq

def keyLen : Nat := 32
def signatureLen : Nat := 64

/-- The third-party primitives, with the behaviour they document. -/
structure Primitives where
  /-- `Blake2bVar` with the given output length. -/
  blake2b : Nat → Bytes → Bytes
  /-- The Ed25519 public key of a 32-byte secret. -/
  verifyingKey : Bytes → Bytes
  /-- The Ed25519 signature of a message under a 32-byte secret. -/
  sign : Bytes → Bytes → Bytes
  /-- Whether 32 bytes decode to an Ed25519 public key. -/
  isVerifyingKey : Bytes → Bool
  /-- Ed25519 verification of key, message and signature. -/
  verify : Bytes → Bytes → Bytes → Bool
  /-- The X25519 public key of a 32-byte secret. -/
  agreePublicKey : Bytes → Bytes
  blake2b_length : ∀ n m, (blake2b n m).length = n
  verifyingKey_length : ∀ sk, (verifyingKey sk).length = keyLen
  sign_length : ∀ sk m, (sign sk m).length = signatureLen
  isVerifyingKey_verifyingKey : ∀ sk, isVerifyingKey (verifyingKey sk) = true
  verify_sign : ∀ sk m, verify (verifyingKey sk) m (sign sk m) = true
  agreePublicKey_length : ∀ sk, (agreePublicKey sk).length = keyLen
  /-- `SalsaBox::encrypt` to a public key, with an ephemeral secret and a nonce. -/
  boxSeal : Bytes → Bytes → Bytes → Bytes → Bytes
  /-- `SalsaBox::decrypt` from an ephemeral public key, with the recipient's secret. -/
  boxOpen : Bytes → Bytes → Bytes → Bytes → Option Bytes
  boxOpen_boxSeal : ∀ sk ephemeral nonce plaintext,
    boxOpen (agreePublicKey ephemeral) sk nonce
      (boxSeal (agreePublicKey sk) ephemeral nonce plaintext) = some plaintext

/-! ## Refusals

The source's checks are guard clauses: `if bad { return Err(e) }`. -/

section Refuse
variable {ε α β : Type}

/-- A guard clause. -/
def refuseWhen (bad : Prop) [Decidable bad] (e : ε) : Except ε Unit :=
  if bad then .error e else .ok ()

variable {bad : Prop} {e : ε} {u : Unit} {a : α} {x : Except ε α} {f : α → Except ε β} {b : β}
  {l : List α} {g : α → β}

@[simp] theorem refuseWhen_eq_ok [Decidable bad] :
    refuseWhen bad e = .ok u ↔ ¬ bad := by
  unfold refuseWhen; split <;> simp_all

theorem refuseWhen_pos [Decidable bad] (h : bad) :
    refuseWhen bad e = .error e := if_pos h

theorem refuseWhen_neg [Decidable bad] (h : ¬ bad) :
    refuseWhen bad e = .ok () := if_neg h

/-- `ok_or`. -/
def okOr (x : Option α) (e : ε) : Except ε α :=
  match x with
  | some a => .ok a
  | none => .error e

@[simp] theorem okOr_some (a : α) (e : ε) : okOr (some a) e = .ok a := rfl

@[simp] theorem okOr_eq_ok {x : Option α} : okOr x e = .ok a ↔ x = some a := by
  cases x <;> simp [okOr]

theorem toOption_eq_some : x.toOption = some a ↔ x = .ok a := by
  cases x <;> simp [Except.toOption]

instance decidableExistsOk : Decidable (∃ a, x = .ok a) :=
  match x with
  | .ok a => isTrue ⟨a, rfl⟩
  | .error _ => isFalse nofun

/-- A sequence of fallible steps succeeds when each of them does. -/
theorem bind_eq_ok :
    (x >>= f) = .ok b ↔ ∃ a, x = .ok a ∧ f a = .ok b := by
  cases x with
  | error e => simp [bind, Except.bind]
  | ok a => simp [bind, Except.bind]

theorem bind_of_ok (h : x = .ok a) :
    (x >>= f) = f a := by
  rw [h]
  rfl

theorem ok_pair_inj {a' : α} {b' : β} (h : (Except.ok (a, b) : Except ε (α × β)) = .ok (a', b')) :
    a = a' ∧ b = b' := Prod.mk.inj (Except.ok.inj h)

theorem mapError_eq_ok {ε' : Type} {f : ε → ε'} :
    x.mapError f = .ok a ↔ x = .ok a := by
  cases x <;> simp [Except.mapError]

theorem forM_eq_ok {f : α → Except ε Unit} :
    forM l f = .ok u ↔ ∀ a ∈ l, f a = .ok () := by
  induction l with
  | nil => simp [pure, Except.pure]
  | cons a l ih =>
    rw [forM_cons, bind_eq_ok, forall_mem_cons, ← ih]
    exact ⟨fun ⟨_, h⟩ => h, fun h => ⟨(), h⟩⟩

/-- A loop whose body always succeeds maps the list. -/
theorem mapM_eq_ok (h : ∀ a ∈ l, f a = .ok (g a)) :
    l.mapM f = .ok (l.map g) := by
  induction l with
  | nil => rfl
  | cons a l ih =>
    rw [mapM_cons, h a mem_cons_self, ih fun b hb => h b (mem_cons_of_mem _ hb)]
    rfl

/-- A loop succeeds when its body does on each element, and then maps the list. -/
theorem mapM_eq_ok_iff {fits : α → Prop} (hf : ∀ a b, f a = .ok b ↔ fits a ∧ g a = b) :
    ∀ {l : List α} {out : List β},
      l.mapM f = .ok out ↔ (∀ a ∈ l, fits a) ∧ l.map g = out
  | [], out => by simp [pure, Except.pure]
  | a :: l, out => by
    simp only [mapM_cons, bind_eq_ok, hf, mapM_eq_ok_iff hf, forall_mem_cons, map_cons]
    constructor
    · rintro ⟨_, ⟨ha, rfl⟩, _, ⟨hl, rfl⟩, hout⟩
      exact ⟨⟨ha, hl⟩, Except.ok.inj hout⟩
    · rintro ⟨⟨ha, hl⟩, rfl⟩
      exact ⟨_, ⟨ha, rfl⟩, _, ⟨hl, rfl⟩, rfl⟩

/-- The loop over a list that collects a key of each element, with the checks made
before and after the one that refuses a repeated key. -/
def collectDistinct {κ : Type} [DecidableEq κ] (key : α → κ) (repeated : ε)
    (before after : α → Except ε Unit) : List κ → List α → Except ε (List κ)
  | keys, [] => .ok keys
  | keys, a :: rest => do
    before a
    refuseWhen (key a ∈ keys) repeated
    after a
    collectDistinct key repeated before after (keys ++ [key a]) rest

theorem collectDistinct_eq_ok_iff {κ : Type} [DecidableEq κ] {key : α → κ} {repeated : ε}
    {before after : α → Except ε Unit} : ∀ {keys out : List κ}, keys.Nodup →
      (collectDistinct key repeated before after keys l = .ok out ↔
        out = keys ++ l.map key ∧ (∀ a ∈ l, before a = .ok () ∧ after a = .ok ()) ∧
          (keys ++ l.map key).Nodup) := by
  induction l with
  | nil =>
    intro keys out hkeys
    simp [collectDistinct, hkeys, eq_comm]
  | cons a rest ih =>
    intro keys out hkeys
    have hsplit : keys ++ (a :: rest).map key = keys ++ [key a] ++ rest.map key := by simp
    simp only [collectDistinct, bind_eq_ok, refuseWhen_eq_ok, exists_const, hsplit]
    by_cases hdup : key a ∈ keys
    · -- a repeated key: the loop refuses, and the collected keys repeat
      constructor
      · rintro ⟨_, _, hnew, _⟩
        exact absurd hdup hnew
      · rintro ⟨_, _, hnd⟩
        have hapart := (nodup_append.mp (nodup_append.mp hnd).1).2.2
        exact absurd rfl (hapart _ hdup _ (by simp))
    · have hkeys' : (keys ++ [key a]).Nodup :=
        nodup_append.mpr ⟨hkeys, by simp, by rintro b hb c hc rfl; simp_all⟩
      simp only [ih hkeys', forall_mem_cons]
      constructor
      · rintro ⟨_, hb, _, _, ha, hout, hrest, hnd⟩
        exact ⟨hout, ⟨⟨hb, ha⟩, hrest⟩, hnd⟩
      · rintro ⟨hout, ⟨⟨hb, ha⟩, hrest⟩, hnd⟩
        exact ⟨(), hb, hdup, (), ha, hout, hrest, hnd⟩

end Refuse

/-! ## Text -/

/-- The UTF-8 forms of the characters with the Unicode property White_Space. -/
def whiteSpace : List Bytes :=
  [[0x09], [0x0A], [0x0B], [0x0C], [0x0D], [0x20], [0xC2, 0x85], [0xC2, 0xA0], [0xE1, 0x9A, 0x80]] ++
  (range 11).map (fun i => [0xE2, 0x80, UInt8.ofNat (0x80 + i)]) ++
  [[0xE2, 0x80, 0xA8], [0xE2, 0x80, 0xA9], [0xE2, 0x80, 0xAF], [0xE2, 0x81, 0x9F], [0xE3, 0x80, 0x80]]

/-- Drop what `spaces` names from the front, at most `fuel` times. -/
def dropSpaces (spaces : List Bytes) : Nat → Bytes → Bytes
  | 0, text => text
  | fuel + 1, text =>
    match spaces.find? fun space => space.isPrefixOf text with
    | some space => dropSpaces spaces fuel (text.drop space.length)
    | none => text

/-- `str::trim`. -/
def trim (text : Bytes) : Bytes :=
  let front := dropSpaces whiteSpace text.length text
  (dropSpaces (whiteSpace.map reverse) front.length front.reverse).reverse

theorem dropSpaces_eq_self {spaces : List Bytes} (h : ∀ space ∈ spaces, ¬ space <+: text) :
    ∀ fuel, dropSpaces spaces fuel text = text
  | 0 => rfl
  | fuel + 1 => by
    have hnone : spaces.find? (fun space => space.isPrefixOf text) = none := by
      rw [find?_eq_none]
      intro space hspace
      rw [List.isPrefixOf_iff_prefix]
      exact h space hspace
    rw [dropSpaces, hnone]

/-- A text with no white space at either end is its own trimmed form. -/
theorem trim_eq_self (hfront : ∀ space ∈ whiteSpace, ¬ space <+: text)
    (hback : ∀ space ∈ whiteSpace, ¬ space <:+ text) : trim text = text := by
  have hreverse : ∀ space ∈ whiteSpace.map reverse, ¬ space <+: text.reverse := by
    intro space hspace
    obtain ⟨forward, hforward, rfl⟩ := mem_map.mp hspace
    rw [List.reverse_prefix]
    exact hback forward hforward
  unfold trim
  dsimp only
  rw [dropSpaces_eq_self hfront, dropSpaces_eq_self hreverse, reverse_reverse]

/-- So is a text of visible ASCII characters. -/
theorem trim_visible (h : ∀ b ∈ text, 0x20 < b ∧ b < 0x7F) : trim text = text := by
  have hspace : ∀ space ∈ whiteSpace, ∃ b ∈ space, ¬ (0x20 < b ∧ b < 0x7F) := by decide
  refine trim_eq_self (fun space hmem hfront => ?_) fun space hmem hback => ?_
  · obtain ⟨b, hb, hblank⟩ := hspace space hmem
    exact hblank (h b (hfront.subset hb))
  · obtain ⟨b, hb, hblank⟩ := hspace space hmem
    exact hblank (h b (hback.subset hb))

/-! ## Identities -/

def userIdLen : Nat := 16

namespace Primitives
variable (P : Primitives)

/-- `derive_user_id`: a person or a device is addressed by the first 16 bytes of
BLAKE2b over its Ed25519 public key. -/
def deriveUserId (signPk : Bytes) : Bytes := P.blake2b userIdLen signPk

@[simp] theorem deriveUserId_length (signPk : Bytes) :
    (P.deriveUserId signPk).length = userIdLen := P.blake2b_length _ _

/-- `verify_raw`. -/
def verifyRaw (signPk signedBytes signature : Bytes) : Except CoreError Unit := do
  refuseWhen (signature.length ≠ signatureLen) .signatureInvalid
  refuseWhen (signPk.length ≠ keyLen) (.invalidKeyLength keyLen signPk.length)
  refuseWhen (P.isVerifyingKey signPk = false) (.crypto "invalid Ed25519 public key")
  refuseWhen (P.verify signPk signedBytes signature = false) .signatureInvalid

/-- What a key signed verifies under its public half. -/
theorem verifyRaw_sign (sk m : Bytes) :
    P.verifyRaw (P.verifyingKey sk) m (P.sign sk m) = .ok () := by
  simp [verifyRaw, bind_eq_ok, P.sign_length, P.verifyingKey_length,
    P.isVerifyingKey_verifyingKey, P.verify_sign]

end Primitives
end CruiseMesh
