import Mathlib

/-!
# Binary formats

Fixed-width integers as bytes, and a bounds-checked cursor that reads them back. A
reader is a function on cursors; `Reads r bytes a` says that `r` consumes exactly
`bytes` wherever they stand and returns `a`. A format's round trip is then put
together from those of its fields, in the order in which they are written.
-/

namespace Wire
open List
variable {ε α β : Type}

/-! ## Integers -/

/-- The `width` bytes of an integer, the most significant first. -/
def beBytes : Nat → Nat → List UInt8
  | 0, _ => []
  | width + 1, n => UInt8.ofNat (n / 256 ^ width) :: beBytes width n

/-- The integer that big-endian bytes stand for. -/
def natOfBe (bytes : List UInt8) : Nat := bytes.foldl (fun acc b => acc * 256 + b.toNat) 0

/-- The `width` bytes of an integer, the least significant first. -/
def leBytes (width n : Nat) : List UInt8 := (beBytes width n).reverse

/-- The integer that little-endian bytes stand for. -/
def natOfLe (bytes : List UInt8) : Nat := natOfBe bytes.reverse

@[simp] theorem beBytes_length (width n : Nat) : (beBytes width n).length = width := by
  induction width with
  | zero => rfl
  | succ width ih => simp [beBytes, ih]

theorem foldl_beBytes (width n : Nat) : ∀ acc : Nat,
    (beBytes width n).foldl (fun acc b => acc * 256 + b.toNat) acc =
      acc * 256 ^ width + n % 256 ^ width := by
  induction width with
  | zero => intro acc; simp [beBytes, Nat.mod_one]
  | succ width ih =>
    intro acc
    have hbyte : (UInt8.ofNat (n / 256 ^ width)).toNat = n / 256 ^ width % 256 := by simp
    have hcomm : 256 ^ width * (n / 256 ^ width % 256) = (n / 256 ^ width % 256) * 256 ^ width :=
      Nat.mul_comm _ _
    rw [beBytes, foldl_cons, ih, hbyte, Nat.mod_pow_succ, Nat.pow_succ, Nat.add_mul, hcomm,
      Nat.mul_assoc, Nat.mul_comm 256 (256 ^ width)]
    omega

/-- What was written comes back, cut down to its width. -/
theorem natOfBe_beBytes (width n : Nat) : natOfBe (beBytes width n) = n % 256 ^ width := by
  rw [natOfBe, foldl_beBytes]
  omega

theorem beBytes_inj {width a b : Nat} (ha : a < 256 ^ width) (hb : b < 256 ^ width)
    (h : beBytes width a = beBytes width b) : a = b := by
  have hnat := congrArg natOfBe h
  rwa [natOfBe_beBytes, natOfBe_beBytes, Nat.mod_eq_of_lt ha, Nat.mod_eq_of_lt hb] at hnat

/-- What stands behind its length can be told from what follows. -/
theorem prefixed_inj {width : Nat} {a b x y : List UInt8} (ha : a.length < 256 ^ width)
    (hb : b.length < 256 ^ width)
    (h : beBytes width a.length ++ (a ++ x) = beBytes width b.length ++ (b ++ y)) :
    a = b ∧ x = y := by
  obtain ⟨hlength, hrest⟩ := append_inj h (by simp)
  exact append_inj hrest (beBytes_inj ha hb hlength)

theorem natOfLe_leBytes (width n : Nat) : natOfLe (leBytes width n) = n % 256 ^ width := by
  rw [natOfLe, leBytes, reverse_reverse, natOfBe_beBytes]

theorem foldl_bytes_div (bytes : List UInt8) : ∀ acc : Nat,
    bytes.foldl (fun acc b => acc * 256 + b.toNat) acc / 256 ^ bytes.length = acc := by
  induction bytes with
  | nil => intro acc; simp
  | cons b bytes ih =>
    intro acc
    have hb : b.toNat < 256 := b.toNat_lt
    rw [foldl_cons, length_cons, Nat.pow_succ, ← Nat.div_div_eq_div_mul, ih]
    omega

/-- Bytes hold no more than their width allows. -/
theorem natOfBe_lt (bytes : List UInt8) : natOfBe bytes < 256 ^ bytes.length :=
  (Nat.div_eq_zero_iff_lt (Nat.pow_pos (by decide))).mp (foldl_bytes_div bytes 0)

/-- Bytes are those of the integer they stand for, whatever stands above it. -/
theorem beBytes_foldl (bytes : List UInt8) : ∀ acc : Nat,
    beBytes bytes.length (bytes.foldl (fun acc b => acc * 256 + b.toNat) acc) = bytes := by
  induction bytes with
  | nil => exact fun _ => rfl
  | cons b bytes ih =>
    intro acc
    have hb : (acc * 256 + b.toNat) % 256 = b.toNat := by
      have : b.toNat < 256 := b.toNat_lt
      omega
    rw [foldl_cons, length_cons, beBytes, ih, foldl_bytes_div]
    exact congrArg (· :: bytes) (UInt8.toNat_inj.mp ((UInt8.toNat_ofNat' ..).trans hb))

/-- The `width` bytes of a signed integer, in two's complement. -/
def intBytes (width : Nat) (i : Int) : List UInt8 := beBytes width (i % ((256 ^ width : Nat) : Int)).toNat

/-- The signed integer that `width` bytes in two's complement stand for. -/
def intOfBe (width : Nat) (bytes : List UInt8) : Int := Int.bmod (natOfBe bytes) (256 ^ width)

@[simp] theorem intBytes_length (width : Nat) (i : Int) : (intBytes width i).length = width :=
  beBytes_length _ _

theorem intOfBe_intBytes (width : Nat) (i : Int) :
    intOfBe width (intBytes width i) = Int.bmod i (256 ^ width) := by
  have hpos : 0 < 256 ^ width := Nat.pow_pos (by decide)
  rw [intOfBe, intBytes, natOfBe_beBytes]
  generalize 256 ^ width = m at hpos ⊢
  have hnn : 0 ≤ i % (m : Int) := Int.emod_nonneg _ (by omega)
  rw [Int.natCast_emod, Int.toNat_of_nonneg hnn, Int.emod_bmod, Int.emod_bmod]

/-! ## Reading -/

/-- A byte string and the offset reached in it. -/
structure Cursor where
  data : List UInt8
  pos : Nat

/-- A reader moves the cursor forward or fails. -/
abbrev Reader (ε α : Type) : Type := StateT Cursor (Except ε) α

variable (truncated : Nat → Nat → ε)

/-- The next `n` bytes. `truncated` is told how many were asked for, and where. -/
def take (n : Nat) : Reader ε (List UInt8) := fun c =>
  if c.pos + n ≤ c.data.length then
    .ok ((c.data.drop c.pos).take n, { c with pos := c.pos + n })
  else .error (truncated n c.pos)

variable (width : Nat)

/-- The next big-endian integer of the given width. -/
def takeNat : Reader ε Nat := do
  let bytes ← take truncated width
  pure (natOfBe bytes)

/-- The next two's complement integer of the given width. -/
def takeInt : Reader ε Int := do
  let bytes ← take truncated width
  pure (intOfBe width bytes)

/-- A field behind its length, an integer of the given width. -/
def takePrefixed : Reader ε (List UInt8) := do
  let len ← takeNat truncated width
  take truncated len

/-- The same field `n` times. -/
def takeMany (r : Reader ε α) : Nat → Reader ε (List α)
  | 0 => pure []
  | n + 1 => do
    let a ← r
    let rest ← takeMany r n
    pure (a :: rest)

/-- Read a whole byte string. `trailing` is told how many bytes were left over. -/
def readAll (trailing : Nat → ε) (r : Reader ε α) (data : List UInt8) : Except ε α :=
  match r ⟨data, 0⟩ with
  | .error e => .error e
  | .ok (a, c) => if c.pos ≠ data.length then .error (trailing (data.length - c.pos)) else .ok a

/-- The reader consumes exactly `bytes`, wherever they stand, and returns `a`. -/
def Reads (r : Reader ε α) (bytes : List UInt8) (a : α) : Prop :=
  ∀ before rest : List UInt8, r ⟨before ++ (bytes ++ rest), before.length⟩ =
    .ok (a, ⟨before ++ (bytes ++ rest), before.length + bytes.length⟩)

namespace Reads
variable {r : Reader ε α} {f : α → Reader ε β} {bytes more : List UInt8} {a : α} {b : β}

protected theorem pure (a : α) : Reads (pure a : Reader ε α) [] a := fun _ _ => rfl

theorem lift (a : α) : Reads (liftM (Except.ok a : Except ε α) : Reader ε α) [] a :=
  fun _ _ => rfl

theorem bind (hr : Reads r bytes a) (hf : Reads (f a) more b) :
    Reads (r >>= f) (bytes ++ more) b := by
  intro before rest
  have hassoc : before ++ (bytes ++ more ++ rest) = before ++ (bytes ++ (more ++ rest)) := by
    simp
  have hmoved : before ++ (bytes ++ (more ++ rest)) = (before ++ bytes) ++ (more ++ rest) := by
    simp
  have hlen : before.length + bytes.length = (before ++ bytes).length := by simp
  show (r _).bind _ = _
  rw [hassoc, hr before (more ++ rest)]
  show f a _ = _
  rw [hmoved, hlen, hf (before ++ bytes) rest]
  simp [Nat.add_assoc]

/-- The last field of a format: what follows it only puts the fields together. -/
theorem bind_pure (hr : Reads r bytes a) (g : α → β) :
    Reads (r >>= fun x => pure (g x)) bytes (g a) := by
  have h := bind (f := fun x => (pure (g x) : Reader ε β)) hr (Reads.pure (g a))
  rwa [append_nil] at h

/-- Where nothing is left over, the whole string is read. -/
theorem readAll (hr : Reads r bytes a) (trailing : Nat → ε) :
    readAll trailing r bytes = .ok a := by
  have h := hr [] []
  simp only [nil_append, append_nil, length_nil, Nat.zero_add] at h
  unfold Wire.readAll
  rw [h]
  simp

end Reads

variable {truncated : Nat → Nat → ε} {n width : Nat} {c c' : Cursor}
  {bytes : List UInt8} {r : Reader ε α}

theorem reads_take (h : bytes.length = n) :
    Reads (take truncated n) bytes bytes := by
  intro before rest
  subst h
  simp [take]

theorem reads_takeNat (width n : Nat) :
    Reads (takeNat truncated width) (beBytes width n) (n % 256 ^ width) := by
  rw [← natOfBe_beBytes]
  exact (reads_take (beBytes_length width n)).bind_pure natOfBe

theorem reads_takeNat_of_lt (h : n < 256 ^ width) :
    Reads (takeNat truncated width) (beBytes width n) n := by
  have hread : Reads (takeNat truncated width) _ _ := reads_takeNat width n
  rwa [Nat.mod_eq_of_lt h] at hread

theorem reads_takeByte (b : UInt8) : Reads (takeNat truncated 1) [b] b.toNat := by
  have hbyte : beBytes 1 b.toNat = [b] := by simp [beBytes]
  exact hbyte ▸ reads_takeNat_of_lt b.toNat_lt

theorem reads_takeInt (width : Nat) (i : Int) :
    Reads (takeInt truncated width) (intBytes width i) (Int.bmod i (256 ^ width)) := by
  rw [← intOfBe_intBytes]
  exact (reads_take (intBytes_length width i)).bind_pure (intOfBe width)

theorem reads_takePrefixed (h : bytes.length < 256 ^ width) :
    Reads (takePrefixed truncated width) (beBytes width bytes.length ++ bytes) bytes :=
  (reads_takeNat_of_lt h).bind (reads_take rfl)

/-- A list is read back when each of its elements is. -/
theorem reads_takeMany {encode : α → List UInt8} : ∀ items : List α,
    (∀ a ∈ items, Reads r (encode a) a) →
      Reads (takeMany r items.length) (items.flatMap encode) items
  | [], _ => Reads.pure []
  | a :: rest, h => by
    rw [flatMap_cons]
    refine (h a mem_cons_self).bind ?_
    exact (reads_takeMany rest fun b hb => h b (mem_cons_of_mem _ hb)).bind_pure (a :: ·)

/-! ## What a reader returns -/

theorem reader_bind_eq_ok {f : α → Reader ε β} {b : β} :
    (r >>= f) c = .ok (b, c') ↔ ∃ a mid, r c = .ok (a, mid) ∧ f a mid = .ok (b, c') := by
  show (r c).bind (fun out => f out.1 out.2) = _ ↔ _
  cases r c with
  | error e => exact ⟨nofun, nofun⟩
  | ok out => exact ⟨fun h => ⟨out.1, out.2, rfl, h⟩, by rintro ⟨_, _, ⟨⟩, h⟩; exact h⟩

/-- What is true of every item that is read is true of every item of a list. -/
theorem forall_takeMany {Q : α → Prop} (hr : ∀ {c a c'}, r c = .ok (a, c') → Q a) :
    ∀ {n : Nat} {c c' : Cursor} {items : List α}, takeMany r n c = .ok (items, c') → ∀ a ∈ items, Q a
  | 0, _, _, _, h => by
    cases h
    exact nofun
  | n + 1, _, _, _, h => by
    obtain ⟨a, _, hfirst, h⟩ := reader_bind_eq_ok.mp h
    obtain ⟨rest, _, hrest, h⟩ := reader_bind_eq_ok.mp h
    cases h
    intro b hb
    rcases mem_cons.mp hb with rfl | hb
    · exact hr hfirst
    · exact forall_takeMany hr hrest b hb

/-- Between the two cursors stand exactly these bytes. -/
def Spans (c : Cursor) (bytes : List UInt8) (c' : Cursor) : Prop :=
  c'.data = c.data ∧ c.data.drop c.pos = bytes ++ c.data.drop c'.pos

theorem Spans.append {mid : Cursor} {more : List UInt8} (h : Spans c bytes mid)
    (h' : Spans mid more c') : Spans c (bytes ++ more) c' := by
  obtain ⟨hdata, hmore⟩ := h'
  rw [h.1] at hdata hmore
  exact ⟨hdata, by rw [h.2, hmore, append_assoc]⟩

/-- A string that is read is what the reader went over. -/
theorem readAll_eq_ok {trailing : Nat → ε} {data : List UInt8} {a : α}
    (h : readAll trailing r data = .ok a) :
    ∃ c, r ⟨data, 0⟩ = .ok (a, c) ∧ ∀ bytes, Spans ⟨data, 0⟩ bytes c → bytes = data := by
  unfold readAll at h
  split at h
  · cases h
  · rename_i hread
    split at h
    · cases h
    · rename_i hend
      cases h
      refine ⟨_, hread, fun bytes hspans => ?_⟩
      have hrest := hspans.2
      rw [not_not.mp hend, drop_length, append_nil] at hrest
      exact hrest.symm

theorem take_eq_ok (h : take truncated n c = .ok (bytes, c')) :
    bytes.length = n ∧ Spans c bytes c' := by
  unfold take at h
  split at h
  · rename_i hfits
    cases h
    refine ⟨?_, rfl, by rw [← drop_drop, take_append_drop]⟩
    rw [length_take, length_drop]
    omega
  · cases h

theorem takeNat_eq_ok (h : takeNat truncated width c = .ok (n, c')) :
    n < 256 ^ width ∧ Spans c (beBytes width n) c' := by
  obtain ⟨bytes, _, htake, h⟩ := reader_bind_eq_ok.mp h
  cases h
  obtain ⟨rfl, hspans⟩ := take_eq_ok htake
  exact ⟨natOfBe_lt bytes, (beBytes_foldl bytes 0).symm ▸ hspans⟩

/-- A field behind a length prefix is no longer than the prefix can say. -/
theorem takePrefixed_eq_ok (h : takePrefixed truncated width c = .ok (bytes, c')) :
    bytes.length < 256 ^ width ∧ Spans c (beBytes width bytes.length ++ bytes) c' := by
  obtain ⟨_, _, hlen, h⟩ := reader_bind_eq_ok.mp h
  obtain ⟨rfl, hspans⟩ := take_eq_ok h
  exact ⟨(takeNat_eq_ok hlen).1, (takeNat_eq_ok hlen).2.append hspans⟩

theorem takeMany_eq_ok {encode : α → List UInt8}
    (hr : ∀ {c a c'}, r c = .ok (a, c') → Spans c (encode a) c') :
    ∀ {n : Nat} {c c' : Cursor} {items : List α}, takeMany r n c = .ok (items, c') →
      items.length = n ∧ Spans c (items.flatMap encode) c'
  | 0, _, _, _, h => by
    cases h
    exact ⟨rfl, rfl, rfl⟩
  | n + 1, _, _, _, h => by
    obtain ⟨a, _, hfirst, h⟩ := reader_bind_eq_ok.mp h
    obtain ⟨rest, _, hrest, h⟩ := reader_bind_eq_ok.mp h
    cases h
    obtain ⟨rfl, hspans⟩ := takeMany_eq_ok hr hrest
    exact ⟨rfl, (hr hfirst).append hspans⟩

end Wire
