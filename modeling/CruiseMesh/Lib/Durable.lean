import Mathlib

/-!
# Programs over a durable store

A store program does not go from one state to the next: it makes a sequence of
durable writes, and the process may die between any two of them. So a program
here is a function from the state it finds to the *list* of states it leaves on
disk, one for each write that became durable, together with what it returned.

* `final` is the state when the program has returned,
* `cuts` are the states that can survive it: the one it started from and the one
  after each write.

A transaction is one write whatever it does inside, or none at all when it fails.
-/

namespace Durable
open List

/-- A program over a durable state `σ`: the states after each durable write, in
order, and the value or the error it ended with. An error does not undo the
writes made before it. -/
def Prog (σ ε α : Type) : Type := σ → List σ × Except ε α

/-- The body of a transaction: explicit state passing, where an error discards
the state. -/
abbrev Tx (σ ε α : Type) : Type := StateT σ (Except ε) α

variable {σ ε α β : Type}

namespace Prog
variable (p : Prog σ ε α) (s : σ)

/-- What the program returns when started in `s`. -/
def result : Except ε α := (p s).2

/-- The state the program leaves when it is not interrupted. -/
def final : σ := (p s).1.getLastD s

/-- The states that can survive a crash of the program started in `s`. -/
def cuts : List σ := s :: (p s).1

protected def pure (a : α) : Prog σ ε α := fun _ => ([], .ok a)

/-- Sequencing: the second program starts from the last state the first one made
durable, and an error of the first one ends the whole. -/
protected def bind (f : α → Prog σ ε β) : Prog σ ε β := fun s =>
  match (p s).2 with
  | .error e => ((p s).1, .error e)
  | .ok a => ((p s).1 ++ (f a (p.final s)).1, (f a (p.final s)).2)

instance : Monad (Prog σ ε) where
  pure := Prog.pure
  bind := Prog.bind

/-- A read of the store. -/
def inspect (f : σ → α) : Prog σ ε α := fun s => ([], .ok (f s))

/-- One durable write. -/
def write (f : σ → σ) : Prog σ ε Unit := fun s => ([f s], .ok ())

/-- A step that does not touch the store. -/
def lift (x : Except ε α) : Prog σ ε α := fun _ => ([], x)

instance : MonadLift (Except ε) (Prog σ ε) where
  monadLift := lift

/-- Run the program and hand its error on as a value; what it wrote before the error stays. -/
def attempt {δ : Type} (p : Prog σ ε α) : Prog σ δ (Except ε α) := fun s => ((p s).1, .ok (p s).2)

/-- The program fails with `e` after its first `n` writes. -/
def failAfter (n : Nat) (e : ε) (p : Prog σ ε α) : Prog σ ε α := fun s => ((p s).1.take n, .error e)

/-- Run the program and report its error in other words. -/
def mapError {δ : Type} (f : ε → δ) (p : Prog σ ε α) : Prog σ δ α := fun s =>
  ((p s).1, (p s).2.mapError f)

/-- The states in which the program can be interrupted with a write still to come. -/
def interrupted : List σ := (p.cuts s).dropLast

/-- The state that survives when the process dies after `n` durable writes, or the final
one when there are no more than `n`. -/
def survivor (n : Nat) (s : σ) : σ := (p.cuts s).getD n (p.final s)

/-! ### What a program returns

`Returns p s a s'` is the program's run from beginning to end. It is taken apart at each
`bind`, so a straight-line program is run by rewriting. -/

/-- Started in `s` and not interrupted, the program returns `a` and leaves `s'`. -/
def Returns (a : α) (s' : σ) : Prop :=
  p.result s = .ok a ∧ p.final s = s'

theorem bind_apply (p : Prog σ ε α) (f : α → Prog σ ε β) (s : σ) :
    (p >>= f) s = match (p s).2 with
      | .error e => ((p s).1, .error e)
      | .ok a => ((p s).1 ++ (f a (p.final s)).1, (f a (p.final s)).2) := rfl

theorem getLastD_append (l m : List σ) (s : σ) : (l ++ m).getLastD s = m.getLastD (l.getLastD s) := by
  cases m with
  | nil => simp
  | cons a m =>
    rw [getLastD_eq_getLast?, getLast?_append, getLastD_cons]
    simp [getLastD_eq_getLast?, getLast?_cons]

variable {a : α} {s s' : σ} {x : Except ε α} {p : Prog σ ε α} {f : α → Prog σ ε β} {b : β}
  {g : α → Prog σ ε β} {r : Except ε α} {mid : σ} {e : ε}

@[simp] theorem returns_pure {b : α} :
    Returns (pure a : Prog σ ε α) s b s' ↔ a = b ∧ s = s' := by
  show (Except.ok a : Except ε α) = .ok b ∧ s = s' ↔ _
  simp

@[simp] theorem returns_inspect {f : σ → α} {b : α} :
    Returns (inspect f : Prog σ ε α) s b s' ↔ f s = b ∧ s = s' := by
  show (Except.ok (f s) : Except ε α) = .ok b ∧ s = s' ↔ _
  simp

@[simp] theorem returns_write {f : σ → σ} {u : Unit} :
    Returns (write f : Prog σ ε Unit) s u s' ↔ f s = s' := by
  show (Except.ok () : Except ε Unit) = .ok u ∧ f s = s' ↔ _
  simp

@[simp] theorem returns_lift {b : α} :
    Returns (liftM x : Prog σ ε α) s b s' ↔ x = .ok b ∧ s = s' := Iff.rfl

theorem returns_bind :
    Returns (p >>= f) s b s' ↔ ∃ a mid, Returns p s a mid ∧ Returns (f a) mid b s' := by
  unfold Returns result final
  rw [bind_apply]
  cases hp : (p s).2 with
  | error e => simp
  | ok a =>
    simp only [getLastD_append]
    constructor
    · intro ⟨hres, hfin⟩
      exact ⟨a, _, ⟨rfl, rfl⟩, hres, hfin⟩
    · intro ⟨a', mid, ⟨ha, hmid⟩, hres, hfin⟩
      cases ha
      subst hmid
      exact ⟨hres, hfin⟩

theorem returns_inspect_bind {f : σ → α} :
    Returns (inspect f >>= g) s b s' ↔ Returns (g (f s)) s b s' := Iff.rfl

theorem returns_lift_bind :
    Returns ((liftM x : Prog σ ε α) >>= f) s b s' ↔ ∃ a, x = .ok a ∧ Returns (f a) s b s' := by
  rw [returns_bind]
  simp

@[simp] theorem returns_attempt {δ : Type} :
    Returns (attempt p : Prog σ δ (Except ε α)) s r s' ↔ p.result s = r ∧ p.final s = s' := by
  show (Except.ok (p.result s) : Except δ (Except ε α)) = .ok r ∧ p.final s = s' ↔ _
  rw [Except.ok.injEq]

@[simp] theorem returns_mapError {δ : Type} {f : ε → δ} :
    Returns (mapError f p) s a s' ↔ Returns p s a s' := by
  show (p.result s).mapError f = .ok a ∧ p.final s = s' ↔ _
  unfold Returns
  cases p.result s with
  | error e => simp [Except.mapError]
  | ok b => simp [Except.mapError]

/-! What a program does when it is run in one state, where that is known step by step. -/

theorem run_eq (writes : List σ) (h : p s = (writes, r)) :
    p.result s = r ∧ p.final s = writes.getLastD s := by
  unfold result final
  rw [h]
  exact ⟨rfl, rfl⟩

@[simp] theorem lift_ok_bind (a : α) (f : α → Prog σ ε β) :
    ((liftM (Except.ok a : Except ε α) : Prog σ ε α) >>= f) = f a := rfl

@[simp] theorem lift_error_bind (e : ε) (f : α → Prog σ ε β) (s : σ) :
    ((liftM (Except.error e : Except ε α) : Prog σ ε α) >>= f) s = ([], .error e) := rfl

/-! How a sequence runs when its first step is known. -/

theorem result_inspect_bind (f : σ → α) (g : α → Prog σ ε β) (s : σ) :
    (inspect f >>= g).result s = (g (f s)).result s := rfl

theorem final_inspect_bind (f : σ → α) (g : α → Prog σ ε β) (s : σ) :
    (inspect f >>= g).final s = (g (f s)).final s := rfl

theorem final_write_bind (f : σ → σ) (g : Unit → Prog σ ε β) (s : σ) :
    (write f >>= g).final s = (g ()).final (f s) := getLastD_append [f s] _ s

/-- A fallible step that does not touch the store stops the sequence, or is passed. -/
theorem lift_bind_cases (x : Except ε α) (f : α → Prog σ ε β) (s : σ) :
    (∃ e, ((liftM x : Prog σ ε α) >>= f).result s = .error e ∧
      ((liftM x : Prog σ ε α) >>= f).final s = s) ∨
    ∃ a, x = .ok a ∧ ((liftM x : Prog σ ε α) >>= f) = f a := by
  cases x with
  | error e => exact .inl ⟨e, rfl, rfl⟩
  | ok a => exact .inr ⟨a, rfl, rfl⟩

/-- A sequence stops with its first part, or goes on from where that one ended. -/
theorem run_bind_cases (p : Prog σ ε α) (f : α → Prog σ ε β) (s : σ) :
    (∃ e, p.result s = .error e ∧ (p >>= f).result s = .error e ∧ (p >>= f).final s = p.final s) ∨
    ∃ a mid, Returns p s a mid ∧ (p >>= f).result s = (f a).result mid ∧
      (p >>= f).final s = (f a).final mid := by
  unfold Returns result final
  rw [bind_apply]
  cases hp : (p s).2 with
  | error e => exact .inl ⟨e, rfl, rfl, rfl⟩
  | ok a => exact .inr ⟨a, _, ⟨rfl, rfl⟩, rfl, getLastD_append _ _ _⟩

/-- A sequence whose first part returns goes on from there. -/
theorem run_bind_of_returns (h : Returns p s a mid) :
    (p >>= f).result s = (f a).result mid ∧ (p >>= f).final s = (f a).final mid := by
  rcases run_bind_cases p f s with ⟨e, hp, _⟩ | ⟨a', mid', hp, hr, hf⟩
  · cases hp ▸ h.1
  · obtain rfl : a' = a := Except.ok.inj (hp.1.symm.trans h.1)
    obtain rfl : mid' = mid := hp.2.symm.trans h.2
    exact ⟨hr, hf⟩

/-- A sequence whose first part fails ends there. -/
theorem run_bind_of_error (h : p.result s = .error e) :
    (p >>= f).result s = .error e ∧ (p >>= f).final s = p.final s := by
  rcases run_bind_cases p f s with ⟨e', hp, hr, hf⟩ | ⟨a, mid, hp, _, _⟩
  · obtain rfl := Except.error.inj (hp.symm.trans h)
    exact ⟨hr, hf⟩
  · cases h ▸ hp.1

/-- What a sequence returns, its second part returned. -/
theorem result_bind_ok (h : (p >>= f).result s = .ok b) :
    ∃ a mid, Returns p s a mid ∧ (f a).result mid = .ok b := by
  rcases run_bind_cases p f s with ⟨e, _, hr, _⟩ | ⟨a, mid, hp, hr, _⟩
  · rw [hr] at h
    cases h
  · exact ⟨a, mid, hp, hr ▸ h⟩

/-! ### What survives it -/

/-- Every state that can survive the program started in `s` satisfies `I`. -/
def Throughout (p : Prog σ ε α) (s : σ) (I : σ → Prop) : Prop := ∀ s' ∈ p.cuts s, I s'

variable {I : σ → Prop}

theorem Throughout.final (h : p.Throughout s I) : I (p.final s) := by
  refine h _ ?_
  unfold Prog.final cuts
  rw [getLastD_eq_getLast?]
  cases hl : (p s).1.getLast? with
  | none => exact mem_cons_self
  | some last => exact mem_cons_of_mem _ (mem_of_getLast? hl)

theorem Throughout.failAfter (h : p.Throughout s I) (n : Nat) (e : ε) :
    (p.failAfter n e).Throughout s I := by
  intro s' hs'
  rcases mem_cons.mp hs' with rfl | hwritten
  · exact h _ mem_cons_self
  · exact h s' (mem_cons_of_mem _ (mem_of_mem_take hwritten))

theorem Throughout.survivor (h : p.Throughout s I) (n : Nat) :
    I (p.survivor n s) := by
  unfold Prog.survivor
  rw [getD_eq_getElem?_getD]
  cases hcut : (p.cuts s)[n]? with
  | none => exact h.final
  | some cut => exact h cut (mem_of_getElem? hcut)

/-- When the process dies after the last write, the final state survives. -/
theorem survivor_eq_final {n : Nat} (h : (p.cuts s).length ≤ n + 1) :
    p.survivor n s = p.final s := by
  unfold Prog.survivor Prog.final Prog.cuts
  rw [getD_eq_getElem?_getD]
  rcases lt_or_ge n (s :: (p s).1).length with hlast | hpast
  · have hn : n = (s :: (p s).1).length - 1 := by
      unfold Prog.cuts at h
      omega
    rw [hn, ← getLast?_eq_getElem?, getLast?_cons, Option.getD_some,
      getLastD_eq_getLast?]
  · rw [getElem?_eq_none hpast, Option.getD_none]

@[simp] theorem throughout_pure :
    Throughout (pure a : Prog σ ε α) s I ↔ I s := by
  show (∀ s' ∈ [s], I s') ↔ _
  simp

@[simp] theorem throughout_inspect {f : σ → α} :
    Throughout (inspect f : Prog σ ε α) s I ↔ I s := by
  show (∀ s' ∈ [s], I s') ↔ _
  simp

@[simp] theorem throughout_lift :
    Throughout (liftM x : Prog σ ε α) s I ↔ I s := by
  show (∀ s' ∈ [s], I s') ↔ _
  simp

@[simp] theorem throughout_write {f : σ → σ} :
    Throughout (write f : Prog σ ε Unit) s I ↔ I s ∧ I (f s) := by
  show (∀ s' ∈ [s, f s], I s') ↔ _
  simp

/-- A sequence keeps `J` when its first part keeps something stronger and its second part
keeps `J` wherever the first one ends. -/
theorem throughout_bind_weaken {J : σ → Prop} (hIJ : ∀ x, I x → J x) (hp : p.Throughout s I)
    (hf : ∀ a mid, Returns p s a mid → I mid → (f a).Throughout mid J) :
    (p >>= f).Throughout s J := by
  intro s' hs'
  unfold cuts at hs'
  rw [bind_apply] at hs'
  cases hres : (p s).2 with
  | error e =>
    rw [hres] at hs'
    exact hIJ s' (hp s' hs')
  | ok a =>
    rw [hres] at hs'
    have hsplit : s' ∈ p.cuts s ∨ s' ∈ (f a).cuts (p.final s) := by
      rcases mem_cons.mp hs' with rfl | hmem
      · exact .inl mem_cons_self
      · rcases mem_append.mp hmem with hleft | hright
        · exact .inl (mem_cons_of_mem _ hleft)
        · exact .inr (mem_cons_of_mem _ hright)
    rcases hsplit with hleft | hright
    · exact hIJ s' (hp s' hleft)
    · exact hf a _ ⟨hres, rfl⟩ hp.final s' hright

/-- A sequence keeps `I` when its first part does and its second part does wherever the
first one ends. -/
theorem throughout_bind (hp : p.Throughout s I)
    (hf : ∀ a mid, Returns p s a mid → I mid → (f a).Throughout mid I) :
    (p >>= f).Throughout s I :=
  throughout_bind_weaken (fun _ h => h) hp hf

theorem throughout_inspect_bind {f : σ → α} :
    (inspect f >>= g).Throughout s I ↔ (g (f s)).Throughout s I := Iff.rfl

theorem throughout_lift_bind (hs : I s) (hf : ∀ a, x = .ok a → (f a).Throughout s I) :
    ((liftM x : Prog σ ε α) >>= f).Throughout s I := by
  refine throughout_bind (throughout_lift.mpr hs) fun a mid hx _ => ?_
  obtain ⟨hok, rfl⟩ := returns_lift.mp hx
  exact hf a hok

/-! ### What it leaves alone -/

section Keeps
variable {τ : Type} {view : σ → τ}

/-- Whatever is cut short, what `view` shows of the state is what it was. -/
def Keeps (p : Prog σ ε α) (view : σ → τ) : Prop := ∀ s, p.Throughout s fun s' => view s' = view s

variable {p : Prog σ ε α} {f : α → Prog σ ε β}

theorem Keeps.final (h : p.Keeps view) (s : σ) : view (p.final s) = view s :=
  (h s).final

theorem Keeps.returns (h : p.Keeps view) {s s' : σ} {a : α} (hr : Returns p s a s') :
    view s' = view s := hr.2 ▸ h.final s

theorem keeps_pure (a : α) : (pure a : Prog σ ε α).Keeps view := fun _ => throughout_pure.mpr rfl

theorem keeps_inspect (f : σ → α) : (inspect f : Prog σ ε α).Keeps view :=
  fun _ => throughout_inspect.mpr rfl

theorem keeps_lift (x : Except ε α) : (liftM x : Prog σ ε α).Keeps view :=
  fun _ => throughout_lift.mpr rfl

theorem keeps_write {f : σ → σ} (h : ∀ s, view (f s) = view s) :
    (write f : Prog σ ε Unit).Keeps view := fun s => throughout_write.mpr ⟨rfl, h s⟩

theorem keeps_bind (hp : p.Keeps view) (hf : ∀ a, (f a).Keeps view) : (p >>= f).Keeps view := by
  intro s
  refine throughout_bind (hp s) fun a mid _ hmid => ?_
  intro s' hs'
  exact (hf a mid s' hs').trans hmid

theorem keeps_inspect_bind {g : σ → α} (hf : ∀ a, (f a).Keeps view) :
    (inspect g >>= f).Keeps view := keeps_bind (keeps_inspect g) hf

theorem keeps_lift_bind {x : Except ε α} (hf : ∀ a, (f a).Keeps view) :
    ((liftM x : Prog σ ε α) >>= f).Keeps view := keeps_bind (keeps_lift x) hf

theorem keeps_attempt {δ : Type} (hp : p.Keeps view) :
    (attempt p : Prog σ δ (Except ε α)).Keeps view := hp

theorem keeps_mapError {δ : Type} {f : ε → δ} (hp : p.Keeps view) :
    (mapError f p).Keeps view := hp

/-- What a sequence's second part leaves alone is as its first part left it. -/
theorem view_final_bind (view : σ → τ) (hf : ∀ a, (f a).Keeps view) (s : σ) :
    view ((p >>= f).final s) = view (p.final s) := by
  rcases run_bind_cases p f s with ⟨_, _, _, hfinal⟩ | ⟨a, mid, ⟨_, hmid⟩, _, hfinal⟩
  · rw [hfinal]
  · rw [hfinal, (hf a).final, hmid]

end Keeps

/-! ### Where it is interrupted -/

@[simp] theorem interrupted_inspect (f : σ → α) (s : σ) :
    (inspect f : Prog σ ε α).interrupted s = [] := rfl

@[simp] theorem interrupted_lift (x : Except ε α) (s : σ) :
    (liftM x : Prog σ ε α).interrupted s = [] := rfl

@[simp] theorem interrupted_write (f : σ → σ) (s : σ) :
    (write f : Prog σ ε Unit).interrupted s = [s] := rfl

theorem cons_eq_dropLast (s : σ) (writes : List σ) :
    s :: writes = (s :: writes).dropLast ++ [writes.getLastD s] := by
  rcases eq_nil_or_concat writes with rfl | ⟨front, last, rfl⟩
  · rfl
  · simp [dropLast_cons_of_ne_nil]

/-- The last state a program leaves is its final one. -/
theorem cuts_eq (p : Prog σ ε α) (s : σ) : p.cuts s = p.interrupted s ++ [p.final s] :=
  cons_eq_dropLast s (p s).1

/-- A sequence that gets past its first part is interrupted in that part or in the second. -/
theorem interrupted_bind (h : Returns p s a mid) :
    (p >>= f).interrupted s = p.interrupted s ++ (f a).interrupted mid := by
  have hcuts : (p >>= f).cuts s = p.interrupted s ++ (f a).cuts mid := by
    have hp : (p s).2 = .ok a := h.1
    have hbind : (p >>= f).cuts s = p.cuts s ++ (f a mid).1 := by
      unfold cuts
      rw [bind_apply, hp, h.2]
      rfl
    rw [hbind, cuts_eq p s, h.2, append_assoc]
    rfl
  show ((p >>= f).cuts s).dropLast = _
  have hne : (f a).cuts mid ≠ [] := cons_ne_nil _ _
  rw [hcuts, dropLast_append_of_ne_nil hne]
  rfl

/-- A sequence is interrupted in its first part, or past it in the second. -/
theorem mem_interrupted_bind (h : s' ∈ (p >>= f).interrupted s) :
    s' ∈ p.interrupted s ∨ ∃ a mid, Returns p s a mid ∧ s' ∈ (f a).interrupted mid := by
  cases hp : p.result s with
  | error e =>
    have herror : (p s).2 = .error e := hp
    unfold interrupted cuts at h
    rw [bind_apply, herror] at h
    exact .inl h
  | ok a =>
    rw [interrupted_bind ⟨hp, rfl⟩] at h
    exact (mem_append.mp h).imp_right fun hsecond => ⟨a, _, ⟨hp, rfl⟩, hsecond⟩

/-- Where what follows `p` makes one write at most, the program is interrupted only in
states that `p` leaves. -/
theorem mem_cuts_of_interrupted_bind (hf : ∀ a mid, (f a mid).1.length ≤ 1)
    (h : s' ∈ (p >>= f).interrupted s) : s' ∈ p.cuts s := by
  rw [cuts_eq]
  rcases mem_interrupted_bind h with hfirst | ⟨a, mid, hp, hsecond⟩
  · exact mem_append_left _ hfirst
  -- with one write at most there is one state before it
  refine mem_append_right _ ?_
  have hone := hf a mid
  rw [hp.2]
  unfold interrupted cuts at hsecond
  match hwrites : (f a mid).1, hone with
  | [], _ => simp [hwrites] at hsecond
  | [last], _ => simpa [hwrites] using hsecond

/-! ### A part of the state -/

section Zoom
variable {τ : Type}

/-- A program over a part of the state, run on the whole. -/
def zoom (get : τ → σ) (put : σ → τ → τ) (p : Prog σ ε α) : Prog τ ε α := fun t =>
  ((p (get t)).1.map (put · t), (p (get t)).2)

variable {get : τ → σ} {put : σ → τ → τ}

theorem final_zoom (hput : ∀ t, put (get t) t = t) (p : Prog σ ε α) (t : τ) :
    (p.zoom get put).final t = put (p.final (get t)) t := by
  have hlast : ∀ l : List σ, (l.map (put · t)).getLastD t = put (l.getLastD (get t)) t := by
    intro l
    rcases eq_nil_or_concat l with rfl | ⟨front, last, rfl⟩
    · exact (hput t).symm
    · simp
  exact hlast (p (get t)).1

theorem throughout_zoom {p : Prog σ ε α} {t : τ} {I : τ → Prop} (ht : I t)
    (h : p.Throughout (get t) fun s => I (put s t)) : (p.zoom get put).Throughout t I := by
  intro t' ht'
  rcases mem_cons.mp ht' with rfl | hwrite
  · exact ht
  · obtain ⟨s, hs, rfl⟩ := mem_map.mp hwrite
    exact h s (mem_cons_of_mem _ hs)

end Zoom
end Prog

/-! ## Transactions -/

namespace Tx

/-! How each step of a transaction body acts on the state, so that a body can be
run symbolically. -/

theorem bind_apply (t : Tx σ ε α) (f : α → Tx σ ε β) (s : σ) :
    (t >>= f) s = (t s).bind fun r => f r.1 r.2 := rfl

@[simp] theorem pure_apply (a : α) (s : σ) : (pure a : Tx σ ε α) s = .ok (a, s) := rfl

@[simp] theorem get_apply (s : σ) : (get : Tx σ ε σ) s = .ok (s, s) := rfl

@[simp] theorem modify_apply (f : σ → σ) (s : σ) :
    (modify f : Tx σ ε PUnit) s = .ok ((), f s) := rfl

@[simp] theorem lift_ok_apply (a : α) (s : σ) :
    (liftM (Except.ok a : Except ε α) : Tx σ ε α) s = .ok (a, s) := rfl

variable {x : Except ε α} {a : α} {s s' : σ} {t : Tx σ ε α} {f : α → Tx σ ε β} {r : β × σ}

theorem lift_eq_ok :
    (liftM x : Tx σ ε α) s = .ok (a, s') ↔ x = .ok a ∧ s = s' := by
  cases x with
  | error e =>
    constructor
    · intro h
      cases h
    · intro ⟨h, _⟩
      cases h
  | ok b =>
    show (Except.ok (b, s) : Except ε (α × σ)) = .ok (a, s') ↔ _
    simp

theorem bind_apply_ok (h : t s = .ok (a, s')) : (t >>= f) s = f a s' := by
  rw [bind_apply, h]; rfl

theorem bind_apply_error {e : ε} (h : t s = .error e) : (t >>= f) s = .error e := by
  rw [bind_apply, h]; rfl

theorem get_bind (f : σ → Tx σ ε β) (s : σ) : (get >>= f) s = f s s := rfl

theorem bind_eq_ok :
    (t >>= f) s = .ok r ↔ ∃ a s', t s = .ok (a, s') ∧ f a s' = .ok r := by
  rw [bind_apply]
  cases t s with
  | error e => simp [Except.bind]
  | ok q =>
    obtain ⟨a, s'⟩ := q
    simp [Except.bind]

theorem lift_bind_eq_ok :
    ((liftM x : Tx σ ε α) >>= f) s = .ok r ↔ ∃ a, x = .ok a ∧ f a s = .ok r := by
  rw [bind_eq_ok]
  simp [lift_eq_ok]

end Tx

/-- Run a transaction body. It becomes durable in one write, or, when the body
fails, not at all. -/
def transaction (t : Tx σ ε α) : Prog σ ε α := fun s =>
  match t s with
  | .ok (a, s') => ([s'], .ok a)
  | .error e => ([], .error e)

variable {t : Tx σ ε α} {f : α → Prog σ ε β} {s s' : σ} {a : α}

theorem transaction_bind_error {e : ε} (h : t s = .error e) :
    (transaction t >>= f) s = ([], .error e) := by
  rw [Prog.bind_apply]
  simp [transaction, h]

theorem transaction_bind_ok (h : t s = .ok (a, s')) :
    (transaction t >>= f) s = (s' :: (f a s').1, (f a s').2) := by
  rw [Prog.bind_apply]
  simp [transaction, h, Prog.final]

theorem transaction_ok (h : t s = .ok (a, s')) :
    (transaction t).result s = .ok a ∧ (transaction t).final s = s' := by
  simp [Prog.result, Prog.final, transaction, h]

theorem returns_transaction :
    Prog.Returns (transaction t) s a s' ↔ t s = .ok (a, s') := by
  unfold Prog.Returns Prog.result Prog.final transaction
  cases ht : t s with
  | error e => simp
  | ok r =>
    obtain ⟨b, mid⟩ := r
    simp

theorem throughout_transaction {I : σ → Prop} (hs : I s) (ht : ∀ a s', t s = .ok (a, s') → I s') :
    (transaction t).Throughout s I := by
  intro s' hs'
  unfold Prog.cuts transaction at hs'
  cases hres : t s with
  | error e =>
    rw [hres] at hs'
    rcases mem_cons.mp hs' with rfl | hmem
    · exact hs
    · cases hmem
  | ok r =>
    rw [hres] at hs'
    rcases mem_cons.mp hs' with rfl | hmem
    · exact hs
    · obtain rfl := mem_singleton.mp hmem
      exact ht r.1 r.2 hres

/-! What a transaction leaves alone. -/

section Keeps
variable {τ : Type} {view : σ → τ}

/-- A body that succeeds leaves what `view` shows of the state as it was. -/
def Tx.Keeps (t : Tx σ ε α) (view : σ → τ) : Prop :=
  ∀ s a s', t s = .ok (a, s') → view s' = view s

theorem Tx.keeps_pure (a : α) : Tx.Keeps (pure a : Tx σ ε α) view := by
  intro s b s' h
  rw [← (Prod.mk.inj (Except.ok.inj h)).2]

theorem Tx.keeps_get : Tx.Keeps (get : Tx σ ε σ) view := by
  intro s b s' h
  rw [← (Prod.mk.inj (Except.ok.inj h)).2]

theorem Tx.keeps_modify {f : σ → σ} (h : ∀ s, view (f s) = view s) :
    Tx.Keeps (modify f : Tx σ ε PUnit) view := by
  intro s b s' heq
  rw [← (Prod.mk.inj (Except.ok.inj heq)).2]
  exact h s

theorem Tx.keeps_lift (x : Except ε α) : Tx.Keeps (liftM x : Tx σ ε α) view := by
  intro s a s' h
  rw [(Tx.lift_eq_ok.mp h).2]

variable {t : Tx σ ε α}

theorem Tx.keeps_bind {f : α → Tx σ ε β} (ht : Tx.Keeps t view) (hf : ∀ a, Tx.Keeps (f a) view) :
    Tx.Keeps (t >>= f) view := by
  intro s b s' h
  obtain ⟨a, mid, hfirst, hthen⟩ := Tx.bind_eq_ok.mp h
  exact (hf a mid b s' hthen).trans (ht s a mid hfirst)

theorem Prog.keeps_transaction (ht : Tx.Keeps t view) :
    (transaction t).Keeps view :=
  fun s => throughout_transaction rfl fun a s' h => ht s a s' h

end Keeps

/-- What holds of the state before a transaction, and of the state its body makes when
it succeeds, holds afterwards. -/
theorem transaction_final {R : σ → Prop} (hnone : R s) (hsome : ∀ a s', t s = .ok (a, s') → R s') :
    R ((transaction t).final s) := by
  unfold Prog.final transaction
  cases ht : t s with
  | error e => exact hnone
  | ok r => exact hsome r.1 r.2 ht

end Durable
