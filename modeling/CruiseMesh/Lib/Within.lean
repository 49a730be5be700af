import CruiseMesh.Lib.Durable

/-!
# What a program may change

`Keeps` says that a program leaves a view of the state alone. Where it may change the state, but
only in one direction, a preorder says in which: the program stays within the preorder when every
state it passes through is related to the one it began in.
-/

namespace Durable
variable {σ τ ε α β : Type} {R : σ → σ → Prop}

/-- Whatever is cut short, what is left is related to the state it began in. -/
def Prog.Within (p : Prog σ ε α) (R : σ → σ → Prop) : Prop := ∀ s, p.Throughout s (R s)

/-- A body that succeeds leaves a state that is related to the one it began in. -/
def Tx.Within (t : Tx σ ε α) (R : σ → σ → Prop) : Prop := ∀ s a s', t s = .ok (a, s') → R s s'

namespace Prog
variable {p : Prog σ ε α} {g : α → Prog σ ε β} {x : Except ε α}

theorem Within.final (h : p.Within R) (s : σ) : R s (p.final s) := (h s).final

/-- A program that leaves alone what the relation is about stays within it. -/
theorem Keeps.within {view : σ → τ} (h : p.Keeps view) (hR : ∀ s s', view s' = view s → R s s') :
    p.Within R :=
  fun s s' hs' => hR s s' (h s s' hs')

theorem within_mapError {δ : Type} {f : ε → δ} (hp : p.Within R) :
    (mapError f p).Within R := hp

section Preorder
variable [IsPreorder σ R]

theorem within_pure (a : α) : (pure a : Prog σ ε α).Within R :=
  fun s => throughout_pure.mpr (refl_of R s)

theorem within_inspect (f : σ → α) : (inspect f : Prog σ ε α).Within R :=
  fun s => throughout_inspect.mpr (refl_of R s)

theorem within_lift (x : Except ε α) : (liftM x : Prog σ ε α).Within R :=
  fun s => throughout_lift.mpr (refl_of R s)

theorem within_write {f : σ → σ} (h : ∀ s, R s (f s)) : (write f : Prog σ ε Unit).Within R :=
  fun s => throughout_write.mpr ⟨refl_of R s, h s⟩

variable {f : α → Prog σ ε β}

theorem within_bind {p : Prog σ ε α} (hp : p.Within R) (hf : ∀ a, (f a).Within R) :
    (p >>= f).Within R := by
  intro s
  refine throughout_bind (hp s) fun a mid _ hmid => ?_
  intro s' hs'
  exact trans_of R hmid (hf a mid s' hs')

theorem within_inspect_bind {g : σ → α} (hf : ∀ a, (f a).Within R) :
    (inspect g >>= f).Within R := within_bind (within_inspect g) hf

theorem within_lift_bind {x : Except ε α} (hf : ∀ a, (f a).Within R) :
    ((liftM x : Prog σ ε α) >>= f).Within R := within_bind (within_lift x) hf

theorem within_lift_bind_ok {x : Except ε α} (hf : ∀ a, x = .ok a → (f a).Within R) :
    ((liftM x : Prog σ ε α) >>= f).Within R :=
  fun s => throughout_lift_bind (refl_of R s) fun a ha => hf a ha s

theorem within_transaction {t : Tx σ ε α} (ht : Tx.Within t R) : (transaction t).Within R :=
  fun s => throughout_transaction (refl_of R s) fun a s' h => ht s a s' h

end Preorder

/-- Wherever it is cut short, the program has done nothing, or all that it does. -/
def Atomic (p : Prog σ ε α) : Prop := ∀ s, p.Throughout s fun s' => s' = s ∨ ∃ a, p.Returns s a s'

theorem atomic_transaction (t : Tx σ ε α) : (transaction t).Atomic :=
  fun _ => throughout_transaction (.inl rfl) fun a _ h => .inr ⟨a, returns_transaction.mpr h⟩

theorem atomic_inspect_bind {f : σ → α} (hg : ∀ a, (g a).Atomic) :
    (inspect f >>= g).Atomic :=
  fun s => hg (f s) s

theorem atomic_lift_bind (hg : ∀ a, (g a).Atomic) :
    (liftM x >>= g : Prog σ ε β).Atomic := by
  intro s
  cases x with
  | error e =>
    intro s' hs'
    exact .inl (List.mem_singleton.mp hs')
  | ok a => exact hg a s

theorem atomic_bind_pure {f : α → β} (hp : p.Atomic) :
    (p >>= fun a => pure (f a)).Atomic := by
  intro s
  refine throughout_bind (fun mid hmid => ?_) fun a mid hreturns _ => ?_
  · rcases hp s mid hmid with rfl | ⟨a, hreturns⟩
    · exact .inl rfl
    · exact .inr ⟨f a, returns_bind.mpr ⟨a, mid, hreturns, ⟨rfl, rfl⟩⟩⟩
  · exact throughout_pure.mpr
      (.inr ⟨f a, returns_bind.mpr ⟨a, mid, hreturns, ⟨rfl, rfl⟩⟩⟩)

/-- An atomic program stays within what its runs from beginning to end stay within. -/
theorem Atomic.within [IsPreorder σ R] (hp : p.Atomic)
    (hreturns : ∀ s a s', p.Returns s a s' → R s s') : p.Within R := by
  intro s s' hs'
  rcases hp s s' hs' with rfl | ⟨a, hrun⟩
  · exact refl_of R s'
  · exact hreturns s a s' hrun

/-! ### Programs that write once -/

/-- The program makes one write at most. -/
def Once (p : Prog σ ε α) : Prop := ∀ s, p.cuts s = [s] ∨ p.cuts s = [s, p.final s]

theorem once_transaction (t : Tx σ ε α) : (transaction t).Once := by
  intro s
  unfold Prog.cuts Prog.final transaction
  cases t s with
  | error e => exact .inl rfl
  | ok r => exact .inr rfl

theorem once_lift_bind (hg : ∀ a, (g a).Once) :
    (liftM x >>= g : Prog σ ε β).Once := by
  intro s
  cases x with
  | error e => exact .inl rfl
  | ok a => exact hg a s

theorem once_bind_lift {f : α → Except ε β} (hp : p.Once) :
    (p >>= fun a => liftM (f a)).Once := by
  intro s
  have hcuts : (p >>= fun a => (liftM (f a) : Prog σ ε β)).cuts s = p.cuts s := by
    unfold Prog.cuts
    rw [bind_apply]
    cases (p s).2 with
    | error e => rfl
    | ok a => exact congrArg (s :: ·) (List.append_nil _)
  have hfinal : (p >>= fun a => (liftM (f a) : Prog σ ε β)).final s = p.final s := by
    have htail := (List.cons.inj hcuts).2
    unfold Prog.final
    rw [htail]
  rw [hcuts, hfinal]
  exact hp s

theorem Once.throughout (hp : p.Once) {s : σ} {I : σ → Prop} (hs : I s) (hfinal : I (p.final s)) :
    p.Throughout s I := by
  intro s' hs'
  rcases hp s with hcuts | hcuts
  · rw [hcuts] at hs'
    rw [List.mem_singleton.mp hs']
    exact hs
  · rw [hcuts] at hs'
    rcases List.mem_cons.mp hs' with rfl | hlast
    · exact hs
    · rw [List.mem_singleton.mp hlast]
      exact hfinal

end Prog

namespace Tx
variable {t : Tx σ ε α}

theorem Keeps.within {view : σ → τ} (h : Tx.Keeps t view) (hR : ∀ s s', view s' = view s → R s s') :
    Tx.Within t R :=
  fun s a s' hs' => hR s s' (h s a s' hs')

theorem within_get [IsPreorder σ R] : Tx.Within (get : Tx σ ε σ) R := by
  intro s a s' heq
  rw [← (Prod.mk.inj (Except.ok.inj heq)).2]
  exact refl_of R s

theorem within_pure [IsPreorder σ R] (a : α) : Tx.Within (pure a : Tx σ ε α) R := by
  intro s b s' heq
  rw [← (Prod.mk.inj (Except.ok.inj heq)).2]
  exact refl_of R s

theorem within_modify {f : σ → σ} (h : ∀ s, R s (f s)) :
    Tx.Within (modify f : Tx σ ε PUnit) R := by
  intro s a s' heq
  rw [← (Prod.mk.inj (Except.ok.inj heq)).2]
  exact h s

theorem within_bind [IsTrans σ R] {f : α → Tx σ ε β} (ht : Tx.Within t R)
    (hf : ∀ a, Tx.Within (f a) R) : Tx.Within (t >>= f) R := by
  intro s b s' h
  obtain ⟨a, mid, hfirst, hthen⟩ := Tx.bind_eq_ok.mp h
  exact trans_of R (ht s a mid hfirst) (hf a mid b s' hthen)

end Tx
end Durable
