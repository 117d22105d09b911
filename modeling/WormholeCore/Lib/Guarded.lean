/-
# `WormholeCore.Lib.Guarded` — runs in `Except` that keep a relation and avoid one error.

A safety property of a program that may abort is often two facts at once: every successful run
ends in a state related to the one it started from (no balance went down, an invariant was kept),
and no run aborts with one particular error (an assertion that must never fail). `Guarded R bad st
s x` states both for the run `x` started in `s`; `st` reads the state off a result.

The rules follow the shape of a `do` block, so that a proof about a program walks the program:

* `Guarded.pure`, `Guarded.throw`, `Guarded.throw_bind` — the ways a block ends;
* `Guarded.ite_pure`, `Guarded.ite_pure_of_rel`, `Guarded.ite_guard_pure`, `Guarded.ite_ite_pure` —
  guards with early returns;
* `Guarded.bind` — a step, then the rest from the state the step left; `Guarded.bind_of` — the rest
  judged from the start;
* `Guarded.foldlM` — a loop whose every step, from a state related to the start, is guarded;
* `Guarded.of_rel`, `Guarded.mono` — moving the start along `R`, weakening `R`.

A computation that changes no state is guarded as soon as `bad` is not among the errors it can fail
with (`ErrorsIn`, with the same rules, and `Guarded.bind_const`).

For a preorder `R` the relation composes along the walk. Nothing here names the program being
verified.
-/
import WormholeCore.Lib.Except
import Mathlib.Order.Defs.Unbundled

namespace WormholeCore.Lib

namespace Except

variable {ε α β σ : Type} {R : σ → σ → Prop} {bad : ε}

/-- **The run `x` from `s` keeps `R` and never fails with `bad`**: a success ends in a state
`R`-related to `s`, a failure has another error. -/
def Guarded (R : σ → σ → Prop) (bad : ε) (st : α → σ) (s : σ) : Except ε α → Prop
  | .ok a => R s (st a)
  | .error e => e ≠ bad

theorem Guarded.rel_of_ok {st : α → σ} {s : σ} {x : Except ε α} {a : α}
    (h : Guarded R bad st s x) (hx : x = .ok a) : R s (st a) := by
  subst hx
  exact h

theorem Guarded.ne_error {st : α → σ} {s : σ} {x : Except ε α} (h : Guarded R bad st s x) :
    x ≠ .error bad := by
  rintro rfl
  exact h rfl

/-- The two halves, proved apart. -/
theorem Guarded.of_ok_of_ne {st : α → σ} {s : σ} {x : Except ε α}
    (hok : ∀ a, x = .ok a → R s (st a)) (hne : x ≠ .error bad) : Guarded R bad st s x := by
  cases x with
  | ok a => exact hok a rfl
  | error e =>
    rintro rfl
    exact hne rfl

theorem Guarded.pure {st : α → σ} {s : σ} {a : α} (h : R s (st a)) :
    Guarded R bad st s (Pure.pure a) := h

theorem Guarded.throw {st : α → σ} {s : σ} {e : ε} (h : e ≠ bad) :
    Guarded R bad st s (MonadExcept.throw e) := h

/-- A failure, whatever was to follow it. -/
theorem Guarded.throw_bind {st : β → σ} {s : σ} {e : ε} {f : α → Except ε β} (h : e ≠ bad) :
    Guarded R bad st s (MonadExcept.throw e >>= f) := h

/-- A guard whose early return gives back the state it was given. -/
theorem Guarded.ite_pure [Std.Refl R] {c : Prop} [Decidable c] {st : α → σ} {s : σ} {a : α}
    {rest : Except ε α} (ha : st a = s) (hrest : ¬c → Guarded R bad st s rest) :
    Guarded R bad st s (if c then Pure.pure a else rest) := by
  split
  · exact Guarded.pure (by rw [ha]; exact Std.Refl.refl s)
  · exact hrest ‹_›

/-- A guard whose early return gives back a state related to the one it was given. -/
theorem Guarded.ite_pure_of_rel {c : Prop} [Decidable c] {st : α → σ} {s : σ} {a : α}
    {rest : Except ε α} (ha : R s (st a)) (hrest : ¬c → Guarded R bad st s rest) :
    Guarded R bad st s (if c then Pure.pure a else rest) := by
  split
  · exact Guarded.pure ha
  · exact hrest ‹_›

/-- A guard that only applies on one side of a condition (an activation height). -/
theorem Guarded.ite_guard_pure [Std.Refl R] {c d : Prop} [Decidable c] [Decidable d]
    {st : α → σ} {s : σ} {a : α} {rest : Except ε α} (ha : st a = s)
    (hrest : Guarded R bad st s rest) :
    Guarded R bad st s (if c then (if d then Pure.pure a else rest) else rest) := by
  split
  · exact Guarded.ite_pure ha fun _ => hrest
  · exact hrest

/-- A guard that checks one of two conditions, by a third. -/
theorem Guarded.ite_ite_pure [Std.Refl R] {c d d' : Prop} [Decidable c] [Decidable d]
    [Decidable d'] {st : α → σ} {s : σ} {a a' : α} {rest : Except ε α} (ha : st a = s)
    (ha' : st a' = s) (hrest : Guarded R bad st s rest) :
    Guarded R bad st s (if c then (if d then Pure.pure a else rest) else
      (if d' then Pure.pure a' else rest)) := by
  split
  · exact Guarded.ite_pure ha fun _ => hrest
  · exact Guarded.ite_pure ha' fun _ => hrest

/-- Moving the start back along `R`. -/
theorem Guarded.of_rel [IsTrans σ R] {st : α → σ} {s t : σ} {x : Except ε α} (hst : R s t)
    (hx : Guarded R bad st t x) : Guarded R bad st s x := by
  cases x with
  | ok a => exact IsTrans.trans _ _ _ hst hx
  | error e => exact hx

theorem Guarded.mono {R' : σ → σ → Prop} (hR : ∀ s t, R s t → R' s t) {st : α → σ} {s : σ}
    {x : Except ε α} (hx : Guarded R bad st s x) : Guarded R' bad st s x := by
  cases x with
  | ok a => exact hR _ _ hx
  | error e => exact hx

/-- **A step, then the rest, judged from the start.** The step is known to keep `R₁`; the rest is
shown to keep `R` from the start itself, so no composition of the two relations is needed (a
step that changes what `R` reads, followed by one that does not). -/
theorem Guarded.bind_of {R₁ : σ → σ → Prop} {st₁ : α → σ} {st₂ : β → σ} {s : σ} {x : Except ε α}
    {f : α → Except ε β} (hx : Guarded R₁ bad st₁ s x)
    (hf : ∀ a, x = .ok a → R₁ s (st₁ a) → Guarded R bad st₂ s (f a)) :
    Guarded R bad st₂ s (x >>= f) := by
  cases x with
  | error e => exact hx
  | ok a => exact hf a rfl hx

/-- **A step, then the rest.** The rest is run from the state the step left, which is known to be
`R`-related to the start. -/
theorem Guarded.bind [IsTrans σ R] {st₁ : α → σ} {st₂ : β → σ} {s : σ} {x : Except ε α}
    {f : α → Except ε β} (hx : Guarded R bad st₁ s x)
    (hf : ∀ a, x = .ok a → R s (st₁ a) → Guarded R bad st₂ (st₁ a) (f a)) :
    Guarded R bad st₂ s (x >>= f) := by
  cases x with
  | error e => exact hx
  | ok a => exact Guarded.of_rel hx (hf a rfl hx)

/-- The sequence rule for a step that returns at once, with the state its value stands for. -/
theorem Guarded.pure_bind [IsTrans σ R] {st₂ : β → σ} (st₁ : α → σ) {s : σ} {a : α}
    {f : α → Except ε β} (h : R s (st₁ a))
    (hf : ∀ a', (Pure.pure a : Except ε α) = .ok a' → R s (st₁ a') → Guarded R bad st₂ (st₁ a') (f a')) :
    Guarded R bad st₂ s (Pure.pure a >>= f) :=
  Guarded.bind (Guarded.pure h) hf

/-- **The loop rule.** A loop is guarded when every step is, from any accumulator whose state is
`R`-related to the start. -/
theorem Guarded.foldlM [Std.Refl R] [IsTrans σ R] {st : β → σ} (f : β → α → Except ε β) :
    ∀ (l : List α) (b : β), (∀ b', R (st b) (st b') → ∀ a ∈ l, Guarded R bad st (st b') (f b' a)) →
      Guarded R bad st (st b) (l.foldlM f b)
  | [], b, _ => Guarded.pure (Std.Refl.refl (st b))
  | a :: l, b, hstep => by
    rw [List.foldlM_cons]
    refine Guarded.bind (hstep b (Std.Refl.refl _) a List.mem_cons_self) fun b₁ _ h₁ => ?_
    exact Guarded.foldlM f l b₁ fun b' h' a' ha' =>
      hstep b' (IsTrans.trans _ _ _ h₁ h') a' (List.mem_cons_of_mem a ha')

/-- The loop rule for the common accumulator that pairs the state with a counter. -/
theorem Guarded.foldlM_fst [Std.Refl R] [IsTrans σ R] {γ : Type} (f : σ × γ → α → Except ε (σ × γ))
    (l : List α) (s : σ) (n : γ)
    (hstep : ∀ b', R s b'.1 → ∀ a ∈ l, Guarded R bad Prod.fst b'.1 (f b' a)) :
    Guarded R bad Prod.fst s (l.foldlM f (s, n)) :=
  Guarded.foldlM f l (s, n) hstep

/-! ## The errors a run can fail with -/

/-- **Every error of `x` is in `L`.** -/
def ErrorsIn (L : List ε) (x : Except ε α) : Prop := ∀ e, x = .error e → e ∈ L

theorem ErrorsIn.pure {L : List ε} {a : α} : ErrorsIn L (Pure.pure a : Except ε α) :=
  fun _ h => absurd h pure_ne_error

theorem ErrorsIn.throw {L : List ε} {e : ε} (h : e ∈ L) :
    ErrorsIn L (MonadExcept.throw e : Except ε α) := by
  intro e' he'
  cases he'
  exact h

/-- A computation with a single error message. -/
theorem ErrorsIn.of_eq {L : List ε} {x : Except ε α} {m : ε} (hx : ∀ e, x = .error e → e = m)
    (hm : m ∈ L) : ErrorsIn L x :=
  fun e he => hx e he ▸ hm

theorem ErrorsIn.bind {L : List ε} {x : Except ε α} {f : α → Except ε β} (hx : ErrorsIn L x)
    (hf : ∀ a, ErrorsIn L (f a)) : ErrorsIn L (x >>= f) := by
  intro e he
  rcases bind_eq_error.mp he with he | ⟨a, -, he⟩
  · exact hx e he
  · exact hf a e he

theorem ErrorsIn.mono {L L' : List ε} {x : Except ε α} (hx : ErrorsIn L x) (h : L ⊆ L') :
    ErrorsIn L' x :=
  fun e he => h (hx e he)

theorem ErrorsIn.ne_error {L : List ε} {x : Except ε α} {m : ε} (hx : ErrorsIn L x) (hm : m ∉ L) :
    x ≠ .error m :=
  fun he => hm (hx m he)

/-- A loop whose every step fails only with errors of `L`. -/
theorem ErrorsIn.foldlM {L : List ε} (f : β → α → Except ε β) (hf : ∀ b a, ErrorsIn L (f b a)) :
    ∀ (l : List α) (b : β), ErrorsIn L (l.foldlM f b)
  | [], _ => ErrorsIn.pure
  | a :: l, b => by
    rw [List.foldlM_cons]
    exact ErrorsIn.bind (hf b a) fun b' => ErrorsIn.foldlM f hf l b'

/-- A computation that reads the state and cannot fail with `bad`, then the rest. -/
theorem Guarded.bind_const {L : List ε} {st : β → σ} {s : σ} {x : Except ε α}
    {f : α → Except ε β} (hx : ErrorsIn L x) (hbad : bad ∉ L)
    (hf : ∀ a, x = .ok a → Guarded R bad st s (f a)) : Guarded R bad st s (x >>= f) := by
  cases x with
  | error e =>
    rintro rfl
    exact hbad (hx _ rfl)
  | ok a => exact hf a rfl

end Except

end WormholeCore.Lib
