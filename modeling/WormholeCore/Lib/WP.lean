/-
# `WormholeCore.Lib.WP` — what every outcome of an `Except` program satisfies.

`WP x Q E` says that the program `x` ends well with a value satisfying `Q`, or fails with an error
satisfying `E`. It is the weakest precondition of `x` for the postcondition `(Q, E)`, and a proof
about a `do` block walks the block with one rule per construct:

* `WP.pure`, `WP.throw` — the ways a block ends;
* `WP.bind` — a step, then the rest from every value the step may return;
* `WP.ite` — a branch; `WP.ite_pure`, `WP.ite_guard_pure`, `WP.ite_ite_pure` — guards whose
  early returns are known to satisfy it; `WP.throw_bind` — a failure with a rest;
  `WP.of_eq_ok` — a step known to return a value;
* `WP.foldlM` — a loop, by an invariant every step keeps; `WP.trivial` — a step nothing is
  asked of;
* `WP.mono` — weakening both parts; `WP.and` — two postconditions together; `WP.eq` — the
  outcome itself;
* `WP.ok` — reading a value back; `WP.exists_ok` — a program that cannot fail returns a value.

`E = fun _ => False` states that the program cannot fail. Nothing here names the program being
verified.
-/
import WormholeCore.Lib.Except

namespace WormholeCore.Lib

namespace Except

variable {ε α β : Type}

/-- **Every outcome of `x` satisfies `(Q, E)`**: a value `Q`, an error `E`. -/
def WP (x : Except ε α) (Q : α → Prop) (E : ε → Prop) : Prop :=
  match x with
  | .ok a => Q a
  | .error e => E e

variable {Q Q' : α → Prop} {E E' : ε → Prop}

theorem WP.pure {a : α} (h : Q a) : WP (Pure.pure a : Except ε α) Q E := h

theorem WP.throw {e : ε} (h : E e) : WP (MonadExcept.throw e : Except ε α) Q E := h

theorem WP.of_eq_ok {x : Except ε α} {a : α} (hx : x = .ok a) (h : Q a) : WP x Q E := by
  subst hx
  exact h

/-- **The rule of a step**: what the step guarantees of its value is what the rest may assume. -/
theorem WP.bind {x : Except ε α} {f : α → Except ε β} {P : α → Prop} {Q : β → Prop}
    (hx : WP x P E) (hf : ∀ a, P a → WP (f a) Q E) : WP (x >>= f) Q E := by
  cases x with
  | ok a => exact hf a hx
  | error e => exact hx

theorem WP.ite {c : Prop} [Decidable c] {x y : Except ε α} (hx : c → WP x Q E)
    (hy : ¬c → WP y Q E) : WP (if c then x else y) Q E := by
  split
  · exact hx ‹_›
  · exact hy ‹_›

/-- A guard whose early return satisfies the postcondition. -/
theorem WP.ite_pure {c : Prop} [Decidable c] {a : α} {rest : Except ε α} (ha : Q a)
    (hrest : ¬c → WP rest Q E) : WP (if c then Pure.pure a else rest) Q E :=
  WP.ite (fun _ => WP.pure ha) hrest

/-- A guard that only applies on one side of a condition (an activation height). -/
theorem WP.ite_guard_pure {c d : Prop} [Decidable c] [Decidable d] {a : α} {rest : Except ε α}
    (ha : Q a) (hrest : WP rest Q E) :
    WP (if c then (if d then Pure.pure a else rest) else rest) Q E :=
  WP.ite (fun _ => WP.ite_pure ha fun _ => hrest) fun _ => hrest

/-- A guard that checks one of two conditions, by a third, each with an early return. -/
theorem WP.ite_ite_pure {c d d' : Prop} [Decidable c] [Decidable d] [Decidable d'] {a a' : α}
    {rest : Except ε α} (ha : Q a) (ha' : Q a') (hrest : WP rest Q E) :
    WP (if c then (if d then Pure.pure a else rest) else (if d' then Pure.pure a' else rest)) Q E :=
  WP.ite (fun _ => WP.ite_pure ha fun _ => hrest) fun _ => WP.ite_pure ha' fun _ => hrest

/-- A failure, whatever was to follow it. -/
theorem WP.throw_bind {e : ε} {f : α → Except ε β} {Q : β → Prop} (h : E e) :
    WP (MonadExcept.throw e >>= f) Q E := h

/-- Nothing is asked of the outcome. -/
theorem WP.trivial (x : Except ε α) : WP x (fun _ => True) (fun _ => True) := by
  cases x <;> exact True.intro

/-- **The loop rule**: an invariant of the accumulator that every step keeps, from every
accumulator that satisfies it, holds of what the loop returns. -/
theorem WP.foldlM {P : β → Prop} (f : β → α → Except ε β) :
    ∀ (l : List α) (b : β), P b → (∀ b', P b' → ∀ a ∈ l, WP (f b' a) P E) →
      WP (l.foldlM f b) P E
  | [], b, hb, _ => WP.pure hb
  | a :: l, b, hb, hstep => by
    rw [List.foldlM_cons]
    exact WP.bind (hstep b hb a List.mem_cons_self) fun b₁ hb₁ =>
      WP.foldlM f l b₁ hb₁ fun b' hb' a' ha' => hstep b' hb' a' (List.mem_cons_of_mem a ha')

theorem WP.mono {x : Except ε α} (h : WP x Q E) (hQ : ∀ a, Q a → Q' a) (hE : ∀ e, E e → E' e) :
    WP x Q' E' := by
  cases x with
  | ok a => exact hQ a h
  | error e => exact hE e h

/-- Two postconditions of one program hold together. -/
theorem WP.and {x : Except ε α} (h : WP x Q E) (h' : WP x Q' E) : WP x (fun a => Q a ∧ Q' a) E := by
  cases x with
  | ok a => exact ⟨h, h'⟩
  | error e => exact h

/-- Every program satisfies "what it returned". -/
theorem WP.eq (x : Except ε α) : WP x (fun a => x = .ok a) (fun e => x = .error e) := by
  cases x <;> rfl

theorem WP.ok {x : Except ε α} {a : α} (h : WP x Q E) (hx : x = .ok a) : Q a := by
  subst hx
  exact h

/-- **A program that cannot fail ends well**, with a value satisfying the postcondition. -/
theorem WP.exists_ok {x : Except ε α} (h : WP x Q fun _ => False) : ∃ a, x = .ok a ∧ Q a := by
  cases x with
  | ok a => exact ⟨a, rfl, h⟩
  | error e => exact h.elim

end Except

end WormholeCore.Lib
