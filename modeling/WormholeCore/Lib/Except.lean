/-
# `WormholeCore.Lib.Except` — reasoning about programs in the `Except` monad.

A program that can abort (a failed `assert`, a thrown exception) is modelled in `Except ε`. Two
kinds of facts about such programs recur:

* *inversion*: a `bind` that succeeded ran both halves successfully, and a `bind` that failed
  failed in one of them (`bind_eq_ok`, `bind_eq_error`);
* *loop rules* for `List.foldlM`: an invariant of one step is an invariant of the loop
  (`foldlM_inv`), and a loop can only fail with an error some step can produce from a state
  satisfying the invariant (`foldlM_ne_error`).

Nothing here names the program being verified.
-/
import Mathlib.Logic.Basic

namespace WormholeCore.Lib

namespace Except

variable {ε α β : Type}

@[simp] theorem bind_eq_ok {x : Except ε α} {f : α → Except ε β} {b : β} :
    (x >>= f) = .ok b ↔ ∃ a, x = .ok a ∧ f a = .ok b := by
  cases x with
  | error e => simp [bind, Except.bind]
  | ok a => simp [bind, Except.bind]

@[simp] theorem bind_eq_error {x : Except ε α} {f : α → Except ε β} {e : ε} :
    (x >>= f) = .error e ↔ x = .error e ∨ ∃ a, x = .ok a ∧ f a = .error e := by
  cases x with
  | error e' => simp [bind, Except.bind]
  | ok a => simp [bind, Except.bind]

@[simp] theorem pure_eq_ok {a b : α} : (pure a : Except ε α) = .ok b ↔ a = b := by
  simp [pure, Except.pure]

@[simp] theorem pure_ne_error {a : α} {e : ε} : (pure a : Except ε α) ≠ .error e := by
  simp [pure, Except.pure]

@[simp] theorem ok_bind {a : α} {f : α → Except ε β} : (Except.ok a >>= f) = f a := rfl

@[simp] theorem map_eq_ok {x : Except ε α} {f : α → β} {b : β} :
    x.map f = .ok b ↔ ∃ a, x = .ok a ∧ f a = b := by
  cases x with
  | error e => simp [Except.map]
  | ok a => simp [Except.map]

@[simp] theorem throw_eq_error {a e : ε} : (throw a : Except ε α) = .error e ↔ a = e := by
  simp [throw, throwThe, MonadExceptOf.throw]

@[simp] theorem throw_ne_ok {a : ε} {b : α} : (throw a : Except ε α) ≠ .ok b := by
  simp [throw, throwThe, MonadExceptOf.throw]

/-- **The loop invariant rule**: a property kept by every successful step holds after a
successful loop. -/
theorem foldlM_inv (P : β → Prop) (f : β → α → Except ε β) :
    ∀ (l : List α), (∀ b, ∀ a ∈ l, ∀ b', P b → f b a = .ok b' → P b') →
      ∀ b b', P b → l.foldlM f b = .ok b' → P b'
  | [], _, b, b', hb, h => by
    simp only [List.foldlM_nil, pure_eq_ok] at h
    exact h ▸ hb
  | a :: l, hstep, b, b', hb, h => by
    rw [List.foldlM_cons, bind_eq_ok] at h
    obtain ⟨b₁, h₁, hrest⟩ := h
    exact foldlM_inv P f l (fun c a' ha' => hstep c a' (List.mem_cons_of_mem a ha')) b₁ b'
      (hstep b a List.mem_cons_self b₁ hb h₁) hrest

/-- **The loop error rule**: if no step run from a state satisfying `P` fails with `e`, and every
successful step keeps `P`, the loop does not fail with `e`. -/
theorem foldlM_ne_error (P : β → Prop) (f : β → α → Except ε β) (e : ε) :
    ∀ (l : List α), (∀ b, ∀ a ∈ l, P b → f b a ≠ .error e ∧ ∀ b', f b a = .ok b' → P b') →
      ∀ b, P b → l.foldlM f b ≠ .error e
  | [], _, b, _ => by simp
  | a :: l, hstep, b, hb => by
    rw [List.foldlM_cons]
    intro h
    rcases bind_eq_error.mp h with h | ⟨b₁, h₁, hrest⟩
    · exact (hstep b a List.mem_cons_self hb).1 h
    · exact foldlM_ne_error P f e l (fun c a' ha' => hstep c a' (List.mem_cons_of_mem a ha')) b₁
        ((hstep b a List.mem_cons_self hb).2 b₁ h₁) hrest

end Except

end WormholeCore.Lib
