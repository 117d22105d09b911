/-
# `WormholeCore.Lib.Loop` — a `while` loop run by fuel.

`while (!done(s)) s = step(s);`, where a turn may fail (a failed `assert`), is run here for at most
`fuel` turns: `run step done fuel s` is `none` while the loop is still going. The rules:

* `run_of_trap` — a set of states that are never done and that every turn stays in is a trap:
  from it the loop runs forever. A turn that returns its own state is the smallest trap.
  `run_ne_ok_of_trap`: when a turn may also fail, the loop never ENDS WELL;
* `run_of_variant` — a measure that every turn lowers makes the loop end within that many turns;
* `run_inv` — what every turn keeps holds when the loop ends.

A counted loop `for (int i = 0; i < n; i++)` always ends; `forUpTo` runs its turns in order and
`forUpTo_inv` carries an invariant indexed by the turns done.

Nothing here names the program being verified.
-/
import Mathlib.Order.Basic

namespace WormholeCore.Lib

namespace Loop

variable {σ ε : Type} (step : σ → Except ε σ) (done : σ → Bool)

/-- The loop run for at most `fuel` turns: `none` while it is still going. -/
def run : Nat → σ → Option (Except ε σ)
  | 0, _ => none
  | fuel + 1, s =>
    if done s then some (.ok s)
    else match step s with
      | .error e => some (.error e)
      | .ok s' => run fuel s'

variable {step done}

theorem run_succ_of_done {s : σ} (h : done s = true) (fuel : Nat) :
    run step done (fuel + 1) s = some (.ok s) := by
  rw [run, if_pos h]

theorem run_succ_of_ok {s s' : σ} (h : done s = false) (hs : step s = .ok s') (fuel : Nat) :
    run step done (fuel + 1) s = run step done fuel s' := by
  rw [run, if_neg (by rw [h]; exact Bool.false_ne_true), hs]

theorem run_succ_of_error {s : σ} {e : ε} (h : done s = false) (hs : step s = .error e)
    (fuel : Nat) : run step done (fuel + 1) s = some (.error e) := by
  rw [run, if_neg (by rw [h]; exact Bool.false_ne_true), hs]

/-! ## Running forever -/

/-- **A trap runs forever**: from a state of a set whose states are never done and whose turns
stay in it, no fuel finishes the loop. -/
theorem run_of_trap (S : σ → Prop)
    (htrap : ∀ s, S s → done s = false ∧ ∃ s', step s = .ok s' ∧ S s') :
    ∀ (fuel : Nat) (s : σ), S s → run step done fuel s = none := by
  intro fuel
  induction fuel with
  | zero => intro _ _; rfl
  | succ fuel ih =>
    intro s hs
    obtain ⟨hdone, s', hstep, hs'⟩ := htrap s hs
    rw [run_succ_of_ok hdone hstep]
    exact ih s' hs'

/-- **A trap whose turns may fail never ends well**: the loop runs forever or a turn fails. -/
theorem run_ne_ok_of_trap (S : σ → Prop)
    (htrap : ∀ s, S s → done s = false ∧ ∀ s', step s = .ok s' → S s') :
    ∀ (fuel : Nat) (s : σ), S s → ∀ s', run step done fuel s ≠ some (.ok s') := by
  intro fuel
  induction fuel with
  | zero => intro _ _ _ h; cases h
  | succ fuel ih =>
    intro s hs s'
    obtain ⟨hdone, hstay⟩ := htrap s hs
    cases hst : step s with
    | error e =>
      rw [run_succ_of_error hdone hst]
      simp
    | ok s₁ =>
      rw [run_succ_of_ok hdone hst]
      exact ih s₁ (hstay s₁ hst) s'

/-! ## Ending -/

/-- **A variant makes the loop end**: when every turn lowers `μ`, more than `μ s` turns of fuel
finish the loop. -/
theorem run_of_variant (μ : σ → Nat)
    (hμ : ∀ s s', done s = false → step s = .ok s' → μ s' < μ s) :
    ∀ (fuel : Nat) (s : σ), μ s < fuel → (run step done fuel s).isSome := by
  intro fuel
  induction fuel with
  | zero => intro _ h; exact absurd h (Nat.not_lt_zero _)
  | succ fuel ih =>
    intro s hlt
    cases hdone : done s
    · cases hs : step s with
      | error e => rw [run_succ_of_error hdone hs]; rfl
      | ok s' =>
        rw [run_succ_of_ok hdone hs]
        exact ih s' (by have := hμ s s' hdone hs; omega)
    · rw [run_succ_of_done hdone]; rfl

/-- **What every turn keeps holds at the end**, and the loop ends only where it is done. -/
theorem run_inv (P : σ → Prop) (hstep : ∀ s s', P s → done s = false → step s = .ok s' → P s') :
    ∀ (fuel : Nat) (s s' : σ), P s → run step done fuel s = some (.ok s') →
      P s' ∧ done s' = true := by
  intro fuel
  induction fuel with
  | zero => intro _ _ _ h; simp [run] at h
  | succ fuel ih =>
    intro s s' hs h
    cases hdone : done s
    · cases hst : step s with
      | error e => rw [run_succ_of_error hdone hst] at h; simp at h
      | ok s₁ =>
        rw [run_succ_of_ok hdone hst] at h
        exact ih s₁ s' (hstep s s₁ hs hdone hst) h
    · rw [run_succ_of_done hdone, Option.some.injEq, Except.ok.injEq] at h
      subst h
      exact ⟨hs, hdone⟩

/-! ## Counted loops -/

/-- `for (int i = 0; i < n; i++) s = body(i, s);`, the turns in order. -/
def forUpTo {α : Type} (body : Nat → α → α) : Nat → α → α
  | 0, s => s
  | n + 1, s => body n (forUpTo body n s)

/-- **What every turn keeps holds at the end**: an invariant indexed by the turns done. -/
theorem forUpTo_inv {α : Type} {body : Nat → α → α} (P : Nat → α → Prop) {n : Nat} {s : α}
    (h0 : P 0 s) (hstep : ∀ i t, i < n → P i t → P (i + 1) (body i t)) :
    P n (forUpTo body n s) := by
  suffices h : ∀ m ≤ n, P m (forUpTo body m s) from h n (Nat.le_refl n)
  intro m hm
  induction m with
  | zero => exact h0
  | succ m ih => exact hstep m _ (by omega) (ih (by omega))

end Loop

end WormholeCore.Lib
