/-
# `WormholeCore.Lib.ProRata` — handing out an amount in rounded-up proportional shares.

An amount `a` is split between weights that add up to `T`: the weight `w` is owed its share
rounded up, `(w * a) ⌈/⌉ T`. Rounding up owes too much in total, so a program that must hand out
exactly `a` walks the weights, caps each share by what is left, and stops at the first share that
would hand out nothing. The walk is exact because of two facts, proved here apart:

* `le_sum_ceilDiv` — the rounded-up shares add up to at least `a`;
* `capWalk_eq_min` — the capped walk hands out `min a (sent + Σ shares)` when every share is
  positive; with the first fact, exactly `a`.

Each share is the exact rational value rounded up (`ceilDiv_eq_ceil`), so less than one unit
above it.

Nothing here names the program being verified.
-/
import Mathlib.Algebra.Order.Floor.Div
import Mathlib.Algebra.Order.Floor.Ring
import Mathlib.Algebra.Order.BigOperators.Group.List
import Mathlib.Algebra.BigOperators.Ring.List

namespace WormholeCore.Lib

namespace ProRata

/-! ## Rounded-up shares -/

/-- A rounded-up share is less than one divisor above what it rounds. -/
theorem ceilDiv_mul_lt_add (x : ℕ) {T : ℕ} (hT : 0 < T) : x ⌈/⌉ T * T < x + T := by
  have hfloor := Nat.div_mul_le_self (x + T - 1) T
  rw [Nat.ceilDiv_eq_add_pred_div]
  omega

/-- **The share is the exact quotient rounded up.** -/
theorem ceilDiv_eq_ceil {K : Type} [Field K] [LinearOrder K] [IsStrictOrderedRing K] [FloorRing K]
    (x : ℕ) {T : ℕ} (hT : 0 < T) : ((x ⌈/⌉ T : ℕ) : ℤ) = ⌈(x : K) / T⌉ := by
  have hT' : (0 : K) < T := by exact_mod_cast hT
  -- `x ≤ T * c` and `c * T < x + T`, read in `K`
  have hle : (x : K) ≤ T * (x ⌈/⌉ T : ℕ) := by
    exact_mod_cast (ceilDiv_le_iff_le_mul hT).1 le_rfl
  have hlt : ((x ⌈/⌉ T : ℕ) : K) * T < x + T := by
    exact_mod_cast ceilDiv_mul_lt_add x hT
  refine (Int.ceil_eq_iff.2 ⟨?_, ?_⟩).symm
  · rw [Int.cast_natCast, lt_div_iff₀ hT']
    linarith
  · rw [Int.cast_natCast, div_le_iff₀ hT']
    linarith

/-- **Rounding up owes at least the whole amount.** When the weights add up to `T > 0`, the
rounded-up shares add up to at least `a`. -/
theorem le_sum_ceilDiv {ι : Type} (w : ι → ℕ) (l : List ι) (a : ℕ) {T : ℕ} (hT : 0 < T)
    (hsum : (l.map w).sum = T) : a ≤ (l.map fun i => (w i * a) ⌈/⌉ T).sum := by
  -- each share, times `T`, covers its weight's part of `T * a`
  have hshare : ∀ i ∈ l, w i * a ≤ T * ((w i * a) ⌈/⌉ T) :=
    fun _ _ => (ceilDiv_le_iff_le_mul hT).1 le_rfl
  have hcover : T * a ≤ T * (l.map fun i => (w i * a) ⌈/⌉ T).sum :=
    calc T * a = (l.map fun i => w i * a).sum := by rw [List.sum_map_mul_right, hsum]
      _ ≤ (l.map fun i => T * ((w i * a) ⌈/⌉ T)).sum := List.sum_le_sum hshare
      _ = T * (l.map fun i => (w i * a) ⌈/⌉ T).sum := List.sum_map_mul_left _ _ _
  exact Nat.le_of_mul_le_mul_left hcover hT

/-! ## The capped walk -/

/-- The capped walk: `sent` is what was handed out so far; each share is capped by `a - sent`,
and the walk stops at the first capped share that is not positive. The result is what was handed
out in the end. -/
def capWalk (a : ℤ) : List ℤ → ℤ → ℤ
  | [], sent => sent
  | s :: rest, sent =>
    if 0 < min (a - sent) s then capWalk a rest (sent + min (a - sent) s) else sent

/-- **The capped walk hands out `min a (sent + Σ shares)`** when every share is positive and the
walk starts at most at `a`. -/
theorem capWalk_eq_min (a : ℤ) :
    ∀ (shares : List ℤ) (sent : ℤ), (∀ s ∈ shares, 0 < s) → sent ≤ a →
      capWalk a shares sent = min a (sent + shares.sum)
  | [], sent, _, hle => by simp [capWalk, hle]
  | s :: rest, sent, hpos, hle => by
    have hs : 0 < s := hpos s List.mem_cons_self
    have hrest : ∀ x ∈ rest, 0 < x := fun x hx => hpos x (List.mem_cons_of_mem s hx)
    have hsum : 0 ≤ rest.sum := List.sum_nonneg fun x hx => le_of_lt (hrest x hx)
    rw [capWalk, List.sum_cons]
    by_cases hw : 0 < min (a - sent) s
    · -- the walk goes on from `sent` plus the capped share, which is still at most `a`
      rw [if_pos hw, capWalk_eq_min a rest _ hrest (by omega)]
      omega
    · -- nothing is left: `sent = a`
      rw [if_neg hw]
      omega

end ProRata

end WormholeCore.Lib
