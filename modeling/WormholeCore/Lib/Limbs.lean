/-
# `WormholeCore.Lib.Limbs` — numbers held in 32-bit limbs, least significant first.

A fixed-width unsigned integer kept as an array of `UInt32` limbs is read here as a function from
limb index to limb, and `valUpTo x n` is the number its first `n` limbs encode. The lemmas are
those limb-by-limb algorithms are proved with:

* `valUpTo_lt`, `valUpTo_mod` — `n` limbs encode a number below `2^(32 n)`, and a prefix of the
  limbs encodes the number modulo its weight;
* `testBit_valUpTo` — bit `t` is bit `t % 32` of limb `t / 32`: how shifts and one-bit writes are
  proved;
* `valUpTo_write` — writing one limb moves the number by the difference at that limb's weight:
  how carry loops are proved;
* `valUpTo_succ_lt_iff`, `valUpTo_inj` — numbers compare as their limbs do, from the top limb
  down, and are equal exactly when their limbs are;
* `valUpTo_not` — the limbwise complement encodes `2^(32 n) - 1` minus the number;
* `and_one_shiftLeft_ne_zero_iff`, `or_two_pow_of_testBit` — testing and setting one bit of a
  limb.

Nothing here names the program being verified.
-/
import Mathlib.Data.Nat.Bitwise
import Mathlib.Tactic.Ring

namespace WormholeCore.Lib

namespace Limbs

/-- The number the first `n` limbs of `x` encode. -/
def valUpTo (x : Nat → UInt32) : Nat → Nat
  | 0 => 0
  | n + 1 => valUpTo x n + (x n).toNat * 2 ^ (32 * n)

theorem pow_succ_limb (n : Nat) : 2 ^ (32 * (n + 1)) = 2 ^ 32 * 2 ^ (32 * n) := by
  rw [← Nat.pow_add]
  congr 1
  omega

theorem valUpTo_lt (x : Nat → UInt32) : ∀ n, valUpTo x n < 2 ^ (32 * n)
  | 0 => Nat.one_pos
  | n + 1 => by
    have ih := valUpTo_lt x n
    have hx : (x n).toNat + 1 ≤ 2 ^ 32 := (x n).toNat_lt
    calc valUpTo x (n + 1) = valUpTo x n + (x n).toNat * 2 ^ (32 * n) := rfl
      _ < ((x n).toNat + 1) * 2 ^ (32 * n) := by
        rw [Nat.add_mul, Nat.one_mul]
        generalize 2 ^ (32 * n) = P at *
        omega
      _ ≤ 2 ^ 32 * 2 ^ (32 * n) := Nat.mul_le_mul_right _ hx
      _ = 2 ^ (32 * (n + 1)) := (pow_succ_limb n).symm

theorem valUpTo_congr {x y : Nat → UInt32} {n : Nat} (h : ∀ i < n, x i = y i) :
    valUpTo x n = valUpTo y n := by
  induction n with
  | zero => rfl
  | succ n ih =>
    simp only [valUpTo]
    rw [ih fun i hi => h i (by omega), h n (by omega)]

/-- The first `m` limbs encode the number modulo their weight. -/
theorem valUpTo_mod (x : Nat → UInt32) {m n : Nat} (h : m ≤ n) :
    valUpTo x n % 2 ^ (32 * m) = valUpTo x m := by
  induction n with
  | zero =>
    obtain rfl : m = 0 := by omega
    rfl
  | succ n ih =>
    rcases Nat.lt_or_ge n m with hlt | hle
    · obtain rfl : m = n + 1 := by omega
      exact Nat.mod_eq_of_lt (valUpTo_lt x _)
    · -- the top limb is a multiple of the weight
      obtain ⟨k, hk⟩ : 2 ^ (32 * m) ∣ 2 ^ (32 * n) := Nat.pow_dvd_pow 2 (by omega)
      rw [valUpTo, hk, show (x n).toNat * (2 ^ (32 * m) * k) = 2 ^ (32 * m) * ((x n).toNat * k) by
        ring, Nat.add_mul_mod_self_left, ih hle]

/-- **Bit `t` of the number is bit `t % 32` of limb `t / 32`.** -/
theorem testBit_valUpTo (x : Nat → UInt32) (n t : Nat) :
    (valUpTo x n).testBit t = (decide (t < 32 * n) && (x (t / 32)).toNat.testBit (t % 32)) := by
  induction n with
  | zero => simp [valUpTo]
  | succ n ih =>
    rw [valUpTo, Nat.add_comm, Nat.mul_comm, Nat.testBit_two_pow_mul_add _ (valUpTo_lt x n)]
    split
    · rename_i ht
      rw [ih, decide_eq_true ht, decide_eq_true (show t < 32 * (n + 1) by omega)]
    · rename_i ht
      by_cases ht' : t < 32 * (n + 1)
      · have hq : t / 32 = n := by omega
        rw [decide_eq_true ht', hq, show t - 32 * n = t % 32 by omega, Bool.true_and]
      · -- no limb has a bit that high
        have hbit : (x n).toNat.testBit (t - 32 * n) = false :=
          Nat.testBit_lt_two_pow (lt_of_lt_of_le (x n).toNat_lt
            (Nat.pow_le_pow_right (by decide) (by omega)))
        rw [hbit, decide_eq_false ht', Bool.false_and]

/-- **Writing one limb**: `y` is `x` with limb `i < n` replaced. -/
theorem valUpTo_write {x y : Nat → UInt32} {n i : Nat} (hi : i < n)
    (hy : ∀ j, j ≠ i → y j = x j) :
    valUpTo y n + (x i).toNat * 2 ^ (32 * i) = valUpTo x n + (y i).toNat * 2 ^ (32 * i) := by
  induction n with
  | zero => omega
  | succ n ih =>
    simp only [valUpTo]
    by_cases hin : i = n
    · subst hin
      rw [valUpTo_congr fun j hj => hy j (by omega)]
      ring
    · have hrest := ih (by omega)
      rw [hy n (Ne.symm hin)]
      omega

/-- **Numbers compare as their limbs do**, from the top limb down. -/
theorem valUpTo_succ_lt_iff (x y : Nat → UInt32) (n : Nat) :
    valUpTo x (n + 1) < valUpTo y (n + 1) ↔
      (x n).toNat < (y n).toNat ∨ ((x n).toNat = (y n).toNat ∧ valUpTo x n < valUpTo y n) := by
  have hx := valUpTo_lt x n
  have hy := valUpTo_lt y n
  simp only [valUpTo]
  constructor
  · intro hlt
    rcases Nat.lt_trichotomy (x n).toNat (y n).toNat with h | h | h
    · exact .inl h
    · rw [h] at hlt
      exact .inr ⟨h, by omega⟩
    · -- a higher top limb outweighs everything below it
      have : ((y n).toNat + 1) * 2 ^ (32 * n) ≤ (x n).toNat * 2 ^ (32 * n) :=
        Nat.mul_le_mul_right _ h
      rw [Nat.succ_mul] at this
      omega
  · rintro (h | ⟨h, hlt⟩)
    · have : ((x n).toNat + 1) * 2 ^ (32 * n) ≤ (y n).toNat * 2 ^ (32 * n) :=
        Nat.mul_le_mul_right _ h
      rw [Nat.succ_mul] at this
      omega
    · rw [h]
      omega

/-- **Numbers are equal exactly when their limbs are.** -/
theorem valUpTo_inj {x y : Nat → UInt32} {n : Nat} :
    valUpTo x n = valUpTo y n ↔ ∀ i < n, x i = y i := by
  induction n with
  | zero => simp [valUpTo]
  | succ n ih =>
    refine ⟨fun h => ?_, valUpTo_congr⟩
    -- below the top limb's weight the numbers agree, and so do their top limbs
    have hlow : valUpTo x n = valUpTo y n := by
      rw [← valUpTo_mod x (Nat.le_succ n), h, valUpTo_mod y (Nat.le_succ n)]
    have htop : (x n).toNat = (y n).toNat := by
      have hpos : 0 < 2 ^ (32 * n) := Nat.two_pow_pos _
      have hdiv := congrArg (· / 2 ^ (32 * n)) h
      simp only [valUpTo] at hdiv
      rwa [Nat.add_mul_div_right _ _ hpos, Nat.add_mul_div_right _ _ hpos,
        Nat.div_eq_of_lt (valUpTo_lt x n), Nat.div_eq_of_lt (valUpTo_lt y n), Nat.zero_add,
        Nat.zero_add] at hdiv
    intro i hi
    rcases Nat.lt_or_ge i n with hin | hin
    · exact ih.1 hlow i hin
    · obtain rfl : i = n := by omega
      exact UInt32.toNat_inj.1 htop

/-- The limbs of `n`, least significant first. -/
def digits (n : Nat) (i : Nat) : UInt32 := (n / 2 ^ (32 * i)).toUInt32

/-- **The limbwise complement** encodes `2^(32 n) - 1` minus the number. -/
theorem valUpTo_not (x : Nat → UInt32) (n : Nat) :
    valUpTo (fun i => ~~~x i) n + valUpTo x n = 2 ^ (32 * n) - 1 := by
  induction n with
  | zero => rfl
  | succ n ih =>
    simp only [valUpTo]
    have hlimb : (~~~x n).toNat + (x n).toNat = 2 ^ 32 - 1 := by
      rw [UInt32.toNat_not, show UInt32.size = 2 ^ 32 from rfl]
      have := (x n).toNat_lt
      omega
    have hsum : (~~~x n).toNat * 2 ^ (32 * n) + (x n).toNat * 2 ^ (32 * n) =
        2 ^ 32 * 2 ^ (32 * n) - 2 ^ (32 * n) := by
      rw [← Nat.add_mul, hlimb, Nat.sub_mul, Nat.one_mul]
    have hpos : 1 ≤ 2 ^ (32 * n) := Nat.one_le_two_pow
    rw [pow_succ_limb]
    generalize 2 ^ (32 * n) = P at *
    omega

/-- Setting a clear bit adds its weight. -/
theorem or_two_pow_of_testBit {a u : Nat} (h : a.testBit u = false) :
    a ||| 2 ^ u = a + 2 ^ u := by
  -- split `a` at bit `u + 1`; the low part has no bit `u`, so it is below `2^u`
  have hL : a % 2 ^ (u + 1) < 2 ^ (u + 1) := Nat.mod_lt _ (Nat.two_pow_pos _)
  have hsplit : a = 2 ^ (u + 1) * (a / 2 ^ (u + 1)) + a % 2 ^ (u + 1) := (Nat.div_add_mod _ _).symm
  have hlow : a % 2 ^ (u + 1) < 2 ^ u := by
    apply Nat.lt_pow_two_of_testBit
    intro i hi
    rcases Nat.lt_or_ge i (u + 1) with hiu | hiu
    · obtain rfl : i = u := by omega
      rw [Nat.testBit_mod_two_pow, decide_eq_true hiu, Bool.true_and, h]
    · exact Nat.testBit_lt_two_pow (lt_of_lt_of_le hL (Nat.pow_le_pow_right (by decide) hiu))
  have hsum : a % 2 ^ (u + 1) + 2 ^ u < 2 ^ (u + 1) := by
    have := Nat.pow_succ 2 u
    omega
  calc a ||| 2 ^ u
      = (2 ^ (u + 1) * (a / 2 ^ (u + 1)) ||| a % 2 ^ (u + 1)) ||| 2 ^ u := by
        rw [← Nat.two_pow_add_eq_or_of_lt hL, ← hsplit]
    _ = 2 ^ (u + 1) * (a / 2 ^ (u + 1)) ||| (a % 2 ^ (u + 1) + 2 ^ u) := by
        rw [Nat.or_assoc, Nat.or_two_pow_eq_add_of_lt hlow]
    _ = a + 2 ^ u := by
        rw [← Nat.two_pow_add_eq_or_of_lt hsum]
        omega

/-- **Testing one bit of a limb**, `c & 1U << j`. -/
theorem and_one_shiftLeft_ne_zero_iff (c : UInt32) {j : Nat} (hj : j < 32) :
    c &&& (1 <<< j.toUInt32) ≠ 0 ↔ c.toNat.testBit j = true := by
  have hmask : (1 <<< j.toUInt32 : UInt32).toNat = 2 ^ j := by
    rw [UInt32.toNat_shiftLeft, UInt32.toNat_one, Nat.one_shiftLeft]
    have hj' : j.toUInt32.toNat = j := by simpa using Nat.mod_eq_of_lt (by omega : j < 2 ^ 32)
    rw [hj', Nat.mod_eq_of_lt hj, Nat.mod_eq_of_lt (Nat.pow_lt_pow_right (by decide) hj)]
  rw [Ne, ← UInt32.toNat_inj, UInt32.toNat_and, hmask, Nat.and_two_pow, UInt32.toNat_zero]
  cases c.toNat.testBit j <;> simp

end Limbs

end WormholeCore.Lib
