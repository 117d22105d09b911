/-
# `WormholeCore.ArithUint256` — `base_uint<BITS>` limb by limb (arith_uint256.{h,cpp}).

`arith_uint256` keeps a number in `WIDTH = 8` limbs `pn` of 32 bits, least significant first, and
computes with loops over the limbs: `+=` with a `uint64_t` carry, `*=` by schoolbook rows truncated
at `WIDTH` limbs, `<<=` and `>>=` limb and bit at a time, `/=` by shift and subtract after aligning
the divisor with `bits()`. Each loop is written here as the source writes it, over `BaseUint w` for
any width, with `uint64_t` and `uint32_t` as `UInt64` and `UInt32`.

The rest of the model computes with `Lib.Word256`, numbers modulo `2^256`. This module proves that
the limb code computes exactly that: each operation has a value lemma (`val_add`, `val_mul`,
`val_shl`, `val_shr`, `compareTo_eq`, `bits_eq_size`, `val_div`), each loop by an invariant over
its turns (`Lib.Loop.forUpTo_inv`, and `DivInv` for the loop of `/=`) with the limb facts of
`Lib.Limbs`. `Modulo256` and
`DivideAndRoundUp` of uint256_extensions.h, over the limb code, then refine the `Word256` versions
the crowdsale and trading code uses (`modulo256_refines`, `divideAndRoundUp_refines`).
-/
import WormholeCore.Crowd
import WormholeCore.Lib.Limbs
import WormholeCore.Lib.Loop
import Mathlib.Data.Nat.Size
import Mathlib.Tactic.LinearCombination
import Mathlib.Tactic.Zify

namespace WormholeCore

open Lib

/-- `base_uint<BITS>`: `WIDTH = BITS / 32` limbs `pn` of 32 bits, least significant first. -/
structure BaseUint (w : Nat) where
  pn : Fin w → UInt32

/-- `arith_uint256`. -/
abbrev ArithUint256 := BaseUint 8

namespace BaseUint

variable {w : Nat}

/-! ## Limbs -/

/-- `pn[i]`; zero past the last limb, where the code never reads. -/
def get (x : BaseUint w) (i : Nat) : UInt32 := if h : i < w then x.pn ⟨i, h⟩ else 0

/-- `pn[i] = v`. -/
def set (x : BaseUint w) (i : Nat) (v : UInt32) : BaseUint w :=
  ⟨fun j => if j.val = i then v else x.pn j⟩

/-- The number `x` holds. -/
def val (x : BaseUint w) : Nat := Limbs.valUpTo x.get w

/-- `base_uint()`: every limb zero. -/
def zero : BaseUint w := ⟨fun _ => 0⟩

/-- `base_uint(uint64_t b)`: the low and the high half of `b` in the two lowest limbs. -/
def ofUInt64 (b : UInt64) : BaseUint w :=
  (zero.set 0 b.toUInt32).set 1 (b >>> 32).toUInt32

/-! ## The operators -/

/-- `operator~`. -/
def not (x : BaseUint w) : BaseUint w := ⟨fun i => ~~~x.pn i⟩

/-- One turn of `operator+=`: `n = carry + pn[i] + b.pn[i]`, the low half into `pn[i]`, the high
half carried. -/
def addTurn (b : BaseUint w) (i : Nat) (st : BaseUint w × UInt64) : BaseUint w × UInt64 :=
  let n : UInt64 := st.2 + (st.1.get i).toUInt64 + (b.get i).toUInt64
  (st.1.set i (n &&& 0xffffffff).toUInt32, n >>> 32)

/-- `operator+=`. -/
def add (x b : BaseUint w) : BaseUint w := (Loop.forUpTo (addTurn b) w (x, 0)).1

/-- Prefix `operator++` from limb `i`, with `n` limbs left:
`while (i < WIDTH && ++pn[i] == 0) i++;`. -/
def incFrom (x : BaseUint w) (i : Nat) : Nat → BaseUint w
  | 0 => x
  | n + 1 =>
    let x := x.set i (x.get i + 1)
    if x.get i = 0 then x.incFrom (i + 1) n else x

/-- Prefix `operator++`. -/
def inc (x : BaseUint w) : BaseUint w := x.incFrom 0 w

/-- Unary `operator-`: the complement, plus one. -/
def neg (b : BaseUint w) : BaseUint w := b.not.inc

/-- `operator-=`: `*this += -b`. -/
def sub (x b : BaseUint w) : BaseUint w := x.add b.neg

/-- One turn of the inner loop of `operator*=`, row `j`, column `i`:
`n = carry + a.pn[i + j] + pn[j] * b.pn[i]`. -/
def mulTurn (x b : BaseUint w) (j i : Nat) (st : BaseUint w × UInt64) : BaseUint w × UInt64 :=
  let n : UInt64 := st.2 + (st.1.get (i + j)).toUInt64 + (x.get j).toUInt64 * (b.get i).toUInt64
  (st.1.set (i + j) (n &&& 0xffffffff).toUInt32, n >>> 32)

/-- Row `j` of `operator*=`: `for (int i = 0; i + j < WIDTH; i++)`, from carry `0`. -/
def mulRow (x b : BaseUint w) (j : Nat) (a : BaseUint w) : BaseUint w :=
  (Loop.forUpTo (mulTurn x b j) (w - j) (a, 0)).1

/-- `operator*=`: the rows of the schoolbook product, each truncated at `WIDTH` limbs. -/
def mul (x b : BaseUint w) : BaseUint w := Loop.forUpTo (mulRow x b) w zero

/-- One turn of `operator<<=`: limb `i` of the copy `a` moves up `k` limbs and `shift` bits, its
high bits into limb `i + k + 1`. -/
def shlTurn (a : BaseUint w) (k shift : Nat) (i : Nat) (r : BaseUint w) : BaseUint w :=
  let r := if i + k + 1 < w ∧ shift ≠ 0 then
      r.set (i + k + 1) (r.get (i + k + 1) ||| (a.get i >>> (32 - shift).toUInt32))
    else r
  if i + k < w then r.set (i + k) (r.get (i + k) ||| (a.get i <<< shift.toUInt32)) else r

/-- `operator<<=`. -/
def shl (x : BaseUint w) (shift : Nat) : BaseUint w :=
  Loop.forUpTo (shlTurn x (shift / 32) (shift % 32)) w zero

/-- One turn of `operator>>=`: limb `i` of the copy `a` moves down `k` limbs and `shift` bits, its
low bits into limb `i - k - 1`. -/
def shrTurn (a : BaseUint w) (k shift : Nat) (i : Nat) (r : BaseUint w) : BaseUint w :=
  let r := if k + 1 ≤ i ∧ shift ≠ 0 then
      r.set (i - k - 1) (r.get (i - k - 1) ||| (a.get i <<< (32 - shift).toUInt32))
    else r
  if k ≤ i then r.set (i - k) (r.get (i - k) ||| (a.get i >>> shift.toUInt32)) else r

/-- `operator>>=`. -/
def shr (x : BaseUint w) (shift : Nat) : BaseUint w :=
  Loop.forUpTo (shrTurn x (shift / 32) (shift % 32)) w zero

/-- `CompareTo`'s walk down from limb `n - 1`. -/
def compareFrom (x b : BaseUint w) : Nat → Int
  | 0 => 0
  | n + 1 =>
    if x.get n < b.get n then -1
    else if x.get n > b.get n then 1
    else x.compareFrom b n

/-- `CompareTo`: `-1`, `0` or `1`. -/
def compareTo (x b : BaseUint w) : Int := x.compareFrom b w

/-- The inner loop of `bits()` over a non-zero limb `c`:
`for (int nbits = n; nbits > 0; nbits--) if (c & 1U << nbits) ...`, and `0` when it falls through. -/
def limbBits (c : UInt32) : Nat → Nat
  | 0 => 0
  | n + 1 => if c &&& (1 <<< (n + 1).toUInt32) ≠ 0 then n + 1 else limbBits c n

/-- The outer loop of `bits()` down from limb `pos - 1`. -/
def bitsFrom (x : BaseUint w) : Nat → Nat
  | 0 => 0
  | pos + 1 => if x.get pos ≠ 0 then 32 * pos + limbBits (x.get pos) 31 + 1 else x.bitsFrom pos

/-- `bits()`: the position of the highest bit set, plus one; zero for zero. -/
def bits (x : BaseUint w) : Nat := x.bitsFrom w

/-- `pn[shift / 32] |= (1 << (shift & 31))`. At `shift & 31 = 31` the `int` `1 << 31` is
`INT_MIN`, which `|=` converts to bit 31 of the limb. -/
def setBit (q : BaseUint w) (shift : Nat) : BaseUint w :=
  q.set (shift / 32) (q.get (shift / 32) ||| (1 <<< (shift.toUInt32 &&& 31)))

/-- One turn of `operator/=` at `shift`: subtract the aligned divisor if it fits, setting that bit
of the quotient, then shift the divisor back one bit. The state is `(num, div, quotient)`. -/
def divTurn (shift : Nat) (st : BaseUint w × BaseUint w × BaseUint w) :
    BaseUint w × BaseUint w × BaseUint w :=
  let (num, div, q) := st
  let (num, q) := if num.compareTo div ≥ 0 then (num.sub div, q.setBit shift) else (num, q)
  (num, div.shr 1, q)

/-- `while (shift >= 0) { ...; shift--; }`, from `shift` down to `0`. -/
def divLoop : Nat → BaseUint w × BaseUint w × BaseUint w → BaseUint w × BaseUint w × BaseUint w
  | 0, st => divTurn 0 st
  | s + 1, st => divLoop s (divTurn (s + 1) st)

/-- `operator/=`: align the divisor's top bit with the numerator's, then shift and subtract. -/
def div (x b : BaseUint w) : Except String (BaseUint w) :=
  let numBits := x.bits
  let divBits := b.bits
  if divBits = 0 then throw "Division by zero"
  -- the result is certainly 0
  else if divBits > numBits then pure zero
  else
    let shift := numBits - divBits
    pure (divLoop shift (x, b.shl shift, zero)).2.2

/-- `EqualTo(uint64_t b)`: the limbs from 2 up are zero, and limbs 1 and 0 are `b`'s halves. -/
def equalTo (x : BaseUint w) (b : UInt64) : Bool :=
  (List.range w).all (fun i => decide (i < 2) || x.get i = 0) &&
    (x.get 1).toUInt64 = b >>> 32 && (x.get 0).toUInt64 = b &&& 0xffffffff

/-! ## uint256_extensions.h over the limbs -/

/-- `Modulo256(a, n) = a - (n * (a / n))`. -/
def modulo256 (a n : ArithUint256) : Except String ArithUint256 := do
  let q ← a.div n
  pure (a.sub (n.mul q))

/-- `DivideAndRoundUp`: `0` for a zero numerator, else `one + (numerator - one) / denominator`. -/
def divideAndRoundUp (numerator denominator : ArithUint256) : Except String ArithUint256 :=
  if numerator.equalTo 0 then pure (ofUInt64 0)
  else do
    let q ← (numerator.sub (ofUInt64 1)).div denominator
    pure ((ofUInt64 1).add q)

/-! ## Reading and writing limbs -/

@[simp] theorem get_set (x : BaseUint w) (i j : Nat) (v : UInt32) :
    (x.set i v).get j = if i = j ∧ j < w then v else x.get j := by
  unfold get set
  by_cases hj : j < w
  · by_cases hij : i = j
    · simp [hj, hij]
    · simp [hj, hij, Ne.symm hij]
  · simp [hj]

@[simp] theorem get_zero (i : Nat) : (zero : BaseUint w).get i = 0 := by
  unfold get zero
  split <;> rfl

theorem val_lt (x : BaseUint w) : x.val < 2 ^ (32 * w) := Limbs.valUpTo_lt _ _

theorem valUpTo_zero (n : Nat) : Limbs.valUpTo (zero : BaseUint w).get n = 0 := by
  induction n with
  | zero => rfl
  | succ n ih => simp [Limbs.valUpTo, ih]

@[simp] theorem val_zero : (zero : BaseUint w).val = 0 := valUpTo_zero w

/-- **Writing limb `i`** moves the number by the new limb less the old, at the limb's weight. -/
theorem val_set (x : BaseUint w) {i : Nat} (hi : i < w) (v : UInt32) :
    (x.set i v).val + (x.get i).toNat * 2 ^ (32 * i) = x.val + v.toNat * 2 ^ (32 * i) := by
  have h := Limbs.valUpTo_write (x := x.get) (y := (x.set i v).get) hi
    fun j hj => by rw [get_set, if_neg fun h => hj h.1.symm]
  rwa [get_set, if_pos ⟨rfl, hi⟩] at h

/-- Bit `t` of the number is bit `t % 32` of limb `t / 32`. -/
theorem testBit_val (x : BaseUint w) (t : Nat) :
    x.val.testBit t = (decide (t < 32 * w) && (x.get (t / 32)).toNat.testBit (t % 32)) :=
  Limbs.testBit_valUpTo _ _ _

/-! ## Carries -/

/-- The low half of a `uint64_t` stored into a limb, `n & 0xffffffff`. -/
theorem toNat_low (n : UInt64) : (n &&& 0xffffffff).toUInt32.toNat = n.toNat % 2 ^ 32 := by
  rw [UInt64.toNat_toUInt32, UInt64.toNat_and, show (0xffffffff : UInt64).toNat = 2 ^ 32 - 1 from rfl,
    Nat.and_two_pow_sub_one_eq_mod, Nat.mod_mod]

/-- The carried high half, `n >> 32`. -/
theorem toNat_high (n : UInt64) : (n >>> 32).toNat = n.toNat / 2 ^ 32 := by
  rw [UInt64.toNat_shiftRight, show (32 : UInt64).toNat % 64 = 32 from rfl, Nat.shiftRight_eq_div_pow]

/-- **One carry turn**: the low half of `n` written into limb `k` and the high half carried to the
next limb's weight hold `n` at limb `k`'s weight, in place of the limb that was there. -/
theorem val_carryTurn (r : BaseUint w) {k : Nat} (hk : k < w) (n : UInt64) :
    (r.set k (n &&& 0xffffffff).toUInt32).val + (n >>> 32).toNat * 2 ^ (32 * (k + 1)) +
        (r.get k).toNat * 2 ^ (32 * k) = r.val + n.toNat * 2 ^ (32 * k) := by
  rw [toNat_high, Limbs.pow_succ_limb, Nat.add_right_comm, val_set r hk, toNat_low]
  conv_rhs => rw [← Nat.mod_add_div n.toNat (2 ^ 32)]
  ring

/-- The carry turns' sums fit in a `uint64_t`: a carry below `2^32` plus two limbs. -/
theorem toNat_carry_add (c : UInt64) (a b : UInt32) (hc : c.toNat < 2 ^ 32) :
    (c + a.toUInt64 + b.toUInt64).toNat = c.toNat + a.toNat + b.toNat := by
  have ha := a.toNat_lt
  have hb := b.toNat_lt
  rw [UInt64.toNat_add, UInt64.toNat_add, UInt32.toNat_toUInt64, UInt32.toNat_toUInt64,
    Nat.mod_eq_of_lt (by omega), Nat.mod_eq_of_lt (by omega)]

/-- The same with a product of two limbs: `(2^32 - 1)^2 + 2 (2^32 - 1) = 2^64 - 1`. -/
theorem toNat_carry_mul (c : UInt64) (a x b : UInt32) (hc : c.toNat < 2 ^ 32) :
    (c + a.toUInt64 + x.toUInt64 * b.toUInt64).toNat = c.toNat + a.toNat + x.toNat * b.toNat := by
  have ha := a.toNat_lt
  have hx := x.toNat_lt
  have hb := b.toNat_lt
  have hprod : x.toNat * b.toNat ≤ (2 ^ 32 - 1) * (2 ^ 32 - 1) :=
    Nat.mul_le_mul (by omega) (by omega)
  rw [UInt64.toNat_add, UInt64.toNat_add, UInt64.toNat_mul, UInt32.toNat_toUInt64,
    UInt32.toNat_toUInt64, UInt32.toNat_toUInt64, Nat.mod_eq_of_lt (by omega),
    Nat.mod_eq_of_lt (by omega), Nat.mod_eq_of_lt (by omega)]

/-- A carry computed from a sum below `2^64` is below `2^32`. -/
theorem toNat_high_lt (n : UInt64) : (n >>> 32).toNat < 2 ^ 32 := by
  rw [toNat_high]
  have := n.toNat_lt
  omega

/-! ## `operator+=` -/

/-- **The invariant of `operator+=`'s loop**: after `i` turns the sum so far, with its carry at
limb `i`'s weight, is `x` plus the first `i` limbs of `b`. -/
theorem addLoop_inv (x b : BaseUint w) {i : Nat} (hi : i ≤ w) :
    (Loop.forUpTo (addTurn b) i (x, 0)).1.val +
        (Loop.forUpTo (addTurn b) i (x, 0)).2.toNat * 2 ^ (32 * i) =
      x.val + Limbs.valUpTo b.get i ∧ (Loop.forUpTo (addTurn b) i (x, 0)).2.toNat < 2 ^ 32 := by
  refine Loop.forUpTo_inv (fun i (st : BaseUint w × UInt64) => st.1.val + st.2.toNat * 2 ^ (32 * i) =
      x.val + Limbs.valUpTo b.get i ∧ st.2.toNat < 2 ^ 32) (n := i) ⟨by simp [Limbs.valUpTo], by simp⟩ ?_
  rintro j ⟨r, c⟩ hj ⟨hsum, hc⟩
  dsimp only at hsum hc
  refine ⟨?_, toNat_high_lt _⟩
  have hturn := val_carryTurn r (k := j) (by omega) (c + (r.get j).toUInt64 + (b.get j).toUInt64)
  rw [toNat_carry_add c _ _ hc, Nat.add_mul, Nat.add_mul] at hturn
  -- the limb the turn replaced cancels: what is left is the carry in and `b`'s limb
  simp only [addTurn, Limbs.valUpTo]
  omega

/-- **`operator+=` adds modulo `2^(32 WIDTH)`.** -/
theorem val_add (x b : BaseUint w) : (x.add b).val = (x.val + b.val) % 2 ^ (32 * w) := by
  obtain ⟨hsum, -⟩ := addLoop_inv x b (Nat.le_refl w)
  have hb : b.val = Limbs.valUpTo b.get w := rfl
  rw [add, hb, ← hsum, Nat.add_mul_mod_self_right, Nat.mod_eq_of_lt (val_lt _)]

/-! ## `operator~`, `operator++`, unary `operator-` and `operator-=` -/

theorem get_not (x : BaseUint w) {i : Nat} (hi : i < w) : x.not.get i = ~~~x.get i := by
  unfold get not
  simp [hi]

/-- The complement holds `2^(32 WIDTH) - 1` minus the number. -/
theorem val_not (x : BaseUint w) : x.not.val + x.val = 2 ^ (32 * w) - 1 := by
  rw [val, Limbs.valUpTo_congr (y := fun i => ~~~x.get i) fun i hi => get_not x hi]
  exact Limbs.valUpTo_not _ _

/-- **`++` from limb `i`** adds `2^(32 i)`, modulo `2^(32 WIDTH)`: a limb that wraps to zero passes
the one on to the next. -/
theorem val_incFrom : ∀ (n : Nat) (x : BaseUint w) (i : Nat), i + n = w →
    (x.incFrom i n).val = (x.val + 2 ^ (32 * i)) % 2 ^ (32 * w)
  | 0, x, i, h => by
    rw [incFrom, show 32 * i = 32 * w by omega, Nat.add_mod_right, Nat.mod_eq_of_lt (val_lt x)]
  | n + 1, x, i, h => by
    have hi : i < w := by omega
    have hset := x.val_set hi (x.get i + 1)
    have hlimb := (x.get i).toNat_lt
    rw [UInt32.toNat_add, UInt32.toNat_one] at hset
    have hget : (x.set i (x.get i + 1)).get i = x.get i + 1 := by simp [hi]
    simp only [incFrom, hget]
    by_cases hz : x.get i + 1 = 0
    · -- the limb was `2^32 - 1` and wraps to zero: one more at the next limb
      rw [if_pos hz, val_incFrom n _ (i + 1) (by omega), Limbs.pow_succ_limb]
      have hwrap : (x.get i).toNat = 2 ^ 32 - 1 := by
        have := congrArg UInt32.toNat hz
        rw [UInt32.toNat_add, UInt32.toNat_one] at this
        simp only [UInt32.toNat_zero] at this
        omega
      rw [hwrap, show (2 ^ 32 - 1 + 1) % 2 ^ 32 = 0 from rfl, Nat.zero_mul] at hset
      congr 1
      omega
    · rw [if_neg hz]
      have hnowrap : ((x.get i).toNat + 1) % 2 ^ 32 = (x.get i).toNat + 1 := by
        apply Nat.mod_eq_of_lt
        by_contra hge
        apply hz
        apply UInt32.toNat_inj.mp
        rw [UInt32.toNat_add, UInt32.toNat_one, UInt32.toNat_zero]
        omega
      rw [hnowrap, Nat.add_mul, Nat.one_mul] at hset
      rw [← Nat.mod_eq_of_lt (val_lt (x.set i (x.get i + 1)))]
      congr 1
      omega

theorem val_inc (x : BaseUint w) : x.inc.val = (x.val + 1) % 2 ^ (32 * w) := by
  rw [inc, val_incFrom w x 0 (Nat.zero_add w), Nat.mul_zero, Nat.pow_zero]

/-- **Unary `-` is two's complement**: `2^(32 WIDTH)` less the number, modulo `2^(32 WIDTH)`. -/
theorem val_neg (b : BaseUint w) : b.neg.val = (2 ^ (32 * w) - b.val) % 2 ^ (32 * w) := by
  have hnot := val_not b
  have hlt := val_lt b
  rw [neg, val_inc]
  congr 1
  omega

/-- **`-=` subtracts modulo `2^(32 WIDTH)`.** -/
theorem val_sub (x b : BaseUint w) : (x.sub b).val = (x.val + (2 ^ (32 * w) - b.val)) % 2 ^ (32 * w) := by
  rw [sub, val_add, val_neg, Nat.add_mod_mod]

/-- Subtracting a number no larger does not wrap. -/
theorem val_sub_of_le {x b : BaseUint w} (h : b.val ≤ x.val) : (x.sub b).val = x.val - b.val := by
  have hlt := val_lt x
  rw [val_sub, show x.val + (2 ^ (32 * w) - b.val) = x.val - b.val + 2 ^ (32 * w) by omega,
    Nat.add_mod_right, Nat.mod_eq_of_lt (by omega)]

/-! ## `operator*=` -/

/-- **The invariant of row `j`**: after `i` turns the row so far, with its carry at limb
`i + j`'s weight, is the row's start plus `pn[j]` times the first `i` limbs of `b`, at limb `j`. -/
theorem mulRow_inv (x b a : BaseUint w) (j : Nat) {i : Nat} (hi : i ≤ w - j) :
    (Loop.forUpTo (mulTurn x b j) i (a, 0)).1.val +
        (Loop.forUpTo (mulTurn x b j) i (a, 0)).2.toNat * 2 ^ (32 * (i + j)) =
      a.val + (x.get j).toNat * Limbs.valUpTo b.get i * 2 ^ (32 * j) ∧
    (Loop.forUpTo (mulTurn x b j) i (a, 0)).2.toNat < 2 ^ 32 := by
  refine Loop.forUpTo_inv (fun i (st : BaseUint w × UInt64) =>
      st.1.val + st.2.toNat * 2 ^ (32 * (i + j)) =
        a.val + (x.get j).toNat * Limbs.valUpTo b.get i * 2 ^ (32 * j) ∧ st.2.toNat < 2 ^ 32)
    (n := i) ⟨by simp [Limbs.valUpTo], by simp⟩ ?_
  rintro k ⟨r, c⟩ hk ⟨hsum, hc⟩
  dsimp only at hsum hc
  refine ⟨?_, toNat_high_lt _⟩
  have hturn := val_carryTurn r (k := k + j) (by omega)
    (c + (r.get (k + j)).toUInt64 + (x.get j).toUInt64 * (b.get k).toUInt64)
  rw [toNat_carry_mul c _ _ _ hc] at hturn
  simp only [mulTurn, Limbs.valUpTo]
  rw [show k + 1 + j = k + j + 1 by omega]
  -- the replaced limb cancels; the carry in and `pn[j] * b.pn[k]` land at limb `k + j`
  have hpow : 2 ^ (32 * (k + j)) = 2 ^ (32 * k) * 2 ^ (32 * j) := by
    rw [← Nat.pow_add, Nat.mul_add]
  rw [hpow] at hturn hsum
  zify at hturn hsum ⊢
  linear_combination hturn + hsum

/-- **Row `j` adds `pn[j] * b` at limb `j`'s weight**, modulo `2^(32 WIDTH)`: the part of the row
past the last limb is dropped. -/
theorem val_mulRow (x b a : BaseUint w) {j : Nat} (hj : j < w) :
    (mulRow x b j a).val = (a.val + (x.get j).toNat * b.val * 2 ^ (32 * j)) % 2 ^ (32 * w) := by
  obtain ⟨hsum, -⟩ := mulRow_inv x b a j (Nat.le_refl (w - j))
  rw [Nat.sub_add_cancel hj.le] at hsum
  -- `b` is its first `w - j` limbs plus a multiple of `2^(32 (w - j))`
  have hsplit := Nat.mod_add_div b.val (2 ^ (32 * (w - j)))
  have hmod : b.val % 2 ^ (32 * (w - j)) = Limbs.valUpTo b.get (w - j) :=
    Limbs.valUpTo_mod _ (Nat.sub_le w j)
  rw [hmod] at hsplit
  have hM : 2 ^ (32 * (w - j)) * 2 ^ (32 * j) = 2 ^ (32 * w) := by
    rw [← Nat.pow_add, ← Nat.mul_add, Nat.sub_add_cancel hj.le]
  have hb : (x.get j).toNat * b.val * 2 ^ (32 * j) =
      (x.get j).toNat * Limbs.valUpTo b.get (w - j) * 2 ^ (32 * j) +
        (x.get j).toNat * (b.val / 2 ^ (32 * (w - j))) * 2 ^ (32 * w) := by
    rw [← hM]
    conv_lhs => rw [← hsplit]
    ring
  rw [hb, ← Nat.add_assoc, Nat.add_mul_mod_self_right, ← hsum, Nat.add_mul_mod_self_right,
    Nat.mod_eq_of_lt (val_lt _)]
  rfl

/-- **`operator*=` multiplies modulo `2^(32 WIDTH)`.** -/
theorem val_mul (x b : BaseUint w) : (x.mul b).val = x.val * b.val % 2 ^ (32 * w) := by
  have h := @Loop.forUpTo_inv _ (mulRow x b) (fun j (a : BaseUint w) =>
      a.val = Limbs.valUpTo x.get j * b.val % 2 ^ (32 * w)) w zero
    (by simp [Limbs.valUpTo]) fun j a hj ha => by
      rw [val_mulRow x b a hj, ha, Nat.mod_add_mod, Limbs.valUpTo]
      congr 1
      ring
  exact h

/-! ## `operator<<=` and `operator>>=` -/

theorem toNat_toUInt32_of_lt {s : Nat} (h : s < 2 ^ 32) : s.toUInt32.toNat = s := by
  simpa using Nat.mod_eq_of_lt h

/-- A limb has no bit from 32 up. -/
theorem testBit_limb_of_ge (c : UInt32) {v : Nat} (hv : 32 ≤ v) : c.toNat.testBit v = false :=
  Nat.testBit_lt_two_pow (lt_of_lt_of_le c.toNat_lt (Nat.pow_le_pow_right (by decide) hv))

theorem testBit_shiftLeft_limb (c : UInt32) {s u : Nat} (hs : s < 32) (hu : u < 32) :
    (c <<< s.toUInt32).toNat.testBit u = (decide (s ≤ u) && c.toNat.testBit (u - s)) := by
  rw [UInt32.toNat_shiftLeft, toNat_toUInt32_of_lt (by omega), Nat.mod_eq_of_lt hs,
    Nat.testBit_mod_two_pow, Nat.testBit_shiftLeft, decide_eq_true hu, Bool.true_and]

theorem testBit_shiftRight_limb (c : UInt32) {s : Nat} (hs : s < 32) (u : Nat) :
    (c >>> s.toUInt32).toNat.testBit u = c.toNat.testBit (s + u) := by
  rw [UInt32.toNat_shiftRight, toNat_toUInt32_of_lt (by omega), Nat.mod_eq_of_lt hs,
    Nat.testBit_shiftRight]

/-- `r.get m ||| v`, bit by bit. -/
theorem testBit_or_limb (c v : UInt32) (u : Nat) :
    (c ||| v).toNat.testBit u = (c.toNat.testBit u || v.toNat.testBit u) := by
  rw [UInt32.toNat_or, Nat.testBit_or]

theorem get_set_self (x : BaseUint w) {i : Nat} (hi : i < w) (v : UInt32) : (x.set i v).get i = v := by
  rw [get_set, if_pos ⟨rfl, hi⟩]

theorem get_set_of_ne (x : BaseUint w) {i j : Nat} (h : i ≠ j) (v : UInt32) :
    (x.set i v).get j = x.get j := by
  rw [get_set, if_neg fun h' => h h'.1]

/-- A conditional write elsewhere leaves limb `m`. -/
theorem get_ite_set_of_ne {c : Prop} [Decidable c] (x : BaseUint w) {j m : Nat} (h : j ≠ m)
    (v : UInt32) : (if c then x.set j v else x).get m = x.get m := by
  split
  · exact get_set_of_ne x h v
  · rfl

/-- **What a turn of `<<=` writes**: limb `i + k` gains `c << shift`, limb `i + k + 1` gains
`c >> (32 - shift)`, for `c` limb `i` of the copy. -/
theorem get_shlTurn (a r : BaseUint w) (k s i : Nat) {m : Nat} (hm : m < w) :
    (a.shlTurn k s i r).get m =
      if m = i + k then r.get m ||| (a.get i <<< s.toUInt32)
      else if m = i + k + 1 ∧ s ≠ 0 then r.get m ||| (a.get i >>> (32 - s).toUInt32)
      else r.get m := by
  unfold shlTurn
  dsimp only
  by_cases hA : m = i + k
  · subst hA
    rw [if_pos hm, get_set_self _ hm, get_ite_set_of_ne _ (show i + k + 1 ≠ i + k by omega),
      if_pos rfl]
  · rw [if_neg hA, get_ite_set_of_ne _ (Ne.symm hA)]
    by_cases hB : m = i + k + 1 ∧ s ≠ 0
    · obtain ⟨rfl, hs0⟩ := hB
      rw [if_pos ⟨hm, hs0⟩, get_set_self _ hm, if_pos ⟨rfl, hs0⟩]
    · -- the write to limb `i + k + 1` happens only when `shift ≠ 0`
      rw [if_neg hB]
      split
      · rename_i hw
        exact get_set_of_ne _ (fun h => hB ⟨h.symm, hw.2⟩) _
      · rfl

/-- **The bits a turn of `<<=` puts into limb `m`**: bit `u` of the limb gains bit `p` of the
copy's limb `i`, where `32 m + u = 32 (i + k) + s + p` and `p < 32`. -/
theorem testBit_get_shlTurn (a r : BaseUint w) {k s : Nat} (hs : s < 32) (i : Nat) {m u : Nat}
    (hm : m < w) (hu : u < 32) :
    ((a.shlTurn k s i r).get m).toNat.testBit u =
      ((r.get m).toNat.testBit u || (decide (32 * k + s ≤ 32 * m + u) &&
        decide ((32 * m + u - (32 * k + s)) / 32 = i) &&
        (a.get i).toNat.testBit ((32 * m + u - (32 * k + s)) % 32))) := by
  rw [get_shlTurn a r k s i hm]
  by_cases hA : m = i + k
  · -- limb `i + k` takes `c << s`: the bits of `c` from `0` to `31 - s`
    subst hA
    rw [if_pos rfl, testBit_or_limb, testBit_shiftLeft_limb _ hs hu]
    by_cases hsu : s ≤ u
    · rw [decide_eq_true hsu, decide_eq_true (by omega), decide_eq_true (by omega),
        show (32 * (i + k) + u - (32 * k + s)) % 32 = u - s by omega]
      rfl
    · rw [decide_eq_false hsu]
      by_cases hle : 32 * k + s ≤ 32 * (i + k) + u
      · rw [decide_eq_false (show ¬(32 * (i + k) + u - (32 * k + s)) / 32 = i by omega)]
        simp
      · rw [decide_eq_false hle]
        simp
  · rw [if_neg hA]
    by_cases hB : m = i + k + 1 ∧ s ≠ 0
    · -- limb `i + k + 1` takes `c >> (32 - s)`: the bits of `c` from `32 - s` up
      obtain ⟨rfl, hs0⟩ := hB
      rw [if_pos ⟨rfl, hs0⟩, testBit_or_limb, testBit_shiftRight_limb _ (show 32 - s < 32 by omega)]
      by_cases hus : u < s
      · rw [decide_eq_true (by omega), decide_eq_true (by omega),
          show (32 * (i + k + 1) + u - (32 * k + s)) % 32 = 32 - s + u by omega]
        rfl
      · rw [testBit_limb_of_ge _ (show 32 ≤ 32 - s + u by omega),
          decide_eq_false (show ¬(32 * (i + k + 1) + u - (32 * k + s)) / 32 = i by omega)]
        simp
    · -- any other limb is left as it was, and no bit of limb `i` lands there
      rw [if_neg hB]
      by_cases hle : 32 * k + s ≤ 32 * m + u
      · rw [decide_eq_false (show ¬(32 * m + u - (32 * k + s)) / 32 = i by omega)]
        simp
      · rw [decide_eq_false hle]
        simp

/-- **A turn of `<<=` keeps the picture**: after the turns below `i`, bit `u` of limb `m` holds
bit `32 m + u - S` of the copy whenever that bit comes from a limb below `i`. -/
theorem shlTurn_bits (a r : BaseUint w) {k s : Nat} (hs : s < 32) (i : Nat)
    (hr : ∀ m u, m < w → u < 32 → (r.get m).toNat.testBit u =
      (decide (32 * k + s ≤ 32 * m + u) && decide ((32 * m + u - (32 * k + s)) / 32 < i) &&
        (a.get ((32 * m + u - (32 * k + s)) / 32)).toNat.testBit
          ((32 * m + u - (32 * k + s)) % 32)))
    (m u : Nat) (hm : m < w) (hu : u < 32) :
    ((a.shlTurn k s i r).get m).toNat.testBit u =
      (decide (32 * k + s ≤ 32 * m + u) && decide ((32 * m + u - (32 * k + s)) / 32 < i + 1) &&
        (a.get ((32 * m + u - (32 * k + s)) / 32)).toNat.testBit
          ((32 * m + u - (32 * k + s)) % 32)) := by
  rw [testBit_get_shlTurn a r hs i hm hu, hr m u hm hu]
  generalize (32 * m + u - (32 * k + s)) / 32 = q
  -- the new bits come from limb `q = i`; those from limbs below were there already
  rcases lt_trichotomy q i with h | rfl | h
  · simp [h, Nat.ne_of_lt h, show q < i + 1 by omega]
  · simp
  · simp [Nat.not_lt.2 (Nat.le_of_lt h), Nat.ne_of_gt h, show ¬q < i + 1 by omega]

/-- **`<<=` multiplies by `2^shift`**, modulo the width. -/
theorem val_shl (x : BaseUint w) (shift : Nat) :
    (x.shl shift).val = x.val * 2 ^ shift % 2 ^ (32 * w) := by
  have hS : 32 * (shift / 32) + shift % 32 = shift := Nat.div_add_mod shift 32
  have hrun := @Loop.forUpTo_inv _ (shlTurn x (shift / 32) (shift % 32))
    (fun i (r : BaseUint w) => ∀ m u, m < w → u < 32 → (r.get m).toNat.testBit u =
      (decide (32 * (shift / 32) + shift % 32 ≤ 32 * m + u) &&
        decide ((32 * m + u - (32 * (shift / 32) + shift % 32)) / 32 < i) &&
        (x.get ((32 * m + u - (32 * (shift / 32) + shift % 32)) / 32)).toNat.testBit
          ((32 * m + u - (32 * (shift / 32) + shift % 32)) % 32)))
    w zero (by simp)
    fun i r _ hr => shlTurn_bits x r (Nat.mod_lt _ (by decide)) i hr
  apply Nat.eq_of_testBit_eq
  intro t
  rw [testBit_val, Nat.testBit_mod_two_pow, Nat.testBit_mul_two_pow, testBit_val]
  by_cases ht : t < 32 * w
  · rw [shl, hrun (t / 32) (t % 32) (by omega) (Nat.mod_lt _ (by decide)), hS,
      Nat.div_add_mod t 32]
    by_cases hst : shift ≤ t
    · simp [ht, hst, show (t - shift) / 32 < w by omega, show t - shift < 32 * w by omega]
    · simp [hst]
  · simp [ht]

/-- **What a turn of `>>=` writes**: limb `i - k` gains `c >> shift`, limb `i - k - 1` gains
`c << (32 - shift)`, for `c` limb `i` of the copy. -/
theorem get_shrTurn (a r : BaseUint w) (k s i : Nat) {m : Nat} (hm : m < w) :
    (a.shrTurn k s i r).get m =
      if m + k = i then r.get m ||| (a.get i >>> s.toUInt32)
      else if m + k + 1 = i ∧ s ≠ 0 then r.get m ||| (a.get i <<< (32 - s).toUInt32)
      else r.get m := by
  unfold shrTurn
  dsimp only
  by_cases hA : m + k = i
  · subst hA
    rw [if_pos (Nat.le_add_left k m), show m + k - k = m by omega, get_set_self _ hm, if_pos rfl]
    -- the write below, to limb `m - 1`, happens only when `m ≠ 0`
    congr 1
    split
    · rename_i h
      exact get_set_of_ne _ (show m - 1 ≠ m by omega) _
    · rfl
  · rw [if_neg hA]
    by_cases hk : k ≤ i
    · -- the write to limb `i - k` misses `m`
      rw [if_pos hk, get_set_of_ne _ (show i - k ≠ m by omega)]
      by_cases hB : m + k + 1 = i ∧ s ≠ 0
      · obtain ⟨rfl, hs0⟩ := hB
        rw [if_pos ⟨by omega, hs0⟩, show m + k + 1 - k - 1 = m by omega, get_set_self _ hm,
          if_pos ⟨rfl, hs0⟩]
      · rw [if_neg hB]
        split
        · exact get_set_of_ne _ (show i - k - 1 ≠ m by omega) _
        · rfl
    · rw [if_neg hk]
      rw [if_neg (show ¬(k + 1 ≤ i ∧ s ≠ 0) by omega),
        if_neg (show ¬(m + k + 1 = i ∧ s ≠ 0) by omega)]

/-- **The bits a turn of `>>=` puts into limb `m`**: bit `u` of the limb gains bit `p` of the
copy, for `p = 32 m + u + S`, when `p` lies in limb `i`. -/
theorem testBit_get_shrTurn (a r : BaseUint w) {k s : Nat} (hs : s < 32) (i : Nat) {m u : Nat}
    (hm : m < w) (hu : u < 32) :
    ((a.shrTurn k s i r).get m).toNat.testBit u =
      ((r.get m).toNat.testBit u || (decide ((32 * m + u + (32 * k + s)) / 32 = i) &&
        (a.get i).toNat.testBit ((32 * m + u + (32 * k + s)) % 32))) := by
  rw [get_shrTurn a r k s i hm]
  by_cases hA : m + k = i
  · -- limb `m + k` shifted down: its bits from `s` up
    subst hA
    rw [if_pos rfl, testBit_or_limb, testBit_shiftRight_limb _ hs]
    by_cases hsu : s + u < 32
    · rw [decide_eq_true (show (32 * m + u + (32 * k + s)) / 32 = m + k by omega),
        show (32 * m + u + (32 * k + s)) % 32 = s + u by omega]
      rfl
    · rw [testBit_limb_of_ge _ (show 32 ≤ s + u by omega),
        decide_eq_false (show ¬(32 * m + u + (32 * k + s)) / 32 = m + k by omega)]
      simp
  · rw [if_neg hA]
    by_cases hB : m + k + 1 = i ∧ s ≠ 0
    · -- limb `m + k + 1` shifted up by `32 - s`: its bits below `s`
      obtain ⟨rfl, hs0⟩ := hB
      rw [if_pos ⟨rfl, hs0⟩, testBit_or_limb, testBit_shiftLeft_limb _ (show 32 - s < 32 by omega) hu]
      by_cases hus : 32 - s ≤ u
      · rw [decide_eq_true hus, decide_eq_true (by omega),
          show (32 * m + u + (32 * k + s)) % 32 = u - (32 - s) by omega]
      · rw [decide_eq_false hus,
          decide_eq_false (show ¬(32 * m + u + (32 * k + s)) / 32 = m + k + 1 by omega)]
        simp
    · -- no bit of limb `i` lands in any other limb
      rw [if_neg hB, decide_eq_false (show ¬(32 * m + u + (32 * k + s)) / 32 = i by omega)]
      simp

/-- **A turn of `>>=` keeps the picture**: after the turns below `i`, bit `u` of limb `m` holds
bit `32 m + u + S` of the copy whenever that bit lies in a limb below `i`. -/
theorem shrTurn_bits (a r : BaseUint w) {k s : Nat} (hs : s < 32) (i : Nat)
    (hr : ∀ m u, m < w → u < 32 → (r.get m).toNat.testBit u =
      (decide ((32 * m + u + (32 * k + s)) / 32 < i) &&
        (a.get ((32 * m + u + (32 * k + s)) / 32)).toNat.testBit
          ((32 * m + u + (32 * k + s)) % 32)))
    (m u : Nat) (hm : m < w) (hu : u < 32) :
    ((a.shrTurn k s i r).get m).toNat.testBit u =
      (decide ((32 * m + u + (32 * k + s)) / 32 < i + 1) &&
        (a.get ((32 * m + u + (32 * k + s)) / 32)).toNat.testBit
          ((32 * m + u + (32 * k + s)) % 32)) := by
  rw [testBit_get_shrTurn a r hs i hm hu, hr m u hm hu]
  generalize (32 * m + u + (32 * k + s)) / 32 = q
  rcases lt_trichotomy q i with h | rfl | h
  · simp [h, Nat.ne_of_lt h, show q < i + 1 by omega]
  · simp
  · simp [Nat.not_lt.2 (Nat.le_of_lt h), Nat.ne_of_gt h, show ¬q < i + 1 by omega]

/-- **`>>=` divides by `2^shift`.** -/
theorem val_shr (x : BaseUint w) (shift : Nat) : (x.shr shift).val = x.val / 2 ^ shift := by
  have hS : 32 * (shift / 32) + shift % 32 = shift := Nat.div_add_mod shift 32
  have hrun := @Loop.forUpTo_inv _ (shrTurn x (shift / 32) (shift % 32))
    (fun i (r : BaseUint w) => ∀ m u, m < w → u < 32 → (r.get m).toNat.testBit u =
      (decide ((32 * m + u + (32 * (shift / 32) + shift % 32)) / 32 < i) &&
        (x.get ((32 * m + u + (32 * (shift / 32) + shift % 32)) / 32)).toNat.testBit
          ((32 * m + u + (32 * (shift / 32) + shift % 32)) % 32)))
    w zero (by simp) fun i r _ hr => shrTurn_bits x r (Nat.mod_lt _ (by decide)) i hr
  apply Nat.eq_of_testBit_eq
  intro t
  rw [testBit_val, Nat.testBit_div_two_pow, testBit_val]
  by_cases ht : t < 32 * w
  · rw [shr, hrun (t / 32) (t % 32) (by omega) (Nat.mod_lt _ (by decide)), hS,
      Nat.div_add_mod t 32]
    by_cases hst : t + shift < 32 * w
    · simp [ht, hst, show (t + shift) / 32 < w by omega]
    · simp [hst, show ¬(t + shift) / 32 < w by omega]
  · simp [ht, show ¬t + shift < 32 * w by omega]

/-! ## `CompareTo` and `bits()` -/

/-- **`CompareTo` walks the limbs down** to the first that differs: it compares the numbers the
limbs below `n` encode. -/
theorem compareFrom_eq (x b : BaseUint w) (n : Nat) :
    x.compareFrom b n =
      if Limbs.valUpTo x.get n < Limbs.valUpTo b.get n then -1
      else if Limbs.valUpTo b.get n < Limbs.valUpTo x.get n then 1 else 0 := by
  induction n with
  | zero => simp [compareFrom, Limbs.valUpTo]
  | succ n ih =>
    simp only [compareFrom, Limbs.valUpTo_succ_lt_iff, ih, gt_iff_lt, UInt32.lt_iff_toNat_lt]
    rcases Nat.lt_trichotomy (x.get n).toNat (b.get n).toNat with h | h | h
    · simp [h]
    · -- equal top limbs: the answer is that of the limbs below
      simp [h]
    · simp [h, Nat.not_lt.2 h.le, Nat.ne_of_gt h]

theorem compareTo_eq (x b : BaseUint w) :
    x.compareTo b = if x.val < b.val then -1 else if b.val < x.val then 1 else 0 :=
  compareFrom_eq x b w

/-- `num >= div` in `operator/=` is `CompareTo(div) >= 0`. -/
theorem compareTo_nonneg_iff (x b : BaseUint w) : x.compareTo b ≥ 0 ↔ b.val ≤ x.val := by
  rw [compareTo_eq]
  by_cases h : x.val < b.val
  · simp [h]
  · by_cases h' : b.val < x.val <;> simp [h, h'] <;> omega

/-- **The top bit of a limb**: for a non-zero limb below `2^(n + 1)`, `limbBits` is the position
of its highest set bit. -/
theorem limbBits_spec (c : UInt32) {n : Nat} (hn : n < 32) (hc : c.toNat < 2 ^ (n + 1))
    (h0 : c ≠ 0) : 2 ^ limbBits c n ≤ c.toNat ∧ c.toNat < 2 ^ (limbBits c n + 1) := by
  induction n with
  | zero =>
    have : c.toNat ≠ 0 := fun h => h0 (UInt32.toNat_inj.1 h)
    simp only [limbBits]
    omega
  | succ n ih =>
    rw [limbBits]
    split
    · -- bit `n + 1` is set: it is the top one
      rename_i hbit
      rw [Limbs.and_one_shiftLeft_ne_zero_iff c hn] at hbit
      exact ⟨Nat.ge_two_pow_of_testBit hbit, hc⟩
    · -- bit `n + 1` is clear, so the limb is below `2^(n + 1)`
      rename_i hbit
      rw [Limbs.and_one_shiftLeft_ne_zero_iff c hn, Bool.not_eq_true] at hbit
      apply ih (by omega)
      apply Nat.lt_pow_two_of_testBit
      intro i hi
      rcases Nat.lt_or_ge i (n + 2) with hi' | hi'
      · obtain rfl : i = n + 1 := by omega
        exact hbit
      · exact Nat.testBit_lt_two_pow (lt_of_lt_of_le hc (Nat.pow_le_pow_right (by decide) hi'))

/-- **`bits()` of the limbs below `pos`** is the length of the number they encode: it is below
`2^bits`, and at least `2^(bits - 1)` unless zero. -/
theorem bitsFrom_spec (x : BaseUint w) (pos : Nat) :
    Limbs.valUpTo x.get pos < 2 ^ x.bitsFrom pos ∧
      (x.bitsFrom pos ≠ 0 → 2 ^ (x.bitsFrom pos - 1) ≤ Limbs.valUpTo x.get pos) := by
  induction pos with
  | zero => simp [bitsFrom, Limbs.valUpTo]
  | succ pos ih =>
    rw [bitsFrom]
    split
    · -- the top non-zero limb sets the length; the limbs below are outweighed
      rename_i hc
      obtain ⟨hlo, hhi⟩ := limbBits_spec (x.get pos) (n := 31) (by decide) (x.get pos).toNat_lt hc
      have hbelow := Limbs.valUpTo_lt x.get pos
      have hup : ((x.get pos).toNat + 1) * 2 ^ (32 * pos) ≤
          2 ^ (limbBits (x.get pos) 31 + 1) * 2 ^ (32 * pos) := Nat.mul_le_mul_right _ hhi
      have hdown : 2 ^ limbBits (x.get pos) 31 * 2 ^ (32 * pos) ≤
          (x.get pos).toNat * 2 ^ (32 * pos) := Nat.mul_le_mul_right _ hlo
      rw [← Nat.pow_add, Nat.add_mul, Nat.one_mul] at hup
      rw [← Nat.pow_add] at hdown
      refine ⟨?_, fun _ => ?_⟩
      · rw [Limbs.valUpTo, show 32 * pos + limbBits (x.get pos) 31 + 1 =
          limbBits (x.get pos) 31 + 1 + 32 * pos by omega]
        omega
      · rw [Limbs.valUpTo, show 32 * pos + limbBits (x.get pos) 31 + 1 - 1 =
          limbBits (x.get pos) 31 + 32 * pos by omega]
        omega
    · rename_i hc
      rw [Limbs.valUpTo, show x.get pos = 0 from not_not.1 hc, UInt32.toNat_zero, Nat.zero_mul,
        Nat.add_zero]
      exact ih

theorem val_lt_two_pow_bits (x : BaseUint w) : x.val < 2 ^ x.bits := (bitsFrom_spec x w).1

theorem two_pow_bits_le_val (x : BaseUint w) (h : x.bits ≠ 0) : 2 ^ (x.bits - 1) ≤ x.val :=
  (bitsFrom_spec x w).2 h

/-- **`bits()` is the binary length of the number.** -/
theorem bits_eq_size (x : BaseUint w) : x.bits = x.val.size := by
  apply le_antisymm
  · by_cases h : x.bits = 0
    · omega
    · have := Nat.lt_size.2 (two_pow_bits_le_val x h)
      omega
  · exact Nat.size_le.2 (val_lt_two_pow_bits x)

theorem bits_eq_zero_iff (x : BaseUint w) : x.bits = 0 ↔ x.val = 0 := by
  rw [bits_eq_size, Nat.size_eq_zero]

theorem bits_le (x : BaseUint w) : x.bits ≤ 32 * w := by
  rw [bits_eq_size]
  exact Nat.size_le.2 (val_lt x)

/-! ## `operator/=` -/

/-- The mask `1 << (shift & 31)` is bit `shift % 32`. -/
theorem toNat_bitMask (shift : Nat) :
    (1 <<< (shift.toUInt32 &&& 31) : UInt32).toNat = 2 ^ (shift % 32) := by
  have hlow : (shift.toUInt32 &&& 31).toNat = shift % 32 := by
    rw [UInt32.toNat_and, show (31 : UInt32).toNat = 2 ^ 5 - 1 from rfl,
      Nat.and_two_pow_sub_one_eq_mod]
    simp
  rw [UInt32.toNat_shiftLeft, hlow, Nat.mod_mod, UInt32.toNat_one, Nat.one_shiftLeft,
    Nat.mod_eq_of_lt (Nat.pow_lt_pow_right (by decide) (Nat.mod_lt _ (by decide)))]

/-- **Setting a clear bit** of the quotient adds its weight. -/
theorem val_setBit (q : BaseUint w) {shift : Nat} (hs : shift < 32 * w)
    (hq : q.val.testBit shift = false) : (q.setBit shift).val = q.val + 2 ^ shift := by
  have hi : shift / 32 < w := by omega
  have hbit : (q.get (shift / 32)).toNat.testBit (shift % 32) = false := by
    rwa [testBit_val, decide_eq_true hs, Bool.true_and] at hq
  have hlimb : (q.get (shift / 32) ||| (1 <<< (shift.toUInt32 &&& 31))).toNat =
      (q.get (shift / 32)).toNat + 2 ^ (shift % 32) := by
    rw [UInt32.toNat_or, toNat_bitMask, Limbs.or_two_pow_of_testBit hbit]
  have hset := val_set q hi (q.get (shift / 32) ||| (1 <<< (shift.toUInt32 &&& 31)))
  have hw : 2 ^ (shift % 32) * 2 ^ (32 * (shift / 32)) = 2 ^ shift := by
    rw [← Nat.pow_add, Nat.mod_add_div]
  rw [hlimb, Nat.add_mul, hw] at hset
  unfold setBit
  omega

/-- **The invariant of `operator/=`** before the turn at `shift`, dividing `a` by `d`: the
divisor is `d` aligned at `shift`, the quotient so far has no bit at or below `shift`, and the
remainder is below `d` aligned one bit higher. The state is `(num, div, quotient)`. -/
structure DivInv (a d shift : Nat) (st : BaseUint w × BaseUint w × BaseUint w) : Prop where
  div_val : st.2.1.val = d * 2 ^ shift
  rem_add : st.1.val + st.2.2.val * d = a
  rem_lt : st.1.val < d * 2 ^ (shift + 1)
  quot_dvd : 2 ^ (shift + 1) ∣ st.2.2.val
  shift_lt : shift < 32 * w

/-- **One turn of `operator/=`**: subtracting the aligned divisor when it fits sets bit `shift`
of the quotient and leaves a remainder below the divisor; the divisor moves down one bit. -/
theorem divTurn_spec {a d s : Nat} {st : BaseUint w × BaseUint w × BaseUint w}
    (h : DivInv a d s st) :
    (divTurn s st).1.val + (divTurn s st).2.2.val * d = a ∧ (divTurn s st).1.val < d * 2 ^ s ∧
      2 ^ s ∣ (divTurn s st).2.2.val ∧ (divTurn s st).2.1.val = d * 2 ^ s / 2 := by
  obtain ⟨num, dv, q⟩ := st
  obtain ⟨hdiv, hsum, hlt, hdvd, hs⟩ := h
  dsimp only at hdiv hsum hlt hdvd
  have hdvd' : 2 ^ s ∣ q.val := Nat.dvd_trans (Nat.pow_dvd_pow 2 (Nat.le_succ s)) hdvd
  have hpow : d * 2 ^ (s + 1) = d * 2 ^ s + d * 2 ^ s := by rw [Nat.pow_succ]; ring
  simp only [divTurn, compareTo_nonneg_iff, hdiv]
  split
  · -- the divisor fits: subtract it and set the bit
    rename_i hfit
    have hclear : q.val.testBit s = false := by
      obtain ⟨m, hm⟩ := hdvd
      rw [hm, Nat.testBit_two_pow_mul, decide_eq_false (by omega), Bool.false_and]
    dsimp only
    rw [val_sub_of_le (by rw [hdiv]; exact hfit), hdiv, val_setBit q hs hclear, val_shr, hdiv,
      Nat.pow_one]
    refine ⟨?_, by omega, Nat.dvd_add hdvd' (Nat.dvd_refl _), rfl⟩
    rw [Nat.add_mul, Nat.mul_comm (2 ^ s) d]
    omega
  · rename_i hfit
    dsimp only
    rw [val_shr, hdiv, Nat.pow_one]
    exact ⟨hsum, by omega, hdvd', rfl⟩

/-- The turn at `shift + 1` leaves the invariant for the turn at `shift`. -/
theorem DivInv.divTurn {a d s : Nat} {st : BaseUint w × BaseUint w × BaseUint w}
    (h : DivInv a d (s + 1) st) : DivInv a d s (divTurn (s + 1) st) := by
  obtain ⟨hsum, hlt, hdvd, hdiv⟩ := divTurn_spec h
  refine ⟨?_, hsum, hlt, hdvd, by have := h.shift_lt; omega⟩
  rw [hdiv, Nat.pow_succ, ← Nat.mul_assoc, Nat.mul_div_cancel _ (by decide)]

/-- **The loop of `operator/=` ends with the quotient**, from any state with the invariant. -/
theorem divLoop_quot {a d : Nat} (hd : 0 < d) :
    ∀ (s : Nat) (st : BaseUint w × BaseUint w × BaseUint w), DivInv a d s st →
      (divLoop s st).2.2.val = a / d
  | 0, st, h => by
    obtain ⟨hsum, hlt, -, -⟩ := divTurn_spec h
    rw [divLoop]
    rw [Nat.pow_zero, Nat.mul_one] at hlt
    exact ((Nat.div_mod_unique hd).2 ⟨by rw [Nat.mul_comm]; exact hsum, hlt⟩).1.symm
  | s + 1, st, h => by
    rw [divLoop]
    exact divLoop_quot hd s _ h.divTurn

/-- **`operator/=` divides**: by a non-zero divisor it gives the quotient. -/
theorem val_div (x b : BaseUint w) (hb : b.val ≠ 0) : val <$> x.div b = .ok (x.val / b.val) := by
  have hbits : b.bits ≠ 0 := fun h => hb ((bits_eq_zero_iff b).1 h)
  have hdlo := two_pow_bits_le_val b hbits
  have hdhi := val_lt_two_pow_bits b
  have hxhi := val_lt_two_pow_bits x
  unfold div
  dsimp only
  rw [if_neg hbits]
  split
  · -- the divisor is longer than the numerator: the quotient is zero
    rename_i hlong
    have : x.val < b.val :=
      lt_of_lt_of_le hxhi (le_trans (Nat.pow_le_pow_right (by decide) (by omega)) hdlo)
    show Except.ok (zero : BaseUint w).val = _
    rw [val_zero, Nat.div_eq_of_lt this]
  · rename_i hlong
    -- align the divisor's top bit with the numerator's
    have hxbits := bits_le x
    have hS : b.bits - 1 + (x.bits - b.bits + 1) = x.bits := by omega
    have halign : b.val * 2 ^ (x.bits - b.bits) < 2 ^ (32 * w) :=
      calc b.val * 2 ^ (x.bits - b.bits) < 2 ^ b.bits * 2 ^ (x.bits - b.bits) :=
            Nat.mul_lt_mul_of_pos_right hdhi (Nat.two_pow_pos _)
        _ = 2 ^ x.bits := by rw [← Nat.pow_add]; congr 1; omega
        _ ≤ 2 ^ (32 * w) := Nat.pow_le_pow_right (by decide) hxbits
    have hinit : DivInv x.val b.val (x.bits - b.bits) (x, b.shl (x.bits - b.bits), zero) := by
      refine ⟨?_, by simp, ?_, by simp, by omega⟩
      · rw [val_shl, Nat.mod_eq_of_lt halign]
      · calc x.val < 2 ^ x.bits := hxhi
          _ = 2 ^ (b.bits - 1) * 2 ^ (x.bits - b.bits + 1) := by rw [← Nat.pow_add, hS]
          _ ≤ b.val * 2 ^ (x.bits - b.bits + 1) := Nat.mul_le_mul_right _ hdlo
    show Except.ok (divLoop _ _).2.2.val = _
    rw [divLoop_quot (Nat.pos_of_ne_zero hb) _ _ hinit]

example : val <$> (ofUInt64 1000 : ArithUint256).div (ofUInt64 7) = .ok 142 := by decide

/-- Dividing by zero throws, as `Word256.div` does. -/
theorem div_of_val_eq_zero (x b : BaseUint w) (hb : b.val = 0) :
    x.div b = .error "Division by zero" := by
  unfold div
  dsimp only
  rw [if_pos ((bits_eq_zero_iff b).2 hb)]
  rfl

/-! ## `base_uint(uint64_t)` and `EqualTo` -/

theorem get_ofUInt64 (b : UInt64) {i : Nat} (hi : i < w) :
    (ofUInt64 b : BaseUint w).get i =
      if i = 0 then b.toUInt32 else if i = 1 then (b >>> 32).toUInt32 else 0 := by
  unfold ofUInt64
  rw [get_set, get_set, get_zero]
  by_cases h0 : i = 0
  · subst h0
    simp [hi]
  · by_cases h1 : i = 1
    · subst h1
      simp [hi]
    · simp [h0, h1, Ne.symm h0, Ne.symm h1]

/-- **`base_uint(uint64_t)` holds the number**, once there are two limbs for it. -/
theorem val_ofUInt64 (b : UInt64) (hw : 2 ≤ w) : (ofUInt64 b : BaseUint w).val = b.toNat := by
  have h0 := val_set (zero : BaseUint w) (i := 0) (by omega) b.toUInt32
  have h1 := val_set ((zero : BaseUint w).set 0 b.toUInt32) (i := 1) (by omega) (b >>> 32).toUInt32
  rw [get_set, if_neg (by omega), get_zero, UInt32.toNat_zero, Nat.zero_mul, Nat.add_zero] at h1
  rw [get_zero, UInt32.toNat_zero, Nat.zero_mul, Nat.add_zero, val_zero, Nat.zero_add] at h0
  have hlo : b.toUInt32.toNat = b.toNat % 2 ^ 32 := UInt64.toNat_toUInt32 b
  have hhi : (b >>> 32).toUInt32.toNat = b.toNat / 2 ^ 32 := by
    rw [UInt64.toNat_toUInt32, toNat_high, Nat.mod_eq_of_lt (toNat_high b ▸ toNat_high_lt b)]
  unfold ofUInt64
  rw [h1, h0, hlo, hhi, Nat.mul_zero, Nat.pow_zero, Nat.mul_one, Nat.mul_one]
  exact Nat.mod_add_div' b.toNat (2 ^ 32)

/-- Two numbers are equal exactly when their limbs are. -/
theorem val_eq_val_iff (x y : BaseUint w) : x.val = y.val ↔ ∀ i < w, x.get i = y.get i :=
  Limbs.valUpTo_inj

/-- A limb widened to `uint64_t` equals a number below `2^32` exactly when it is that number. -/
theorem toUInt64_eq_iff (c : UInt32) {v : UInt64} (hv : v.toNat < 2 ^ 32) :
    c.toUInt64 = v ↔ c = v.toUInt32 := by
  rw [← UInt64.toNat_inj, ← UInt32.toNat_inj, UInt32.toNat_toUInt64, UInt64.toNat_toUInt32,
    Nat.mod_eq_of_lt hv]

/-- **`EqualTo(b)` tests the number against `b`.** -/
theorem equalTo_iff (x : BaseUint w) (b : UInt64) (hw : 2 ≤ w) :
    x.equalTo b = true ↔ x.val = b.toNat := by
  have hhi : (b >>> 32).toNat < 2 ^ 32 := toNat_high_lt b
  have hlow : (b &&& 0xffffffff).toNat < 2 ^ 32 := by
    rw [UInt64.toNat_and]
    exact lt_of_le_of_lt Nat.and_le_right (by decide)
  have hlowEq : (b &&& 0xffffffff).toUInt32 = b.toUInt32 := by
    rw [← UInt32.toNat_inj, UInt64.toNat_toUInt32, UInt64.toNat_toUInt32, UInt64.toNat_and,
      show (0xffffffff : UInt64).toNat = 2 ^ 32 - 1 from rfl, Nat.and_two_pow_sub_one_eq_mod,
      Nat.mod_mod]
  rw [← val_ofUInt64 b hw, val_eq_val_iff]
  simp only [equalTo, Bool.and_eq_true, List.all_eq_true, List.mem_range, Bool.or_eq_true,
    decide_eq_true_eq, toUInt64_eq_iff _ hhi, toUInt64_eq_iff _ hlow, hlowEq]
  constructor
  · -- the limbs from 2 up are zero, and limbs 1 and 0 are the halves of `b`
    rintro ⟨⟨hzero, h1⟩, h0⟩ i hi
    rw [get_ofUInt64 b hi]
    by_cases hi0 : i = 0
    · subst hi0
      simpa using h0
    · by_cases hi1 : i = 1
      · subst hi1
        simpa using h1
      · rw [if_neg hi0, if_neg hi1]
        exact (hzero i hi).resolve_left (by omega)
  · intro h
    refine ⟨⟨fun i hi => ?_, ?_⟩, ?_⟩
    · by_cases hi2 : i < 2
      · exact .inl hi2
      · rw [h i hi, get_ofUInt64 b hi, if_neg (by omega), if_neg (by omega)]
        exact .inr rfl
    · rw [h 1 (by omega), get_ofUInt64 b (by omega)]
      rfl
    · rw [h 0 (by omega), get_ofUInt64 b (by omega)]
      rfl

/-! ## `arith_uint256` refines `Word256` -/

/-- `+=` is `Word256.add`. -/
theorem val_add_eq_word (x b : ArithUint256) : (x.add b).val = Word256.add x.val b.val :=
  val_add x b

/-- `-=` is `Word256.sub`. -/
theorem val_sub_eq_word (x b : ArithUint256) : (x.sub b).val = Word256.sub x.val b.val := by
  rw [val_sub, Word256.sub, show Word256.modulus = 2 ^ (32 * 8) from rfl,
    Nat.mod_eq_of_lt (val_lt b)]

/-- `*=` is `Word256.mul`. -/
theorem val_mul_eq_word (x b : ArithUint256) : (x.mul b).val = Word256.mul x.val b.val :=
  val_mul x b

/-- `/=` is `Word256.div`, the throw on a zero divisor included. -/
theorem val_div_eq_word (x b : ArithUint256) : val <$> x.div b = Word256.div x.val b.val := by
  by_cases hb : b.val = 0
  · rw [div_of_val_eq_zero x b hb, hb, Word256.div_zero]
    rfl
  · rw [val_div x b hb, Word256.div_of_pos (Nat.pos_of_ne_zero hb)]

/-- **`Modulo256` over the limbs is `Modulo256` over `Word256`.** -/
theorem modulo256_refines (a n : ArithUint256) :
    val <$> a.modulo256 n = WormholeCore.modulo256 a.val n.val := by
  unfold modulo256 WormholeCore.modulo256
  rw [← val_div_eq_word]
  cases a.div n with
  | error e => rfl
  | ok q =>
    show Except.ok (a.sub (n.mul q)).val = Except.ok (Word256.sub a.val (Word256.mul n.val q.val))
    rw [val_sub_eq_word, val_mul_eq_word]

/-- **`DivideAndRoundUp` over the limbs is `DivideAndRoundUp` over `Word256`.** -/
theorem divideAndRoundUp_refines (numerator denominator : ArithUint256) :
    val <$> numerator.divideAndRoundUp denominator =
      WormholeCore.divideAndRoundUp numerator.val denominator.val := by
  have hone : (ofUInt64 1 : ArithUint256).val = 1 := val_ofUInt64 1 (by decide)
  unfold divideAndRoundUp WormholeCore.divideAndRoundUp
  by_cases h0 : numerator.val = 0
  · rw [if_pos ((equalTo_iff numerator 0 (by decide)).2 h0), if_pos h0]
    show Except.ok (ofUInt64 0 : ArithUint256).val = _
    rw [val_ofUInt64 0 (by decide)]
    rfl
  · rw [if_neg fun h => h0 ((equalTo_iff numerator 0 (by decide)).1 h), if_neg h0]
    -- `numerator - 1` is the same number on both sides; then so is the quotient
    have hsub : Word256.sub numerator.val 1 = (numerator.sub (ofUInt64 1)).val := by
      rw [val_sub_eq_word, hone]
    rw [hsub, ← val_div_eq_word]
    cases (numerator.sub (ofUInt64 1)).div denominator with
    | error e => rfl
    | ok q =>
      show Except.ok ((ofUInt64 1).add q).val = Except.ok (Word256.add 1 q.val)
      rw [val_add_eq_word, hone]

/-- **The helpers under the fixed-point code compute exactly**: `*` is the product modulo
`2^256`, `/` by a non-zero divisor the quotient, and for a non-zero modulus `Modulo256` is the
remainder and `DivideAndRoundUp` the rounded-up quotient. -/
theorem arith_uint256_div_mul_exact (a b n : ArithUint256) :
    (a.mul b).val = a.val * b.val % 2 ^ 256 ∧
      (b.val ≠ 0 → val <$> a.div b = .ok (a.val / b.val)) ∧
      (n.val ≠ 0 → val <$> a.modulo256 n = .ok (a.val % n.val) ∧
        val <$> a.divideAndRoundUp n = .ok (a.val ⌈/⌉ n.val)) := by
  refine ⟨val_mul a b, val_div a b, fun hn => ⟨?_, ?_⟩⟩
  · rw [modulo256_refines, modulo256_eq_mod (Nat.pos_of_ne_zero hn) (val_lt a)]
  · rw [divideAndRoundUp_refines, divideAndRoundUp_eq_ceilDiv (Nat.pos_of_ne_zero hn) (val_lt a)]

theorem arith_uint256_thousand_by_seven :
    val <$> (ofUInt64 1000 : ArithUint256).div (ofUInt64 7) = .ok 142 ∧
      val <$> (ofUInt64 1000 : ArithUint256).modulo256 (ofUInt64 7) = .ok 6 ∧
      val <$> (ofUInt64 1000 : ArithUint256).divideAndRoundUp (ofUInt64 7) = .ok 143 := by
  have h1000 : (ofUInt64 1000 : ArithUint256).val = 1000 := val_ofUInt64 1000 (by decide)
  have h7 : (ofUInt64 7 : ArithUint256).val = 7 := val_ofUInt64 7 (by decide)
  obtain ⟨-, hdiv, hmod⟩ := arith_uint256_div_mul_exact (ofUInt64 1000) (ofUInt64 7) (ofUInt64 7)
  rw [h1000, h7] at hdiv hmod
  exact ⟨hdiv (by decide), (hmod (by decide)).1, (hmod (by decide)).2⟩

end BaseUint

end WormholeCore
