/-
# `WormholeCore.Crowd` — crowdsales (`CMPCrowd`, `calculateFundraiser`; sp.{h,cpp},
uint256_extensions.h).

A crowdsale (`CMPCrowd`) sells a property created by `CreatePropertyVariable` for WHC until its
deadline or until its `num_tokens` are sold. This module keeps:

* the helpers of uint256_extensions.h, with their asserts as `.error`: `ConvertTo256` (a negative
  number aborts), `ConvertTo64` (a number above `INT64_MAX` aborts), `Modulo256`,
  `DivideAndRoundUp`;
* `CMPSPInfo::Entry::isDivisible` and `getPrecision`;
* `CMPCrowd` with its counters and participation database;
* **`calculateFundraiser`**, statement by statement in `arith_uint256` arithmetic (`Lib.Word256`:
  wrapping `+ - *`, and a division that throws on zero).
-/
import WormholeCore.SpInfo
import WormholeCore.Lib.Word256
import WormholeCore.Lib.Except
import Mathlib.Algebra.Order.Floor.Div

namespace WormholeCore

open Lib

/-! ## uint256_extensions.h -/

/-- `ConvertTo256`: `assert(number >= 0)`. -/
def convertTo256 (number : Int) : Except String Nat :=
  if number < 0 then .error "ConvertTo256: assert(number >= 0)" else .ok number.toNat

/-- `ConvertTo64`: `assert(number <= max_int64)`. -/
def convertTo64 (number : Nat) : Except String Int :=
  if int64Max < number then .error "ConvertTo64: assert(number <= max_int64)" else .ok number

/-- `Modulo256(a, n) = a - n * (a / n)`. -/
def modulo256 (a n : Nat) : Except String Nat := do
  let q ← Word256.div a n
  pure (Word256.sub a (Word256.mul n q))

/-- `DivideAndRoundUp`: `0` for a zero numerator, else `1 + (numerator - 1) / denominator`. -/
def divideAndRoundUp (numerator denominator : Nat) : Except String Nat :=
  if numerator = 0 then .ok 0
  else do
    let q ← Word256.div (Word256.sub numerator 1) denominator
    pure (Word256.add 1 q)

theorem convertTo256_error {number : Int} {e : String} (h : convertTo256 number = .error e) :
    e = "ConvertTo256: assert(number >= 0)" := by
  unfold convertTo256 at h
  split at h
  · cases h
    rfl
  · cases h

theorem convertTo64_error {number : Nat} {e : String} (h : convertTo64 number = .error e) :
    e = "ConvertTo64: assert(number <= max_int64)" := by
  unfold convertTo64 at h
  split at h
  · cases h
    rfl
  · cases h

theorem convertTo256_of_nonneg {number : Int} (h : 0 ≤ number) :
    convertTo256 number = .ok number.toNat := by
  simp [convertTo256, not_lt.mpr h]

theorem convertTo64_of_le {number : Nat} (h : (number : Int) ≤ int64Max) :
    convertTo64 number = .ok number := by
  simp [convertTo64, not_lt.mpr h]

theorem divideAndRoundUp_error {numerator denominator : Nat} {e : String}
    (h : divideAndRoundUp numerator denominator = .error e) : e = "Division by zero" := by
  unfold divideAndRoundUp at h
  split at h
  · cases h
  · simp only [Except.bind_eq_error] at h
    rcases h with h | ⟨_, -, h⟩
    · exact Word256.div_error h
    · simp [pure, Except.pure] at h

/-- **`Modulo256` is the remainder** for a non-zero modulus and a number below `2^256`:
`n * (a / n)` is at most `a`, so neither the product nor the difference wraps. -/
theorem modulo256_eq_mod {a n : Nat} (hn : 0 < n) (ha : a < Word256.modulus) :
    modulo256 a n = .ok (a % n) := by
  have hle : n * (a / n) ≤ a := Nat.mul_div_le a n
  unfold modulo256
  rw [Word256.div_of_pos hn]
  show Except.ok (Word256.sub a (Word256.mul n (a / n))) = _
  rw [Word256.mul_of_lt (by omega), Word256.sub_of_le ha hle, Nat.mod_eq_sub_mul_div]

/-- **`DivideAndRoundUp` is the rounded-up quotient** for a non-zero denominator and a numerator
below `2^256`: `1 + (n - 1) / d` neither wraps nor differs from `⌈n / d⌉`. -/
theorem divideAndRoundUp_eq_ceilDiv {numerator denominator : Nat} (hd : 0 < denominator)
    (hn : numerator < Word256.modulus) :
    divideAndRoundUp numerator denominator = .ok (numerator ⌈/⌉ denominator) := by
  unfold divideAndRoundUp
  split
  · rename_i h0
    rw [h0, zero_ceilDiv]
  · rename_i h0
    have hq : (numerator - 1) / denominator < numerator :=
      lt_of_le_of_lt (Nat.div_le_self _ _) (by omega)
    have hceil : numerator ⌈/⌉ denominator = 1 + (numerator - 1) / denominator := by
      rw [Nat.ceilDiv_eq_add_pred_div, show numerator + denominator - 1 = numerator - 1 + denominator
        by omega, Nat.add_div_right _ hd]
      omega
    rw [Word256.sub_of_le hn (by omega), Word256.div_of_pos hd, hceil]
    exact congrArg Except.ok (Word256.add_of_lt (by omega))

/-! ## Precision of a property -/

/-- `MSC_PROPERTY_TYPE_INDIVISIBLE`. -/
def mscPropertyTypeIndivisible : Nat := 0

/-- `Entry::isDivisible`. -/
def CMPSPInfo.Entry.isDivisible (e : CMPSPInfo.Entry) : Bool := e.propType != mscPropertyTypeIndivisible

/-- `Entry::getPrecision`: `0` for an indivisible property, `prop_type` in `[1, 8]`, else `-1`. -/
def CMPSPInfo.Entry.getPrecision (e : CMPSPInfo.Entry) : Int :=
  if e.isDivisible then
    if 1 ≤ e.propType ∧ e.propType ≤ 8 then e.propType else -1
  else 0

/-! ## Crowdsales -/

/-- **`CMPCrowd`** — an active crowdsale. -/
structure CMPCrowd where
  propertyId : PropertyId
  nValue : Int
  propertyDesired : PropertyId
  deadline : Int
  earlyBird : Nat
  percentage : Nat
  uCreated : Int
  iCreated : Int
  /-- Per purchase: amount invested, block time, user tokens, issuer tokens. -/
  txFundraiserData : OrdMap Uint256 (List Int)
deriving DecidableEq

namespace CMPCrowd

/-- `incTokensUserCreated`. -/
def incTokensUserCreated (c : CMPCrowd) (amount : Int) : CMPCrowd := { c with uCreated := c.uCreated + amount }

/-- `incTokensIssuerCreated`. -/
def incTokensIssuerCreated (c : CMPCrowd) (amount : Int) : CMPCrowd :=
  { c with iCreated := c.iCreated + amount }

/-- `insertDatabase`: `std::map::insert`, which keeps an existing entry. -/
def insertDatabase (c : CMPCrowd) (txHash : Uint256) (txData : List Int) : CMPCrowd :=
  if c.txFundraiserData.contains txHash then c
  else { c with txFundraiserData := c.txFundraiserData.insert txHash txData }

end CMPCrowd

/-! ## The fundraiser arithmetic -/

/-- `decimalArr[tokenPrecision]`. -/
def decimalArr (tokenPrecision : Nat) : Nat := 10 ^ tokenPrecision

/-- The part of `calculateFundraiser` after the bonus: the tokens bought, whether the sale closes,
and the refund, against the `maxCreatable` tokens left. `transfer` and `price` are already
converted to words (the source converts them again, to the same values). -/
def fundraiserOutcome (tokenPrec transfer price bonusPercentage createdTokensCal createdTokensInt
    maxCreatable : Nat) : Except String (Int × Bool × Int) := do
  let precision := 1000000000000
  let whcPrecision := 100000000
  if createdTokensInt < maxCreatable then
    let purchasedTokens ← convertTo64 createdTokensInt
    -- the part below the smallest token unit is refunded, without its bonus
    let createdTokensRem := Word256.sub createdTokensCal
      (Word256.mul (Word256.mul createdTokensInt precision) whcPrecision)
    let r := Word256.mul (Word256.mul createdTokensRem whcPrecision) precision
    let r ← Word256.div r bonusPercentage
    let r ← Word256.div r price
    let r ← Word256.div r tokenPrec
    let r ← Word256.div r precision
    let refund ← convertTo64 r
    pure (purchasedTokens, false, refund)
  else
    -- the sale is exhausted: sell what is left and refund the unspent part
    let purchasedTokens ← convertTo64 maxCreatable
    let ratio ← Word256.div (Word256.mul createdTokensInt precision) maxCreatable
    let spent ← Word256.div (Word256.mul transfer precision) ratio
    let refund ← convertTo64 (Word256.sub transfer spent)
    pure (purchasedTokens, true, refund)

/-- **`calculateFundraiser`**: the tokens `transfer` buys, whether the sale closes, and the
refund, as `(purchasedTokens, closeCrowdsale, refund)`; an assert or a division by zero is an
`.error`. -/
def calculateFundraiser (tokenPrecision : Nat) (transfer : Int) (bonusPerc : Nat)
    (closeSeconds currentSeconds price soldTokens totalTokens : Int) :
    Except String (Int × Bool × Int) := do
  let weekSec := 604800
  let precision := 1000000000000
  let percentagePrecision := 100
  let whcPrecision := 100000000
  if 8 < tokenPrecision then throw "calculateFundraiser: assert(tokenPrecision <= 8)"
  let tokenPrec := decimalArr tokenPrecision
  let bonusSeconds ← if currentSeconds < closeSeconds then do
      pure (Word256.sub (← convertTo256 closeSeconds) (← convertTo256 currentSeconds))
    else pure 0
  -- the number of weeks of bonus, with twelve decimals
  let w ← Word256.div bonusSeconds weekSec
  let m ← modulo256 bonusSeconds weekSec
  let f ← Word256.div (Word256.mul m precision) weekSec
  let weeks := Word256.add (Word256.mul w precision) f
  let earlybirdPercentage := Word256.mul weeks (← convertTo256 bonusPerc)
  let bonusPercentage ←
    Word256.div (Word256.add (Word256.mul precision percentagePrecision) earlybirdPercentage)
      percentagePrecision
  let transfer256 ← convertTo256 transfer
  let price256 ← convertTo256 price
  let c := Word256.mul (Word256.mul (Word256.mul tokenPrec transfer256) bonusPercentage) price256
  let createdTokensCal ← Word256.div c whcPrecision
  let createdTokensInt ← Word256.div createdTokensCal precision
  let createdTokensInt ← Word256.div createdTokensInt whcPrecision
  let maxCreatable := Word256.sub (← convertTo256 totalTokens) (← convertTo256 soldTokens)
  -- the smallest number of tokens worth one unit of WHC
  let minNum ← Word256.div (Word256.mul (Word256.mul price256 precision) tokenPrec) whcPrecision
  let minNum ← Word256.div minNum whcPrecision
  if Word256.mul maxCreatable precision < minNum then
    pure (0, true, transfer)
  else
    fundraiserOutcome tokenPrec transfer256 price256 bonusPercentage createdTokensCal createdTokensInt
      maxCreatable

/-- **A purchase that pays nothing and gets a token.** One unit of WHC, a week before the deadline
with a `100%` weekly bonus, buys into a sale of precision `8` at `MAX_TOKENPRICE` with `10^8` units
left: the bonus doubles the tokens created, the sale is exhausted, and the over-subscription branch
computes `spent = transfer * 10^12 / ratio = 0`. The buyer gets the `10^8` units and the whole unit
back. -/
theorem calculateFundraiser_grants_tokens_for_nothing :
    calculateFundraiser 8 1 100 604800 0 maxTokenPrice 0 100000000 = .ok (100000000, true, 1) := by
  decide

end WormholeCore
