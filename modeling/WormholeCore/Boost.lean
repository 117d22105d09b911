/-
# `WormholeCore.Boost` — the two Boost functions the node calls.

The readers of the state files (`input_msc_balances_string`, `input_mp_burn_bch`, …) and
`StrToInt64` call two functions of Boost, whose source is not part of the repository:

* `boost::algorithm::split(result, input, is_any_of(separators), token_compress_on)`;
* `boost::lexical_cast<T>(text)`, to `int64_t` and to the unsigned types `uint32_t`,
  `unsigned int` and `uint64_t`, which throws `boost::bad_lexical_cast` on a text it cannot read.

The model takes them as data, `Boost`: every definition that calls one takes a `Boost` and calls
it. What Boost documents of them is stated apart, as the hypotheses the theorems name:

* `Lib.Split.TokenCompress boost.split` — the split merges adjacent separators;
* `CastDocumented` — a cast reads a decimal numeral whose value the type holds as that value, and
  the cast to `int64_t` also one after a minus sign.

`Boost.standard` is one `Boost` with both (`standard_tokenCompress`, `standard_castDocumented`),
on which the witnesses run. Nothing here says that Boost is this code: every theorem holds for
each `Boost` with the documented behaviour it names.
-/
import WormholeCore.Basic
import WormholeCore.Lib.Split
import WormholeCore.Lib.Decimal

namespace WormholeCore

open Lib.Decimal

/-- **The Boost functions the node calls**, as data. -/
structure Boost where
  /-- `boost::algorithm::split(out, input, pred, token_compress_on)`, on the characters of a
  string -/
  split : (Char → Bool) → List Char → List (List Char)
  /-- `boost::lexical_cast<int64_t>`; `none` is a throw of `bad_lexical_cast` -/
  lexicalCastInt64 : List Char → Option Int
  /-- `boost::lexical_cast` to the unsigned type of `bits` bits -/
  lexicalCastUnsigned : Nat → List Char → Option Nat

namespace Boost

/-- **What Boost documents of `lexical_cast` to an integer type**: a decimal numeral whose value
the type holds reads as that value, and so does one after a minus sign for `int64_t`. -/
structure CastDocumented (boost : Boost) : Prop where
  int64_numeral : ∀ ds, IsNumeral ds → (value ds : Int) ≤ int64Max →
    boost.lexicalCastInt64 ds = some (value ds : Int)
  int64_neg : ∀ ds, IsNumeral ds → value ds ≤ 2 ^ 63 →
    boost.lexicalCastInt64 ('-' :: ds) = some (-(value ds : Int))
  unsigned_numeral : ∀ bits ds, IsNumeral ds → value ds < 2 ^ bits →
    boost.lexicalCastUnsigned bits ds = some (value ds)

/-! ## One `Boost` with the documented behaviour -/

/-- The cast to `int64_t` of `standard`: an optional sign, then a numeral whose value fits. -/
def standardCastInt64 : List Char → Option Int
  | '-' :: ds => if IsNumeral ds ∧ value ds ≤ 2 ^ 63 then some (-(value ds : Int)) else none
  | '+' :: ds => if IsNumeral ds ∧ (value ds : Int) ≤ int64Max then some (value ds : Int) else none
  | ds => if IsNumeral ds ∧ (value ds : Int) ≤ int64Max then some (value ds : Int) else none

/-- The cast to an unsigned type of `standard`: an optional sign, then a numeral whose value fits;
a minus sign wraps the value round. -/
def standardCastUnsigned (bits : Nat) : List Char → Option Nat
  | '-' :: ds => if IsNumeral ds ∧ value ds < 2 ^ bits then some ((2 ^ bits - value ds) % 2 ^ bits)
    else none
  | '+' :: ds => if IsNumeral ds ∧ value ds < 2 ^ bits then some (value ds) else none
  | ds => if IsNumeral ds ∧ value ds < 2 ^ bits then some (value ds) else none

/-- The split walk of `Lib.Split` and the two casts above. -/
def standard : Boost := ⟨Lib.Split.walk, standardCastInt64, standardCastUnsigned⟩

theorem standard_tokenCompress : Lib.Split.TokenCompress standard.split :=
  Lib.Split.tokenCompress_walk

/-- A numeral starts with a digit, so neither sign. -/
theorem numeral_head {ds : List Char} (h : IsNumeral ds) :
    ∃ c cs, ds = c :: cs ∧ c ≠ '-' ∧ c ≠ '+' := by
  obtain ⟨c, cs, rfl⟩ := List.exists_cons_of_ne_nil h.1
  have hc := h.2 c List.mem_cons_self
  refine ⟨c, cs, rfl, ?_, ?_⟩
  · rintro rfl
    exact absurd hc (by decide)
  · rintro rfl
    exact absurd hc (by decide)

theorem standard_castDocumented : standard.CastDocumented where
  int64_numeral ds h hmax := by
    obtain ⟨c, cs, rfl, hminus, hplus⟩ := numeral_head h
    show standardCastInt64 (c :: cs) = _
    unfold standardCastInt64
    split
    next heq => exact absurd (List.cons.inj heq).1 hminus
    next heq => exact absurd (List.cons.inj heq).1 hplus
    next => rw [if_pos ⟨h, hmax⟩]
  int64_neg ds h hmax := by
    show standardCastInt64 ('-' :: ds) = _
    rw [standardCastInt64, if_pos ⟨h, hmax⟩]
  unsigned_numeral bits ds h hmax := by
    obtain ⟨c, cs, rfl, hminus, hplus⟩ := numeral_head h
    show standardCastUnsigned bits (c :: cs) = _
    unfold standardCastUnsigned
    split
    next heq => exact absurd (List.cons.inj heq).1 hminus
    next heq => exact absurd (List.cons.inj heq).1 hplus
    next => rw [if_pos ⟨h, hmax⟩]

end Boost

end WormholeCore
