/-
# `WormholeCore.Amount` — amounts as text (`StrToInt64`, parse_string.cpp; `FormatDivisibleMP`,
`FormatDivisibleShortMP`, `FormatIndivisibleMP`, omnicore.cpp).

An amount of a divisible property is printed as `quotient.remainder`, the remainder padded to
`decimal` digits (`FormatDivisibleMP`), or with its trailing zeros and then a trailing point
stripped (`FormatDivisibleShortMP`); an indivisible amount is printed as it is
(`FormatIndivisibleMP`). `StrToInt64` reads such a string back in units of `10^-decimal`: it pads
the decimals with zeros to `decimal` digits, drops the point, and hands the digits to
`boost::lexical_cast<int64_t>`, which the model takes from a `Boost`; whatever it cannot read is `0`.
The theorems hold for every `Boost` whose cast reads a decimal numeral as Boost documents
(`Boost.CastDocumented`).

Strings are lists of characters. `decimal` is a natural number: the code indexes the nine-entry
tables `{"", "0", …, "00000000"}` and `{1, 10, …, 100000000}` with it, so only `0..8` mean
anything, and the model writes `decimal` zeros and `10^decimal` for the entries.

## What is proved here

* `strToInt64_numeral` — a numeral without a point reads as its value times `10^decimal`;
* `strToInt64_point` — a numeral with one point and at most `decimal` decimals reads as its
  digits with the decimals padded to `decimal`;
* `formatDivisibleMP_eq`, `formatDivisibleShortMP_eq` — the two printed forms, as a quotient, a
  point and the (stripped) remainder;
* `amount_string_round_trip` — reading back any of the three printed forms of an amount in
  `[0, INT64_MAX]` gives the amount, for every precision `1..8`.
-/
import WormholeCore.Boost

namespace WormholeCore

open Lib.Decimal

/-! ## Reading -/

section Reading

variable (boost : Boost)

/-- The cast of `StrToInt64` once the point is dropped; a throw leaves `nAmount` at `0`. -/
def castAmount (strAmount : List Char) : Int :=
  (boost.lexicalCastInt64 (strAmount.filter (· != '.'))).getD 0

/-- **`mastercore::StrToInt64`**: the amount a string denotes, in units of `10^-decimal`. -/
def strToInt64 (str : List Char) (decimal : Nat) : Int :=
  -- a minus sign anywhere invalidates the amount
  if '-' ∈ str then 0
  else if decimal ≠ 0 then
    match str.idxOf? '.' with
    -- no decimal point but divisible: pad `decimal` zeros on the right
    | none => castAmount boost (str ++ List.replicate decimal '0')
    | some pos =>
      -- a second point, or more than `decimal` decimals, invalidates the amount
      if '.' ∈ str.drop (pos + 1) then 0
      else if decimal + 1 < str.length - pos then 0
      else if str.length - pos < decimal + 1 then
        castAmount boost (str ++ List.replicate (decimal - (str.drop (pos + 1)).length) '0')
      else castAmount boost (str.take (pos + decimal + 1))
  else
    -- indivisible: whatever follows a point is ignored
    let newStrAmount := match str.idxOf? '.' with
      | none => str
      | some pos => str.take pos
    (boost.lexicalCastInt64 newStrAmount).getD 0

end Reading

/-! ## Printing -/

/-- The `switch` that `FormatDivisibleMP` and `FormatDivisibleShortMP` share:
`strprintf("%d.%0<decimal>d", quotient, remainder)` of `|n|` for `decimal` in `1..8`; any other
`decimal` matches no case and leaves the string empty. -/
def divisibleDigits (n : Int) (decimal : Nat) : List Char :=
  let quotient := n.natAbs / 10 ^ decimal
  let remainder := n.natAbs % 10 ^ decimal
  if 1 ≤ decimal ∧ decimal ≤ 8 then
    Nat.toDigits 10 quotient ++ '.' :: (Nat.toDigits 10 remainder).leftpad decimal '0'
  else []

/-- **`FormatDivisibleMP`**: the amount with `decimal` digits after the point, and a sign when
`fSign` asks for one. -/
def formatDivisibleMP (n : Int) (decimal : Nat) (fSign : Bool) : List Char :=
  let str := divisibleDigits n decimal
  if !fSign then str
  else if n < 0 then '-' :: str
  else '+' :: str

/-- **`FormatDivisibleShortMP`**: the amount without trailing zeros, and without a trailing
point. -/
def formatDivisibleShortMP (n : Int) (decimal : Nat) : List Char :=
  -- `str.erase(str.find_last_not_of('0') + 1, npos)`
  let str := (divisibleDigits n decimal).rdropWhile (· == '0')
  if str.getLast? = some '.' then str.dropLast else str

/-- **`FormatIndivisibleMP`**: `strprintf("%d", n)`. -/
def formatIndivisibleMP (n : Int) : List Char :=
  if n < 0 then '-' :: Nat.toDigits 10 n.natAbs else Nat.toDigits 10 n.natAbs

/-! ## Reading a numeral back -/

/-- A character that is not a digit is not in a numeral. -/
theorem not_mem_of_isDigit {l : List Char} (hl : ∀ c ∈ l, c.isDigit = true) {c : Char}
    (hc : c.isDigit = false) : c ∉ l :=
  fun h => absurd (hl c h) (by rw [hc]; exact Bool.false_ne_true)

/-- Dropping the point of `w ++ '.' :: m`, for digits on either side. -/
theorem filter_point {w m : List Char} (hw : ∀ c ∈ w, c.isDigit = true)
    (hm : ∀ c ∈ m, c.isDigit = true) : (w ++ '.' :: m).filter (· != '.') = w ++ m := by
  have hdigits : ∀ l : List Char, (∀ c ∈ l, c.isDigit = true) → l.filter (· != '.') = l := by
    intro l hl
    rw [List.filter_eq_self]
    intro c hc
    have : c ≠ '.' := fun h => absurd (hl c hc) (by rw [h]; decide)
    simpa using this
  rw [List.filter_append, List.filter_cons, if_neg (by simp), hdigits w hw, hdigits m hm]

/-- **A numeral without a point** reads as its value in units of `10^-decimal`. -/
theorem strToInt64_numeral {boost : Boost} (hcast : boost.CastDocumented) {w : List Char}
    (hw : IsNumeral w) (decimal : Nat) (hmax : ((value w * 10 ^ decimal : Nat) : Int) ≤ int64Max) :
    strToInt64 boost w decimal = (value w * 10 ^ decimal : Nat) := by
  have hminus : '-' ∉ w := not_mem_of_isDigit hw.2 (by decide)
  have hpoint : w.idxOf? '.' = none := List.idxOf?_eq_none_iff.2 (not_mem_of_isDigit hw.2 (by decide))
  unfold strToInt64
  rw [if_neg hminus]
  by_cases hd : decimal = 0
  · -- indivisible: the whole string is cast
    subst hd
    rw [if_neg (not_not_intro rfl), hpoint]
    simp only [pow_zero, Nat.mul_one] at hmax ⊢
    rw [hcast.int64_numeral w hw hmax, Option.getD_some]
  · -- divisible: `decimal` zeros are padded on the right
    rw [if_pos hd, hpoint]
    dsimp only
    have hpadded : IsNumeral (w ++ List.replicate decimal '0') :=
      hw.append fun _ => isDigit_of_mem_replicate
    rw [castAmount, List.filter_eq_self.2, hcast.int64_numeral _ hpadded, value_append_zeros,
      Option.getD_some]
    · rwa [value_append_zeros]
    · intro c hc
      have : c ≠ '.' := fun h => absurd (hpadded.2 c hc) (by rw [h]; decide)
      simpa using this

/-- **A numeral with a point and at most `decimal` decimals** reads as its digits, the decimals
padded with zeros to `decimal`. -/
theorem strToInt64_point {boost : Boost} (hcast : boost.CastDocumented) {w frac : List Char}
    (hw : IsNumeral w)
    (hfrac : ∀ c ∈ frac, c.isDigit = true) {decimal : Nat} (hd : 0 < decimal)
    (hlen : frac.length ≤ decimal)
    (hmax : ((value (w ++ frac ++ List.replicate (decimal - frac.length) '0') : Nat) : Int) ≤
      int64Max) :
    strToInt64 boost (w ++ '.' :: frac) decimal =
      (value (w ++ frac ++ List.replicate (decimal - frac.length) '0') : Nat) := by
  have hwpoint : '.' ∉ w := not_mem_of_isDigit hw.2 (by decide)
  have hfpoint : '.' ∉ frac := not_mem_of_isDigit hfrac (by decide)
  have hminus : '-' ∉ w ++ '.' :: frac := by
    simp only [List.mem_append, List.mem_cons, not_or]
    exact ⟨not_mem_of_isDigit hw.2 (by decide), by decide, not_mem_of_isDigit hfrac (by decide)⟩
  -- whichever branch reads it, the string cast is the one with the decimals padded
  have hpadded : IsNumeral (w ++ frac ++ List.replicate (decimal - frac.length) '0') :=
    (hw.append hfrac).append fun _ => isDigit_of_mem_replicate
  have hcastPadded : castAmount boost (w ++ '.' :: (frac ++ List.replicate (decimal - frac.length) '0')) =
      (value (w ++ frac ++ List.replicate (decimal - frac.length) '0') : Nat) := by
    have hdigits : ∀ c ∈ frac ++ List.replicate (decimal - frac.length) '0', c.isDigit = true := by
      intro c hc
      rcases List.mem_append.1 hc with h | h
      · exact hfrac c h
      · exact isDigit_of_mem_replicate h
    rw [castAmount, filter_point hw.2 hdigits, ← List.append_assoc,
      hcast.int64_numeral _ hpadded hmax, Option.getD_some]
  unfold strToInt64
  rw [if_neg hminus, if_pos hd.ne', idxOf?_append_cons hwpoint]
  dsimp only
  have hdrop : (w ++ '.' :: frac).drop (w.length + 1) = frac := by
    simp [List.drop_append]
  have hsize : (w ++ '.' :: frac).length - w.length = frac.length + 1 := by
    simp only [List.length_append, List.length_cons]
    omega
  rw [hdrop, if_neg hfpoint, hsize, if_neg (by omega)]
  by_cases hlt : frac.length < decimal
  · -- too few decimals: zeros are padded
    rw [if_pos (by omega), List.append_assoc, List.cons_append]
    exact hcastPadded
  · -- exactly `decimal` decimals: the string is kept whole
    have hzero : decimal - frac.length = 0 := by omega
    rw [if_neg (by omega), List.take_of_length_le (by simp; omega)]
    simpa only [hzero, List.replicate_zero, List.append_nil] using hcastPadded

/-! ## The printed forms -/

theorem divisibleDigits_eq (n : Int) {decimal : Nat} (hd : 1 ≤ decimal ∧ decimal ≤ 8) :
    divisibleDigits n decimal = Nat.toDigits 10 (n.natAbs / 10 ^ decimal) ++ '.' ::
      (Nat.toDigits 10 (n.natAbs % 10 ^ decimal)).leftpad decimal '0' := by
  rw [divisibleDigits, if_pos hd]

/-- The printed digits, the point left out, are the amount. -/
theorem value_divisibleDigits (m : Nat) {decimal : Nat} (hd : 0 < decimal) :
    value (Nat.toDigits 10 (m / 10 ^ decimal) ++
      (Nat.toDigits 10 (m % 10 ^ decimal)).leftpad decimal '0') = m := by
  rw [value_append, length_leftpad_toDigits hd (Nat.mod_lt _ (by positivity)), value_leftpad_zero,
    value_toDigits, value_toDigits]
  exact Nat.div_add_mod' m (10 ^ decimal)

/-- **The short form** is the quotient, then, unless the padded remainder is all zeros, a point and
the padded remainder without its trailing zeros. -/
theorem formatDivisibleShortMP_eq (n : Int) {decimal : Nat} (hd : 1 ≤ decimal ∧ decimal ≤ 8) :
    ∃ frac k, (Nat.toDigits 10 (n.natAbs % 10 ^ decimal)).leftpad decimal '0' =
        frac ++ List.replicate k '0' ∧
      formatDivisibleShortMP n decimal =
        if frac = [] then Nat.toDigits 10 (n.natAbs / 10 ^ decimal)
        else Nat.toDigits 10 (n.natAbs / 10 ^ decimal) ++ '.' :: frac := by
  obtain ⟨k, hk⟩ := rdropWhile_eq_append_zeros
    ((Nat.toDigits 10 (n.natAbs % 10 ^ decimal)).leftpad decimal '0')
  refine ⟨_, k, hk, ?_⟩
  have hdigits : ∀ c ∈ (Nat.toDigits 10 (n.natAbs % 10 ^ decimal)).leftpad decimal '0',
      c.isDigit = true := fun _ => isDigit_of_mem_leftpad fun _ => isDigit_of_mem_toDigits
  rw [formatDivisibleShortMP, divisibleDigits_eq n hd, ← List.singleton_append,
    ← List.append_assoc]
  by_cases hnil : ((Nat.toDigits 10 (n.natAbs % 10 ^ decimal)).leftpad decimal '0').rdropWhile
      (· == '0') = []
  · -- the remainder is all zeros: stripping reaches the point, which goes too
    rw [if_pos hnil, rdropWhile_append_of_all _ _ _ (List.rdropWhile_eq_nil_iff.1 hnil),
      List.rdropWhile_concat_neg _ _ _ (by decide), List.getLast?_concat, if_pos rfl,
      List.dropLast_concat]
  · -- a non-zero digit stays last
    rw [if_neg hnil, rdropWhile_append_of_ne_nil _ _ _ hnil, List.getLast?_append_of_ne_nil _ hnil]
    have hlast : (((Nat.toDigits 10 (n.natAbs % 10 ^ decimal)).leftpad decimal '0').rdropWhile
        (· == '0')).getLast? ≠ some '.' := by
      intro h
      have hmem := (List.rdropWhile_prefix _ _).subset (List.mem_of_getLast? h)
      exact absurd (hdigits _ hmem) (by decide)
    rw [if_neg hlast, List.append_assoc, List.singleton_append]

-- `1.50000000` loses its zeros, `1.00000000` its point too
example : formatDivisibleShortMP 150000000 8 = ['1', '.', '5'] ∧
    formatDivisibleShortMP 100000000 8 = ['1'] := by
  decide

/-! ## Printing and reading back -/

/-- **Reading back a printed amount gives the amount.** For every `n` in `[0, INT64_MAX]` and every
precision `decimal` in `1..8`, `StrToInt64` reads `FormatDivisibleMP(n, decimal)` and
`FormatDivisibleShortMP(n, decimal)` back as `n`, and it reads `FormatIndivisibleMP(n)` back as
`n` with precision `0`. -/
theorem amount_string_round_trip (boost : Boost) (hcast : boost.CastDocumented) (n : Int)
    (hn : 0 ≤ n) (hmax : n ≤ int64Max) :
    (∀ decimal, 1 ≤ decimal → decimal ≤ 8 →
      strToInt64 boost (formatDivisibleMP n decimal false) decimal = n ∧
        strToInt64 boost (formatDivisibleShortMP n decimal) decimal = n) ∧
      strToInt64 boost (formatIndivisibleMP n) 0 = n := by
  obtain ⟨m, rfl⟩ := Int.eq_ofNat_of_zero_le hn
  have hm : ((m : Nat) : Int).natAbs = m := by simp
  refine ⟨fun decimal h1 h8 => ⟨?full, ?short⟩, ?indivisible⟩
  case full =>
    -- the quotient, the point, and `decimal` digits of remainder, none of them to pad
    have hlen := length_leftpad_toDigits (n := m % 10 ^ decimal) (by omega)
      (Nat.mod_lt _ (by positivity))
    have hvalue : value (Nat.toDigits 10 (m / 10 ^ decimal) ++
        (Nat.toDigits 10 (m % 10 ^ decimal)).leftpad decimal '0' ++
        List.replicate (decimal - ((Nat.toDigits 10 (m % 10 ^ decimal)).leftpad decimal '0').length)
          '0') = m := by
      rw [hlen, Nat.sub_self, List.replicate_zero, List.append_nil]
      exact value_divisibleDigits m (by omega)
    rw [formatDivisibleMP, Bool.not_false, if_pos rfl, divisibleDigits_eq _ ⟨h1, h8⟩, hm,
      strToInt64_point hcast (isNumeral_toDigits _) (fun _ => isDigit_of_mem_leftpad
        fun _ => isDigit_of_mem_toDigits) (by omega) hlen.le (by rw [hvalue]; exact hmax), hvalue]
  case short =>
    obtain ⟨frac, k, hpad, hshort⟩ := formatDivisibleShortMP_eq (m : Int) ⟨h1, h8⟩
    rw [hm] at hpad hshort
    have hlen := length_leftpad_toDigits (n := m % 10 ^ decimal) (by omega)
      (Nat.mod_lt _ (by positivity))
    have hvalue := value_divisibleDigits m (show 0 < decimal by omega)
    rw [hpad] at hlen hvalue
    rw [List.length_append, List.length_replicate] at hlen
    rw [hshort]
    by_cases hfrac : frac = []
    · -- no decimals left: the quotient alone, padded back with `decimal` zeros
      subst hfrac
      rw [List.length_nil, Nat.zero_add] at hlen
      have hq : value (Nat.toDigits 10 (m / 10 ^ decimal)) * 10 ^ decimal = m := by
        have hzeros := value_append_zeros (Nat.toDigits 10 (m / 10 ^ decimal)) k
        rw [← List.nil_append (List.replicate k '0'), hvalue, hlen] at hzeros
        exact hzeros.symm
      rw [if_pos rfl, strToInt64_numeral hcast (isNumeral_toDigits _) decimal (by rw [hq]; exact hmax),
        hq]
    · -- some decimals left: padded back with the `k` zeros the short form dropped
      have hk : decimal - frac.length = k := by omega
      have hfracDigits : ∀ c ∈ frac, c.isDigit = true := fun c hc =>
        isDigit_of_mem_leftpad (fun _ => isDigit_of_mem_toDigits)
          (hpad ▸ List.mem_append_left _ hc)
      have hpadded : value (Nat.toDigits 10 (m / 10 ^ decimal) ++ frac ++
          List.replicate (decimal - frac.length) '0') = m := by
        rw [hk, List.append_assoc, hvalue]
      rw [if_neg hfrac, strToInt64_point hcast (isNumeral_toDigits _) hfracDigits (by omega) (by omega)
        (by rw [hpadded]; exact hmax), hpadded]
  case indivisible =>
    -- the digits of `n` as they are
    have hq : value (Nat.toDigits 10 m) * 10 ^ 0 = m := by
      rw [pow_zero, Nat.mul_one, value_toDigits]
    rw [formatIndivisibleMP, if_neg (by omega), hm,
      strToInt64_numeral hcast (isNumeral_toDigits m) 0 (by rw [hq]; exact hmax), hq]

/-- The largest amount, at every precision, read with the casts of `Boost.standard`. -/
theorem int64Max_amount_round_trip :
    (∀ decimal, 1 ≤ decimal → decimal ≤ 8 →
      strToInt64 Boost.standard (formatDivisibleMP int64Max decimal false) decimal = int64Max ∧
        strToInt64 Boost.standard (formatDivisibleShortMP int64Max decimal) decimal = int64Max) ∧
      strToInt64 Boost.standard (formatIndivisibleMP int64Max) 0 = int64Max :=
  amount_string_round_trip Boost.standard Boost.standard_castDocumented int64Max (by decide) le_rfl

end WormholeCore
