/-
# `WormholeCore.Lib.Decimal` — decimal numerals as lists of characters.

A numeral is a non-empty list of the characters `0`–`9`, most significant digit first; its value is
`Nat.ofDigitChars 10`. A program that prints an amount with a decimal point and reads it back moves
digits around: it pads on the left (`%08d`), pads or strips zeros on the right, and drops the
point. What reading back needs is collected here:

* `value_append` — the value of a concatenation, and from it the value of zero padding on either
  side (`value_append_zeros`, `value_leftpad_zero`);
* `value_toDigits`, `isNumeral_toDigits`, `length_toDigits_le` — what `Nat.toDigits` writes;
* `rdropWhile_eq_append_zeros`, `rdropWhile_append_of_ne_nil` — stripping trailing zeros leaves a
  prefix followed only by zeros, and does not reach past a suffix that keeps a non-zero;
* `idxOf?_append_cons` — the first point of a numeral with a point.

Nothing here names the program being verified.
-/
import Mathlib.Data.List.DropRight
import Mathlib.Data.Nat.Digits.Defs

namespace WormholeCore.Lib

namespace Decimal

/-- The value of a list of digit characters, most significant first. -/
def value (l : List Char) : Nat := Nat.ofDigitChars 10 l 0

/-- A numeral: a non-empty list of decimal digits. -/
def IsNumeral (l : List Char) : Prop := l ≠ [] ∧ ∀ c ∈ l, c.isDigit = true

instance : DecidablePred IsNumeral := fun _ => inferInstanceAs (Decidable (_ ∧ _))

/-! ## Values -/

/-- Reading on from a value already read shifts it by the length of what follows. -/
theorem ofDigitChars_ten (l : List Char) (init : Nat) :
    Nat.ofDigitChars 10 l init = init * 10 ^ l.length + value l := by
  induction l generalizing init with
  | nil => simp [value, Nat.ofDigitChars_nil]
  | cons c cs ih =>
    -- both sides read `c` first: the one from `init`, the other from `0`
    rw [Nat.ofDigitChars_cons, value, Nat.ofDigitChars_cons, ih, ih, List.length_cons]
    ring

theorem value_append (l m : List Char) : value (l ++ m) = value l * 10 ^ m.length + value m := by
  rw [value, Nat.ofDigitChars_append, ofDigitChars_ten]
  rfl

@[simp] theorem value_replicate_zero (k : Nat) : value (List.replicate k '0') = 0 := by
  simp [value, Nat.ofDigitChars_replicate_zero]

/-- Zeros on the right multiply by ten each. -/
theorem value_append_zeros (l : List Char) (k : Nat) :
    value (l ++ List.replicate k '0') = value l * 10 ^ k := by
  rw [value_append, value_replicate_zero, List.length_replicate, Nat.add_zero]

/-- Zeros on the left do not count. -/
@[simp] theorem value_leftpad_zero (k : Nat) (l : List Char) : value (l.leftpad k '0') = value l := by
  rw [List.leftpad, value_append, value_replicate_zero, Nat.zero_mul, Nat.zero_add]

theorem IsNumeral.append {l m : List Char} (hl : IsNumeral l) (hm : ∀ c ∈ m, c.isDigit = true) :
    IsNumeral (l ++ m) := by
  refine ⟨by simp [hl.1], fun c hc => ?_⟩
  rcases List.mem_append.1 hc with h | h
  · exact hl.2 c h
  · exact hm c h

theorem isDigit_of_mem_replicate {k : Nat} {c : Char} (h : c ∈ List.replicate k '0') :
    c.isDigit = true := by
  rw [List.eq_of_mem_replicate h]
  decide

/-! ## What `Nat.toDigits` writes -/

@[simp] theorem value_toDigits (n : Nat) : value (Nat.toDigits 10 n) = n :=
  Nat.ofDigitChars_ten_toDigits

theorem isDigit_of_mem_toDigits {n : Nat} {c : Char} (h : c ∈ Nat.toDigits 10 n) :
    c.isDigit = true :=
  Nat.isDigit_of_mem_toDigits (by decide) (by decide) h

theorem isNumeral_toDigits (n : Nat) : IsNumeral (Nat.toDigits 10 n) :=
  ⟨Nat.toDigits_ne_nil, fun _ => isDigit_of_mem_toDigits⟩

theorem length_toDigits_le {n k : Nat} (hk : 0 < k) (h : n < 10 ^ k) :
    (Nat.toDigits 10 n).length ≤ k :=
  (Nat.length_toDigits_le_iff (by decide) hk).2 h

theorem isDigit_of_mem_leftpad {k : Nat} {l : List Char} (hl : ∀ c ∈ l, c.isDigit = true)
    {c : Char} (h : c ∈ l.leftpad k '0') : c.isDigit = true := by
  rw [List.leftpad] at h
  rcases List.mem_append.1 h with h | h
  · exact isDigit_of_mem_replicate h
  · exact hl c h

/-- Printing `n` padded to a width it fits in takes exactly that width. -/
theorem length_leftpad_toDigits {n k : Nat} (hk : 0 < k) (h : n < 10 ^ k) :
    ((Nat.toDigits 10 n).leftpad k '0').length = k := by
  rw [List.length_leftpad]
  exact max_eq_left (length_toDigits_le hk h)

/-! ## Stripping trailing zeros -/

/-- What stripping trailing zeros removes is zeros. -/
theorem rdropWhile_eq_append_zeros (l : List Char) :
    ∃ k, l = l.rdropWhile (· == '0') ++ List.replicate k '0' := by
  refine ⟨(l.rtakeWhile (· == '0')).length, ?_⟩
  have hzeros : l.rtakeWhile (· == '0') =
      List.replicate (l.rtakeWhile (· == '0')).length '0' :=
    List.eq_replicate_iff.2 ⟨rfl, fun c hc => by simpa using List.mem_rtakeWhile_imp hc⟩
  rw [← hzeros, List.rdropWhile_append_rtakeWhile]

/-- Stripping from the right stops inside a suffix that keeps something. -/
theorem rdropWhile_append_of_ne_nil {α : Type} (p : α → Bool) (l m : List α)
    (h : m.rdropWhile p ≠ []) : (l ++ m).rdropWhile p = l ++ m.rdropWhile p := by
  have hd : (m.reverse.dropWhile p).isEmpty = false := by
    rw [List.isEmpty_eq_false_iff]
    intro hnil
    exact h (by rw [List.rdropWhile, hnil, List.reverse_nil])
  rw [List.rdropWhile, List.reverse_append, List.dropWhile_append, hd, if_neg Bool.false_ne_true,
    List.reverse_append, List.reverse_reverse, List.rdropWhile]

/-- Stripping from the right passes over a suffix it strips whole. -/
theorem rdropWhile_append_of_all {α : Type} (p : α → Bool) (l m : List α)
    (h : ∀ a ∈ m, p a = true) : (l ++ m).rdropWhile p = l.rdropWhile p := by
  rw [List.rdropWhile, List.reverse_append, List.dropWhile_append_of_pos (by simpa using h),
    List.rdropWhile]

/-! ## The point -/

/-- The first point of `l ++ '.' :: m` is right after `l` when `l` has none. -/
theorem idxOf?_append_cons {l m : List Char} (hl : '.' ∉ l) :
    (l ++ '.' :: m).idxOf? '.' = some l.length := by
  induction l with
  | nil => simp [List.idxOf?_cons]
  | cons c cs ih =>
    rw [List.mem_cons, not_or] at hl
    have hc : (c == '.') = false := by simpa using Ne.symm hl.1
    rw [List.cons_append, List.idxOf?_cons, hc, ih hl.2]
    simp

end Decimal

end WormholeCore.Lib
