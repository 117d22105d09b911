/-
# `WormholeCore.Lib.Word256` — unsigned 256-bit arithmetic.

A 256-bit unsigned word as the natural number it encodes, below `2^256`. Addition, subtraction and
multiplication wrap modulo `2^256`; division by zero does not return a value (the C++ big-integer
class throws), so `div` is partial and reports it. Each operation comes with the lemma that says
when it does NOT wrap, which is how the arithmetic of a program that stays in range is reduced to
plain `Nat` arithmetic.

Nothing here names the program being verified.
-/
import Mathlib

namespace WormholeCore.Lib

namespace Word256

/-- `2^256`. -/
def modulus : Nat := 2 ^ 256

/-- Wrapping addition. -/
def add (a b : Nat) : Nat := (a + b) % modulus

/-- Wrapping subtraction. -/
def sub (a b : Nat) : Nat := (a + (modulus - b % modulus)) % modulus

/-- Wrapping multiplication. -/
def mul (a b : Nat) : Nat := a * b % modulus

/-- Division; dividing by zero throws. -/
def div (a b : Nat) : Except String Nat :=
  if b = 0 then .error "Division by zero" else .ok (a / b)

theorem add_of_lt {a b : Nat} (h : a + b < modulus) : add a b = a + b := Nat.mod_eq_of_lt h

theorem mul_of_lt {a b : Nat} (h : a * b < modulus) : mul a b = a * b := Nat.mod_eq_of_lt h

/-- Subtracting a smaller word does not wrap. -/
theorem sub_of_le {a b : Nat} (ha : a < modulus) (hb : b ≤ a) : sub a b = a - b := by
  have hb' : b % modulus = b := Nat.mod_eq_of_lt (lt_of_le_of_lt hb ha)
  unfold sub
  rw [hb']
  have : a + (modulus - b) = (a - b) + modulus := by omega
  rw [this, Nat.add_mod_right, Nat.mod_eq_of_lt (lt_of_le_of_lt (Nat.sub_le a b) ha)]

theorem div_of_pos {a b : Nat} (hb : 0 < b) : div a b = .ok (a / b) := by
  simp [div, Nat.pos_iff_ne_zero.mp hb]

theorem div_zero (a : Nat) : div a 0 = .error "Division by zero" := rfl

theorem div_error {a b : Nat} {e : String} (h : div a b = .error e) : e = "Division by zero" := by
  unfold div at h
  split at h
  · cases h
    rfl
  · cases h

end Word256

end WormholeCore.Lib
