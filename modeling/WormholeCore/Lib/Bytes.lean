/-
# `WormholeCore.Lib.Bytes` — fixed-width numbers and C strings in byte buffers.

Wire formats written with `memcpy` and read back with `memcpy`, over byte lists:

* `beBytes w n` and `beValue` — a number in `w` bytes, most significant first, and the number a
  run of bytes spells that way; `leBytes`, `leValue` the same least significant first;
* `window buf off n` — the `n` bytes of a zero-initialised buffer holding `buf`, from `off`;
* `cString buf` — the NUL-terminated string at the front of a buffer.

The lemmas are those a layout's round trip is proved with: reading back what was written gives
the number modulo the width (`beValue_beBytes`, `leValue_leBytes`); a read in the part of a
buffer after a prefix is a read of the rest (`window_append_right`);
a read of a field at the front is the field (`window_append_self`, `cString_append_zero`).

Nothing here names the program being verified.
-/
import Mathlib

namespace WormholeCore.Lib

namespace Bytes

/-! ## Numbers -/

/-- `n` in `w` bytes, most significant first. -/
def beBytes : Nat → Nat → List UInt8
  | 0, _ => []
  | w + 1, n => beBytes w (n / 256) ++ [n.toUInt8]

/-- The number bytes spell, most significant first. -/
def beValue (bs : List UInt8) : Nat := bs.foldl (fun acc b => acc * 256 + b.toNat) 0

/-- `n` in `w` bytes, least significant first. -/
def leBytes : Nat → Nat → List UInt8
  | 0, _ => []
  | w + 1, n => n.toUInt8 :: leBytes w (n / 256)

/-- The number bytes spell, least significant first. -/
def leValue : List UInt8 → Nat
  | [] => 0
  | b :: bs => b.toNat + 256 * leValue bs

@[simp] theorem length_beBytes (w n : Nat) : (beBytes w n).length = w := by
  induction w generalizing n with
  | zero => rfl
  | succ w ih => simp [beBytes, ih]

@[simp] theorem length_leBytes (w n : Nat) : (leBytes w n).length = w := by
  induction w generalizing n with
  | zero => rfl
  | succ w ih => simp [leBytes, ih]

theorem toNat_toUInt8 (n : Nat) : n.toUInt8.toNat = n % 256 := by
  simp [Nat.toUInt8_eq]

theorem beValue_append_singleton (bs : List UInt8) (b : UInt8) :
    beValue (bs ++ [b]) = beValue bs * 256 + b.toNat := by
  simp [beValue, List.foldl_append]

/-- **Reading back `w` big-endian bytes** gives the number modulo `256^w`. -/
theorem beValue_beBytes (w n : Nat) : beValue (beBytes w n) = n % 256 ^ w := by
  induction w generalizing n with
  | zero => simp [beBytes, beValue, Nat.mod_one]
  | succ w ih =>
    -- the low byte is written last; the bytes before it spell `n / 256`
    rw [beBytes, beValue_append_singleton, ih, toNat_toUInt8, Nat.pow_succ,
      Nat.mul_comm (256 ^ w) 256, Nat.mod_mul]
    omega

/-- **Reading back `w` little-endian bytes** gives the number modulo `256^w`. -/
theorem leValue_leBytes (w n : Nat) : leValue (leBytes w n) = n % 256 ^ w := by
  induction w generalizing n with
  | zero => simp [leBytes, leValue, Nat.mod_one]
  | succ w ih =>
    rw [leBytes, leValue, ih, toNat_toUInt8, Nat.pow_succ, Nat.mul_comm (256 ^ w) 256,
      Nat.mod_mul]

/-! ## Reads at an offset -/

/-- The `n` bytes from `off` of a zero-initialised buffer holding `buf`. -/
def window (buf : List UInt8) (off n : Nat) : List UInt8 :=
  (buf.drop off ++ List.replicate n 0).take n

/-- A read past a prefix is a read of the rest. -/
theorem drop_append_of_length_le (a b : List UInt8) {off : Nat} (h : a.length ≤ off) :
    (a ++ b).drop off = b.drop (off - a.length) := by
  rw [List.drop_append, List.drop_eq_nil_of_le h, List.nil_append]

theorem window_append_right (a b : List UInt8) {off : Nat} (h : a.length ≤ off) (n : Nat) :
    window (a ++ b) off n = window b (off - a.length) n := by
  rw [window, window, drop_append_of_length_le a b h]

/-- A read of a field at the front is the field. -/
theorem window_append_self (a b : List UInt8) : window (a ++ b) 0 a.length = a := by
  simp [window]

/-- **A read where a field was written is the field.** -/
theorem window_of_eq_append {buf : List UInt8} (pre field post : List UInt8)
    (h : buf = pre ++ field ++ post) {off : Nat} (hoff : pre.length = off) :
    window buf off field.length = field := by
  subst h hoff
  rw [List.append_assoc, window_append_right _ _ (Nat.le_refl _), Nat.sub_self, window_append_self]

/-- The NUL-terminated string at the front of a buffer. -/
def cString (buf : List UInt8) : List UInt8 := buf.takeWhile (· != 0)

/-- **A string without NUL is read up to its terminator.** -/
theorem cString_append_zero {s : List UInt8} (hs : (0 : UInt8) ∉ s) (post : List UInt8) :
    cString (s ++ 0 :: post) = s := by
  have hpos : ∀ c ∈ s, (c != 0) = true := by
    intro c hc
    have : c ≠ 0 := fun h => hs (h ▸ hc)
    simpa using this
  rw [cString, List.takeWhile_append_of_pos hpos, List.takeWhile_cons_of_neg (by simp),
    List.append_nil]

/-- **A string written with its NUL is read back.** -/
theorem cString_of_eq_append {buf : List UInt8} (pre s post : List UInt8)
    (h : buf = pre ++ (s ++ [0]) ++ post) (hs : (0 : UInt8) ∉ s) {off : Nat}
    (hoff : pre.length = off) : cString (buf.drop off) = s := by
  subst h hoff
  rw [List.append_assoc, List.drop_left, List.append_assoc, List.singleton_append,
    cString_append_zero hs]

end Bytes

end WormholeCore.Lib
