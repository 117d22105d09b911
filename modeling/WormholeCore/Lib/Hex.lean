/-
# `WormholeCore.Lib.Hex` — bytes written as hex text and read back (`HexStr`, `ParseHex`,
`SetHex`).

A byte is written as two lower-case digits, high half first (`hexStr`); a text is read back two
digits a byte, blanks skipped before each pair, up to the first character that is not a digit
(`parseHex`); `isHex` tests a text of an even, non-zero number of digits. A fixed-width blob is
read from a number's digits backwards, the last digit being the low half of the lowest byte
(`setHex`). Text is a list of characters.

The lemmas are the ones a pipeline that goes through hex text is proved with: reading back what
was written gives the bytes (`parseHex_hexStr`), dropping the digits of `k` bytes is writing the
bytes after them (`drop_hexStr`), written text is hex (`isHex_hexStr`), and the `2w` low digits of
a number fill a blob of `w` bytes with the number's little-endian bytes (`setHexBytes_lowDigits`).

Nothing here names the program being verified.
-/
import Mathlib.Data.List.Infix
import WormholeCore.Lib.Bytes

namespace WormholeCore.Lib

namespace Hex

/-! ## Writing -/

/-- The sixteen digits of `HexStr`'s table. -/
def hexChars : List Char :=
  ['0', '1', '2', '3', '4', '5', '6', '7', '8', '9', 'a', 'b', 'c', 'd', 'e', 'f']

/-- `hexmap[n]`. -/
def hexmap (n : Nat) : Char := hexChars.getD n '0'

/-- `HexStr`: each byte as `hexmap[val >> 4]` then `hexmap[val & 15]`. -/
def hexStr (bs : List UInt8) : List Char :=
  bs.flatMap fun (val : UInt8) => [hexmap (val >>> 4).toNat, hexmap (val &&& 15).toNat]

@[simp] theorem hexStr_nil : hexStr [] = [] := rfl

@[simp] theorem hexStr_cons (val : UInt8) (bs : List UInt8) :
    hexStr (val :: bs) = hexmap (val >>> 4).toNat :: hexmap (val &&& 15).toNat :: hexStr bs := rfl

@[simp] theorem hexStr_append (a b : List UInt8) : hexStr (a ++ b) = hexStr a ++ hexStr b := by
  simp [hexStr]

@[simp] theorem length_hexStr (bs : List UInt8) : (hexStr bs).length = 2 * bs.length := by
  induction bs with
  | nil => rfl
  | cons val bs ih => simp [ih]; omega

@[simp] theorem hexStr_eq_nil_iff {bs : List UInt8} : hexStr bs = [] ↔ bs = [] := by
  cases bs with
  | nil => exact iff_of_true hexStr_nil rfl
  | cons val bs => simp

/-- **Dropping the digits of `k` bytes** is writing the bytes after them. -/
theorem drop_hexStr (bs : List UInt8) (k : Nat) : (hexStr bs).drop (2 * k) = hexStr (bs.drop k) := by
  induction bs generalizing k with
  | nil => rw [List.drop_nil, hexStr_nil, List.drop_nil]
  | cons val bs ih =>
    cases k with
    | zero => simp
    | succ k =>
      rw [Nat.mul_succ, hexStr_cons, List.drop_succ_cons, List.drop_succ_cons, ih k,
        List.drop_succ_cons]

/-- A run of bytes inside others is written as a run of digits inside theirs. -/
theorem hexStr_infix {a b : List UInt8} (h : a <:+: b) : hexStr a <:+: hexStr b := by
  obtain ⟨pre, post, rfl⟩ := h
  exact ⟨hexStr pre, hexStr post, by simp⟩

/-- The halves of a byte, as the two digits write them. -/
theorem toNat_shiftRight_four (val : UInt8) : (val >>> 4).toNat = val.toNat / 16 := by
  rw [UInt8.toNat_shiftRight, Nat.shiftRight_eq_div_pow]
  rfl

theorem toNat_and_fifteen (val : UInt8) : (val &&& 15).toNat = val.toNat % 16 := by
  rw [UInt8.toNat_and]
  exact Nat.and_two_pow_sub_one_eq_mod val.toNat 4

/-! ## Reading -/

/-- `HexDigit`: the value of a hex digit, either case; `none` for the `-1` of the table. -/
def hexDigit (c : Char) : Option Nat :=
  if '0' ≤ c ∧ c ≤ '9' then some (c.toNat - '0'.toNat)
  else if 'a' ≤ c ∧ c ≤ 'f' then some (c.toNat - 'a'.toNat + 10)
  else if 'A' ≤ c ∧ c ≤ 'F' then some (c.toNat - 'A'.toNat + 10)
  else none

/-- `IsSpace`: blank, form feed, newline, carriage return, tab, vertical tab. -/
def isSpace (c : Char) : Bool :=
  c == ' ' || c == '\x0c' || c == '\n' || c == '\r' || c == '\t' || c == '\x0b'

/-- `ParseHex`: skip blanks, read a digit, then (with no blank between) a second one, and append
the byte `(hi << 4) | lo`; stop at the first character that is not a digit, the terminating NUL
(the end of the list) included. -/
def parseHex : List Char → List UInt8
  | [] => []
  | c :: cs =>
    if isSpace c then parseHex cs
    else
      match hexDigit c, cs with
      | some hi, d :: ds =>
        match hexDigit d with
        | some lo => ((hi <<< 4) ||| lo).toUInt8 :: parseHex ds
        | none => []
      | _, _ => []

/-- `IsHex`: every character a digit, and an even, non-zero number of them. -/
def isHex (str : List Char) : Bool :=
  str.all (fun c => (hexDigit c).isSome) && 0 < str.length && str.length % 2 == 0

/-- Each of the sixteen digits reads back as its own value and is no blank. -/
theorem hexDigit_hexmap : ∀ n < 16, hexDigit (hexmap n) = some n ∧ isSpace (hexmap n) = false := by
  -- sixteen characters, each checked against the ranges the reader tests
  decide

/-- A byte is its high digit shifted past its low digit. -/
theorem shiftLeft_or_halves (val : UInt8) :
    (((val.toNat / 16) <<< 4) ||| val.toNat % 16).toUInt8 = val := by
  have hlow : val.toNat % 16 < 2 ^ 4 := Nat.mod_lt _ (by decide)
  have hsum : val.toNat / 16 * 2 ^ 4 + val.toNat % 16 = val.toNat := by omega
  rw [← Nat.shiftLeft_add_eq_or_of_lt hlow, Nat.shiftLeft_eq, hsum]
  simp

/-- A pair of digits after no blank reads as one byte. -/
theorem parseHex_pair {c d : Char} {hi lo : Nat} (hc : isSpace c = false)
    (hhi : hexDigit c = some hi) (hlo : hexDigit d = some lo) (cs : List Char) :
    parseHex (c :: d :: cs) = ((hi <<< 4) ||| lo).toUInt8 :: parseHex cs := by
  simp [parseHex, hc, hhi, hlo]

/-- **Reading back what `HexStr` wrote** gives the bytes. -/
theorem parseHex_hexStr (bs : List UInt8) : parseHex (hexStr bs) = bs := by
  induction bs with
  | nil => rfl
  | cons val bs ih =>
    have hhi : val.toNat / 16 < 16 := by have := val.toNat_lt; omega
    have hlo : val.toNat % 16 < 16 := Nat.mod_lt _ (by decide)
    obtain ⟨hdhi, hshi⟩ := hexDigit_hexmap _ hhi
    obtain ⟨hdlo, -⟩ := hexDigit_hexmap _ hlo
    rw [hexStr_cons, toNat_shiftRight_four, toNat_and_fifteen, parseHex_pair hshi hdhi hdlo, ih,
      shiftLeft_or_halves]

/-- What `HexStr` writes for at least one byte is hex. -/
theorem isHex_hexStr {bs : List UInt8} (hbs : bs ≠ []) : isHex (hexStr bs) = true := by
  have hdigits : ∀ c ∈ hexStr bs, (hexDigit c).isSome = true := by
    intro c hc
    simp only [hexStr, List.mem_flatMap, List.mem_cons, List.not_mem_nil, or_false] at hc
    obtain ⟨val, -, rfl | rfl⟩ := hc
    · have hhi : (val >>> 4).toNat < 16 := by rw [toNat_shiftRight_four]; have := val.toNat_lt; omega
      rw [(hexDigit_hexmap _ hhi).1]
      rfl
    · have hlo : (val &&& 15).toNat < 16 := by rw [toNat_and_fifteen]; omega
      rw [(hexDigit_hexmap _ hlo).1]
      rfl
  have hlen : 0 < bs.length := List.length_pos_of_ne_nil hbs
  simp only [isHex, List.all_eq_true.mpr hdigits, length_hexStr, Bool.true_and, Bool.and_eq_true,
    decide_eq_true_eq, beq_iff_eq]
  omega

/-! ## Reading a number into a blob -/

/-- The bytes `SetHex` fills, least significant first, from the digits' values read backwards: the
last digit is the low half of a byte and the digit before it the high half; a first digit left
alone is a byte of its own. At most `width` bytes are filled. -/
def setHexBytes : Nat → List Nat → List UInt8
  | 0, _ => []
  | _ + 1, [] => []
  | _ + 1, [lo] => [lo.toUInt8]
  | width + 1, lo :: hi :: ds => ((hi <<< 4) ||| lo).toUInt8 :: setHexBytes width ds

/-- **`base_blob::SetHex`** on a blob of `width` bytes, which it zeroes first: blanks and a `0x` are
skipped, the hex digits up to the first other character are read, and the blob is filled from the
last digit backwards. The bytes it does not reach stay zero. -/
def setHex (width : Nat) (str : List Char) : List UInt8 :=
  let str := str.dropWhile isSpace
  let str := match str with
    | '0' :: x :: rest => if x.toLower = 'x' then rest else str
    | _ => str
  setHexBytes width ((str.takeWhile fun c => (hexDigit c).isSome).filterMap hexDigit).reverse

/-- The `width` low hex digits of `n`, least significant first. -/
def lowDigits : Nat → Nat → List Nat
  | 0, _ => []
  | width + 1, n => n % 16 :: lowDigits width (n / 16)

/-- **The `2w` low digits of a number fill `w` bytes with its little-endian bytes.** -/
theorem setHexBytes_lowDigits (width n : Nat) :
    setHexBytes width (lowDigits (2 * width) n) = Bytes.leBytes width n := by
  induction width generalizing n with
  | zero => rfl
  | succ w ih =>
    have hdiv : n / 16 / 16 = n / 256 := by omega
    rw [show 2 * (w + 1) = 2 * w + 1 + 1 by ring, lowDigits, lowDigits, setHexBytes, hdiv, ih,
      Bytes.leBytes]
    -- the two low digits are the halves of the low byte
    have hbyte := shiftLeft_or_halves n.toUInt8
    rw [Bytes.toNat_toUInt8, show n % 256 / 16 = n / 16 % 16 by omega,
      show n % 256 % 16 = n % 16 by omega] at hbyte
    rw [hbyte]

end Hex

end WormholeCore.Lib
