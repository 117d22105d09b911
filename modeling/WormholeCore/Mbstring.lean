/-
# `WormholeCore.Mbstring` — `SanitizeInvalidUTF8` and its scan of UTF-8 sequences.

`SanitizeInvalidUTF8` (mbstring.cpp) copies a string and walks it with `pos`: at each position
`mbstring::get_mblen` reads the length of the sequence the lead byte announces, `check_mb` checks
that many bytes, and the walk either moves over the sequence or, when the check fails, writes `'?'`
over the byte and moves one on. Bytes are `UInt8` (the source's `unsign`), a string is the list of
its bytes, and the C conversions between `size_t` and `int` are written out (`toCInt`, `toSizeT`).

The loop is a `Lib.Loop` over `(pos, result)`. Every turn is described once (`sanitizeTurn_spec`):
it accepts a sequence of `check_mb`, whose bytes after the first are continuation bytes, or it
repairs one byte. From that:

* `sanitizeInvalidUTF8_never_ends` — a NUL byte is a trap. `get_mblen` gives it length `0`,
  `check_mb` accepts length `0`, and `pos += 0` leaves the walk where it is. No sequence the walk
  accepts covers a NUL byte, so the walk reaches the first one and stays there;
* `sanitizeInvalidUTF8_ends` — without a NUL byte every turn moves `pos` on, and the walk ends,
  with a result as long as its input (`length_sanitizeInvalidUTF8`).
-/
import Mathlib
import WormholeCore.Lib.Loop

namespace WormholeCore

open Lib

namespace Mbstring

/-! ## The source functions -/

/-- **`get_mblen(unsigned char c)`**: the number of bytes of the sequence led by `c`. `0` for a NUL
byte, `5` to `7` for the lead bytes of the withdrawn longer forms, `-1` for a byte that leads no
sequence. -/
def getMblen (c : UInt8) : Int :=
  if c &&& 0xFF = 0x00 then 0
  else if c &&& 0x80 = 0x00 then 1
  else if c &&& 0xE0 = 0xC0 then 2
  else if c &&& 0xF0 = 0xE0 then 3
  else if c &&& 0xF8 = 0xF0 then 4
  else if c &&& 0xFC = 0xF8 then 5
  else if c &&& 0xFE = 0xFC then 6
  else if c &&& 0xFF = 0xFE then 7
  else -1

/-- `(int) n` for a `size_t` `n`: the value modulo `2^32`, read as a signed 32-bit integer. -/
def toCInt (n : Nat) : Int :=
  if n % 2 ^ 32 < 2 ^ 31 then (n % 2 ^ 32 : Nat) else (n % 2 ^ 32 : Nat) - 2 ^ 32

/-- `(size_t) i` for an `int` `i`, on a 64-bit `size_t`. -/
def toSizeT (i : Int) : Nat := (i % 2 ^ 64).toNat

/-- **`get_mblen(const char* s, size_t n)`**: the length announced by `s[0]`, or `-1` when fewer than
that many bytes are left. -/
def getMblenN (s : List UInt8) (n : Nat) : Int :=
  if n = 0 then 0
  else
    let len := getMblen (s.getD 0 0)
    if toCInt n ≥ len then len else -1

/-- **`check_mb(const char* s, size_t n)`**: the `n` bytes at `s` are one UTF-8 sequence. -/
def checkMb (s : List UInt8) (n : Nat) : Bool :=
  let b (i : Nat) : UInt8 := s.getD i 0
  match n with
  | 0 => true
  | 1 => b 0 ≤ 0x7F
  | 2 =>
    -- C0-C1 are invalid
    (0xC2 ≤ b 0 && b 0 ≤ 0xDF) && (0x80 ≤ b 1 && b 1 ≤ 0xBF)
  | 3 =>
    if b 0 = 0xE0 && !(0xA0 ≤ b 1 && b 1 ≤ 0xBF) then false
    else if b 0 = 0xED && !(0x80 ≤ b 1 && b 1 ≤ 0x9F) then false
    else (0xE0 ≤ b 0 && b 0 ≤ 0xEF) && (0x80 ≤ b 1 && b 1 ≤ 0xBF) && (0x80 ≤ b 2 && b 2 ≤ 0xBF)
  | 4 =>
    if b 0 = 0xF0 && !(0x90 ≤ b 1 && b 1 ≤ 0xBF) then false
    else if b 0 = 0xF4 && !(0x80 ≤ b 1 && b 1 ≤ 0x8F) then false
    else (0xF0 ≤ b 0 && b 0 ≤ 0xF4) && (0x80 ≤ b 1 && b 1 ≤ 0xBF) &&
      (0x80 ≤ b 2 && b 2 ≤ 0xBF) && (0x80 ≤ b 3 && b 3 ≤ 0xBF)
  | _ => false

/-- The state of the loop of `SanitizeInvalidUTF8`: the position, and the copy being repaired. -/
structure SanitizeState where
  pos : Nat
  result : List UInt8

/-- `while (pos < s.size())`, negated: the loop is done. -/
def sanitizeDone (s : List UInt8) (st : SanitizeState) : Bool := !decide (st.pos < s.length)

/-- **One turn of the loop of `SanitizeInvalidUTF8`** over `s`. A turn cannot fail. -/
def sanitizeTurn (s : List UInt8) (st : SanitizeState) : Except Empty SanitizeState :=
  let next := getMblenN (s.drop st.pos) (s.length - st.pos)
  if !checkMb (s.drop st.pos) (toSizeT next) then
    -- result[pos] = '?'; next = 1;
    pure ⟨st.pos + 1, st.result.set st.pos 0x3F⟩
  else
    -- pos += next;
    pure ⟨st.pos + toSizeT next, st.result⟩

/-- **`SanitizeInvalidUTF8(s)`**, run for at most `fuel` turns: `none` while it is still going. -/
def sanitizeInvalidUTF8 (fuel : Nat) (s : List UInt8) : Option (List UInt8) :=
  match Loop.run (sanitizeTurn s) (sanitizeDone s) fuel ⟨0, s⟩ with
  | some (.ok st) => some st.result
  | _ => none

/-! ## Bytes -/

theorem and_ff (c : UInt8) : c &&& 0xFF = c := by
  apply UInt8.toBitVec_inj.mp
  rw [UInt8.toBitVec_and]
  exact BitVec.and_allOnes

/-- Only a NUL byte announces length `0`. -/
theorem getMblen_eq_zero {c : UInt8} : getMblen c = 0 ↔ c = 0 := by
  unfold getMblen
  rw [and_ff]
  constructor
  · intro h
    by_contra hc
    rw [if_neg hc] at h
    split_ifs at h <;> omega
  · rintro rfl
    rfl

theorem getD_drop (s : List UInt8) (p i : Nat) : (s.drop p).getD i 0 = s.getD (p + i) 0 := by
  simp only [List.getD_eq_getElem?_getD, List.getElem?_drop]

/-- What `get_mblen` can return with bytes left: `-1`, or the length the lead byte announces. -/
theorem getMblenN_cases (s : List UInt8) {n : Nat} (hn : n ≠ 0) :
    getMblenN s n = -1 ∨ getMblenN s n = getMblen (s.getD 0 0) := by
  unfold getMblenN
  rw [if_neg hn]
  dsimp only
  split
  · exact Or.inr rfl
  · exact Or.inl rfl

/-- A NUL byte with fewer than `2^31` bytes from it to the end has length `0`. -/
theorem getMblenN_nul {s : List UInt8} {n : Nat} (hs : s.getD 0 0 = 0) (hn : n < 2 ^ 31) :
    getMblenN s n = 0 := by
  unfold getMblenN
  split
  · rfl
  · have hcast : toCInt n = n := by
      unfold toCInt
      rw [Nat.mod_eq_of_lt (by omega), if_pos hn]
    dsimp only
    rw [hs, show getMblen 0 = 0 from rfl, hcast, if_pos (by omega)]

/-- A lead byte announces `-1` or a length from `0` to `7`. -/
theorem getMblen_range (c : UInt8) : getMblen c = -1 ∨ (0 ≤ getMblen c ∧ getMblen c ≤ 7) := by
  unfold getMblen
  split_ifs <;> simp

theorem toSizeT_of_nonneg {i : Int} (h : 0 ≤ i) (h' : i < 2 ^ 64) : (toSizeT i : Int) = i := by
  unfold toSizeT
  rw [Int.emod_eq_of_lt h h', Int.toNat_of_nonneg h]

/-- `(size_t) -1` is no length `check_mb` accepts. -/
theorem checkMb_toSizeT_neg_one (s : List UInt8) : checkMb s (toSizeT (-1)) = false := rfl

/-- **The bytes after the first of a sequence `check_mb` accepts are continuation bytes.** -/
theorem checkMb_tail {s : List UInt8} {n : Nat} (h : checkMb s n = true) :
    ∀ i, 0 < i → i < n → 0x80 ≤ s.getD i 0 := by
  intro i hi hin
  unfold checkMb at h
  dsimp only at h
  split at h
  · omega
  · omega
  · simp only [Bool.and_eq_true, decide_eq_true_eq] at h
    obtain rfl : i = 1 := by omega
    exact h.2.1
  · split at h
    · cases h
    split at h
    · cases h
    simp only [Bool.and_eq_true, decide_eq_true_eq] at h
    obtain rfl | rfl : i = 1 ∨ i = 2 := by omega
    · exact h.1.2.1
    · exact h.2.1
  · split at h
    · cases h
    split at h
    · cases h
    simp only [Bool.and_eq_true, decide_eq_true_eq] at h
    obtain rfl | rfl | rfl : i = 1 ∨ i = 2 ∨ i = 3 := by omega
    · exact h.1.1.2.1
    · exact h.1.2.1
    · exact h.2.1
  · cases h

/-- A continuation byte is not NUL. -/
theorem ne_zero_of_continuation {c : UInt8} (h : 0x80 ≤ c) : c ≠ 0 := by
  rintro rfl
  exact absurd h (by decide)

/-! ## One turn -/

/-- **What a turn does** inside the string: it accepts the `m` bytes at `pos` that the lead byte
announces and `check_mb` passes, or it writes `'?'` over the byte at `pos` and moves one on. -/
theorem sanitizeTurn_spec (s : List UInt8) (st : SanitizeState) (hpos : st.pos < s.length) :
    (∃ m, sanitizeTurn s st = .ok ⟨st.pos + m, st.result⟩ ∧ checkMb (s.drop st.pos) m = true ∧
      getMblen (s.getD st.pos 0) = m) ∨
    sanitizeTurn s st = .ok ⟨st.pos + 1, st.result.set st.pos 0x3F⟩ := by
  unfold sanitizeTurn
  dsimp only
  by_cases hc : checkMb (s.drop st.pos) (toSizeT (getMblenN (s.drop st.pos) (s.length - st.pos)))
  · rw [if_neg (by rw [hc]; decide)]
    refine Or.inl ⟨_, rfl, hc, ?_⟩
    rcases getMblenN_cases (s.drop st.pos) (show s.length - st.pos ≠ 0 by omega) with h1 | hlen
    · rw [h1, checkMb_toSizeT_neg_one] at hc
      cases hc
    · -- the length is the lead byte's; `-1` would have failed `check_mb`
      rw [getD_drop, Nat.add_zero] at hlen
      rcases getMblen_range (s.getD st.pos 0) with hneg | ⟨h0, h7⟩
      · rw [hlen, hneg, checkMb_toSizeT_neg_one] at hc
        cases hc
      · rw [hlen, toSizeT_of_nonneg h0 (by omega)]
  · rw [if_pos (by simpa using hc)]
    exact Or.inr rfl

/-- **A NUL byte holds the walk**: the turn at it changes nothing. -/
theorem sanitizeTurn_nul {s : List UInt8} {st : SanitizeState} (hnul : s.getD st.pos 0 = 0)
    (hn : s.length - st.pos < 2 ^ 31) : sanitizeTurn s st = .ok st := by
  have hlen : getMblenN (s.drop st.pos) (s.length - st.pos) = 0 :=
    getMblenN_nul (by rw [getD_drop, Nat.add_zero]; exact hnul) hn
  unfold sanitizeTurn
  dsimp only
  rw [hlen]
  rfl

/-- A sequence `check_mb` accepts before a NUL byte ends at it at the latest. -/
theorem add_le_of_checkMb {s : List UInt8} {p m k : Nat} (hc : checkMb (s.drop p) m = true)
    (hp : p < k) (hnul : s.getD k 0 = 0) : p + m ≤ k := by
  by_contra hcover
  have htail := checkMb_tail hc (k - p) (by omega) (by omega)
  rw [getD_drop, Nat.add_sub_cancel' (Nat.le_of_lt hp), hnul] at htail
  exact ne_zero_of_continuation htail rfl

/-! ## The walk -/

/-- **The walk never passes a NUL byte**: from any position up to it, the next turn stays up to
it. -/
theorem sanitize_trap {s : List UInt8} {k : Nat} (hk : k < s.length) (hnul : s.getD k 0 = 0)
    (hlen : s.length < 2 ^ 31) (st : SanitizeState) (hst : st.pos ≤ k) :
    sanitizeDone s st = false ∧ ∃ st', sanitizeTurn s st = .ok st' ∧ st'.pos ≤ k := by
  refine ⟨by simp only [sanitizeDone]; simp [show st.pos < s.length by omega], ?_⟩
  rcases Nat.lt_or_eq_of_le hst with hlt | rfl
  · rcases sanitizeTurn_spec s st (by omega) with ⟨m, hturn, hc, _⟩ | hturn
    · exact ⟨_, hturn, add_le_of_checkMb hc hlt hnul⟩
    · exact ⟨_, hturn, hlt⟩
  · exact ⟨st, sanitizeTurn_nul hnul (by omega), Nat.le_refl _⟩

/-- No fuel finishes the walk over a string with a NUL byte. -/
theorem sanitizeInvalidUTF8_eq_none {s : List UInt8} {k : Nat} (hk : k < s.length)
    (hnul : s.getD k 0 = 0) (hlen : s.length < 2 ^ 31) (fuel : Nat) :
    sanitizeInvalidUTF8 fuel s = none := by
  have hrun := @Loop.run_of_trap _ Empty (sanitizeTurn s) (sanitizeDone s) (fun st => st.pos ≤ k)
    (sanitize_trap hk hnul hlen) fuel ⟨0, s⟩ (Nat.zero_le k)
  unfold sanitizeInvalidUTF8
  rw [hrun]

theorem sanitizeInvalidUTF8_never_ends {s : List UInt8} {k : Nat} (hk : k < s.length)
    (hnul : s.getD k 0 = 0) (hlen : s.length < 2 ^ 31) :
    ¬ ∃ fuel, (sanitizeInvalidUTF8 fuel s).isSome := by
  rintro ⟨fuel, hsome⟩
  rw [sanitizeInvalidUTF8_eq_none hk hnul hlen fuel] at hsome
  cases hsome

/-- `"a\0b"`. -/
theorem sanitizeInvalidUTF8_a_nul_b :
    ¬ ∃ fuel, (sanitizeInvalidUTF8 fuel [0x61, 0x00, 0x62]).isSome :=
  sanitizeInvalidUTF8_never_ends (k := 1) (by decide) rfl (by decide)

/-- Without a NUL byte, every turn inside the string moves the walk on. -/
theorem sanitizeTurn_pos_lt {s : List UInt8} (hs : (0 : UInt8) ∉ s) {st st' : SanitizeState}
    (hpos : st.pos < s.length) (hturn : sanitizeTurn s st = .ok st') : st.pos < st'.pos := by
  have hlead : s.getD st.pos 0 ≠ 0 := by
    rw [List.getD_eq_getElem?_getD, List.getElem?_eq_getElem hpos, Option.getD_some]
    exact fun h0 => hs (h0 ▸ List.getElem_mem hpos)
  rcases sanitizeTurn_spec s st hpos with ⟨m, hm, _, hlen⟩ | hm <;> rw [hm] at hturn <;>
    cases hturn
  · have : getMblen (s.getD st.pos 0) ≠ 0 := fun h => hlead (getMblen_eq_zero.mp h)
    dsimp only
    omega
  · exact Nat.lt_succ_self _

/-- **Without a NUL byte the walk ends**, within one turn per byte, with a result as long as its
input. -/
theorem sanitizeInvalidUTF8_ends {s : List UInt8} (hs : (0 : UInt8) ∉ s) :
    ∃ r, sanitizeInvalidUTF8 (s.length + 1) s = some r ∧ r.length = s.length := by
  have hdone : ∀ st, sanitizeDone s st = false → st.pos < s.length := by
    intro st h
    simpa [sanitizeDone] using h
  have hends := @Loop.run_of_variant _ Empty (sanitizeTurn s) (sanitizeDone s)
    (fun st => s.length - st.pos)
    (fun st st' hd hturn => by
      have hlt := hdone st hd
      have := sanitizeTurn_pos_lt hs hlt hturn
      show s.length - st'.pos < s.length - st.pos
      omega) (s.length + 1) ⟨0, s⟩ (by show s.length - 0 < s.length + 1; omega)
  -- the result only has bytes overwritten
  have hinv := @Loop.run_inv _ Empty (sanitizeTurn s) (sanitizeDone s)
    (fun st => st.result.length = s.length)
    (fun st st' hlen hd hturn => by
      rcases sanitizeTurn_spec s st (hdone st hd) with ⟨m, hm, _⟩ | hm <;> rw [hm] at hturn <;>
        cases hturn
      · exact hlen
      · exact (List.length_set ..).trans hlen)
    (s.length + 1) ⟨0, s⟩
  unfold sanitizeInvalidUTF8
  match hrun : Loop.run (sanitizeTurn s) (sanitizeDone s) (s.length + 1) ⟨0, s⟩, hends with
  | some (.ok st), _ => exact ⟨st.result, rfl, (hinv st rfl hrun).1⟩
  | some (.error e), _ => exact e.elim

/-- The string `a`, `0xff`, `b` holds no NUL byte: the walk ends within four turns, with the
invalid byte replaced in place. -/
theorem sanitizeInvalidUTF8_a_ff_b :
    ∃ r, sanitizeInvalidUTF8 4 [0x61, 0xff, 0x62] = some r ∧ r.length = 3 :=
  sanitizeInvalidUTF8_ends (s := [0x61, 0xff, 0x62]) (by decide)

end Mbstring

end WormholeCore
