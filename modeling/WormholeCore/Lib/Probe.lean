/-
# `WormholeCore.Lib.Probe` — probing upward through a wrapping counter.

A search `do { id = next++; } while (taken(id));` over a counter that wraps at `m` visits
`start, start + 1, …` modulo `m`. The first `m` probes are pairwise distinct (`probe_injOn`), so a
search allowed more probes than there are taken values, and at most `m` of them, meets a free one
(`exists_free_probe`): the pigeonhole principle, through `Finset.card_le_card_of_injOn`.

Nothing here names the program being verified.
-/
import Mathlib.Data.Finset.Card
import Mathlib.Data.Nat.ModEq

namespace WormholeCore.Lib

namespace Probe

/-- The counter's increment, wrapping at `m`. -/
def inc (m n : Nat) : Nat := (n + 1) % m

/-- The `i`-th probe from a start below the modulus. -/
theorem iterate_inc {m start : Nat} (h : start < m) : ∀ i, (inc m)^[i] start = (start + i) % m
  | 0 => (Nat.mod_eq_of_lt h).symm
  | i + 1 => by
    rw [Function.iterate_succ_apply', iterate_inc h i, inc, Nat.mod_add_mod, Nat.add_assoc]

/-- The first `m` probes are pairwise distinct. -/
theorem probe_injOn (m start : Nat) : Set.InjOn (fun i => (start + i) % m) (Set.Iio m) := by
  intro i hi j hj hij
  -- the two probes agree modulo `m`, and so do their offsets, which are below `m`
  have hmod : i ≡ j [MOD m] := Nat.ModEq.add_left_cancel' start hij
  rwa [Nat.ModEq, Nat.mod_eq_of_lt hi, Nat.mod_eq_of_lt hj] at hmod

/-- **A search with more probes than taken values finds a free one**, as long as it makes at most
`m` probes. -/
theorem exists_free_probe {m start n : Nat} {E : Finset Nat} (hn : n ≤ m) (hE : E.card < n) :
    ∃ i < n, (start + i) % m ∉ E := by
  by_contra hall
  have hin : ∀ i < n, (start + i) % m ∈ E := fun i hi => by
    by_contra hout
    exact hall ⟨i, hi, hout⟩
  have hle : (Finset.range n).card ≤ E.card := by
    refine Finset.card_le_card_of_injOn (fun i => (start + i) % m) ?_ ?_
    · intro i hi
      exact hin i (Finset.mem_range.mp hi)
    · intro i hi j hj hij
      exact probe_injOn m start (lt_of_lt_of_le (Finset.mem_range.mp hi) hn)
        (lt_of_lt_of_le (Finset.mem_range.mp hj) hn) hij
  rw [Finset.card_range] at hle
  omega

end Probe

end WormholeCore.Lib
