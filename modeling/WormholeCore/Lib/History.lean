/-
# `WormholeCore.Lib.History` — a value's history, one checkpoint per block.

A node that must be able to undo blocks can keep, for a value that transactions change, the value
at the end of every block in which it changed: a map from block to value. `record` writes the
checkpoint of a block (replacing an earlier one of the same block), `latest` reads the current
value (the checkpoint of the highest block), and `truncate b` forgets the checkpoints of blocks `b`
and later, which is how such a history is rolled back.

A record at a block no earlier than every checkpoint is the latest (`latest_record_of_le`), and
dropping a prefix of blocks keeps the latest (`latest_filterKeys`).

Nothing here names the program being verified; blocks are any linear order.
-/
import WormholeCore.Lib.OrdMap

namespace WormholeCore.Lib

namespace History

variable {β ν : Type} [LinearOrder β]

/-- Record `v` as the value at the end of block `b`. -/
def record (h : OrdMap β ν) (b : β) (v : ν) : OrdMap β ν := h.insert b v

/-- The value of the latest checkpoint. -/
def latest (h : OrdMap β ν) : Option ν := h.entries.getLast?.map Prod.snd

/-- Forget the checkpoints of blocks `b` and later. -/
def truncate (h : OrdMap β ν) (b : β) : OrdMap β ν := h.filterKeys (fun k => decide (k < b))

/-! ## The latest checkpoint -/

/-- **A checkpoint at or after every other one is the latest.** -/
theorem latest_record_of_le {h : OrdMap β ν} {b : β} (v : ν)
    (hb : ∀ k w, h.find? k = some w → k ≤ b) : latest (record h b v) = some v := by
  obtain ⟨l₁, l₂, hl⟩ := List.append_of_mem (OrdMap.mem_of_find? (OrdMap.find?_insert_self h b v))
  -- an entry after `(b, v)` would be above `b`, and at or below it
  have hl₂ : l₂ = [] := by
    cases l₂ with
    | nil => rfl
    | cons e t =>
      have hsorted := (h.insert b v).sorted
      rw [hl, List.pairwise_append, List.pairwise_cons] at hsorted
      have hlt : b < e.1 := hsorted.2.1.1 e List.mem_cons_self
      have hmem : e ∈ (h.insert b v).entries := by
        rw [hl]
        simp
      rcases OrdMap.mem_insertL hmem with rfl | he
      · exact absurd hlt (lt_irrefl _)
      · exact absurd (hb e.1 e.2 (OrdMap.find?_of_mem he)) (not_le.2 hlt)
  simp [latest, record, hl, hl₂]

/-- **Keeping the checkpoints from some block on keeps the latest**, unless it keeps none: a test
that holds of a block holds of every later one. -/
theorem latest_filterKeys {h : OrdMap β ν} {p : β → Bool}
    (hp : ∀ a b, a ≤ b → p a = true → p b = true) (hne : (h.filterKeys p).entries ≠ []) :
    latest (h.filterKeys p) = latest h := by
  rcases List.eq_nil_or_concat h.entries with hnil | ⟨l, x, hl⟩
  · simp [OrdMap.filterKeys, hnil] at hne
  · by_cases hx : p x.1 = true
    · simp [latest, OrdMap.filterKeys, hl, List.filter_append, hx]
    · -- the latest checkpoint fails the test, so does every one before it
      have hsorted := h.sorted
      rw [hl, List.concat_eq_append, List.pairwise_append] at hsorted
      have hnone : l.filter (fun e => p e.1) = [] := by
        rw [List.filter_eq_nil_iff]
        intro e he hpe
        exact hx (hp _ _ (le_of_lt (hsorted.2.2 e he x (List.mem_singleton_self x))) hpe)
      exact absurd (by simp [OrdMap.filterKeys, hl, List.filter_append, hnone, hx]) hne

end History

end WormholeCore.Lib
