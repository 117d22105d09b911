/-
# `WormholeCore.Lib.UndoLog` — a keyed store with a per-block undo log.

A store that a block-processing node keeps on disk next to the chain saves, beside each live
entry, the entry that a write made in block `b` displaced, under the key `(b, k)`. Undoing block
`h` walks the live entries and, for every entry STAMPED `h`, either deletes it (it was created in
`h`) or puts back what `(h, k)` saved; a stamped entry with nothing saved makes the undo fail and
change nothing. This module states that discipline over arbitrary block, key and value types:

* `UndoLog` with `write` (save the displaced entry under the writing block, then overwrite) and
  `put` (overwrite, saving nothing);
* `popBlock`, the walk over the live entries in key order, collecting its changes in a batch, with
  its pointwise specification `find?_popBlock` and its failure condition `popBlock_isSome_iff`;
* blocks of calls (`runBlock`), their frame lemma, and the ROLLBACK THEOREM `popBlock_runBlock`:
  when every key that was live at the start of a block is written AT MOST ONCE in it, popping the
  block gives back exactly the live entries the block started from.

The stamp and the creation block of a value are parameters (`stamp`, `created`). Nothing in this
module names the program being verified.
-/
import WormholeCore.Lib.OrdMap
import Mathlib.Data.Prod.Lex

namespace WormholeCore.Lib

/-- **`UndoLog β κ ν`** — the live entries, and the entries saved per `(block, key)`. -/
structure UndoLog (β κ ν : Type) [LinearOrder β] [LinearOrder κ] where
  live : OrdMap κ ν
  undo : OrdMap (β ×ₗ κ) ν
deriving DecidableEq

namespace UndoLog

variable {β κ ν : Type} [LinearOrder β] [LinearOrder κ]

/-- The empty store. -/
def empty : UndoLog β κ ν := ⟨OrdMap.empty, OrdMap.empty⟩

/-- Write `v` under `k` in block `b`; a live entry it displaces is saved under `(b, k)`, over
whatever an earlier write of the same block saved there. -/
def write (s : UndoLog β κ ν) (b : β) (k : κ) (v : ν) : UndoLog β κ ν :=
  match s.live.find? k with
  | some old => ⟨s.live.insert k v, s.undo.insert (toLex (b, k)) old⟩
  | none => ⟨s.live.insert k v, s.undo⟩

/-- Write `v` under `k`, saving nothing. -/
def put (s : UndoLog β κ ν) (k : κ) (v : ν) : UndoLog β κ ν := ⟨s.live.insert k v, s.undo⟩

@[simp] theorem live_write (s : UndoLog β κ ν) (b : β) (k : κ) (v : ν) :
    (s.write b k v).live = s.live.insert k v := by
  unfold write
  cases s.live.find? k <;> rfl

theorem undo_write (s : UndoLog β κ ν) (b : β) (k : κ) (v : ν) :
    (s.write b k v).undo =
      match s.live.find? k with
      | some old => s.undo.insert (toLex (b, k)) old
      | none => s.undo := by
  unfold write
  cases s.live.find? k <;> rfl

@[simp] theorem live_put (s : UndoLog β κ ν) (k : κ) (v : ν) : (s.put k v).live = s.live.insert k v :=
  rfl

/-- A write leaves the saved entries of every other key alone. -/
theorem find?_undo_write_of_ne (s : UndoLog β κ ν) (b b' : β) {k k' : κ} (v : ν) (hk : k ≠ k') :
    (s.write b k v).undo.find? (toLex (b', k')) = s.undo.find? (toLex (b', k')) := by
  have hne : toLex (b, k) ≠ toLex (b', k') := fun h => hk (Prod.ext_iff.mp (toLex.injective h)).2
  rw [undo_write]
  cases s.live.find? k <;> simp [hne]

/-! ## Undoing one block -/

/-- What undoing a block does to one live entry. -/
inductive Revert (ν : Type) where
  | keep
  | drop
  | restore (old : ν)
  | missing
deriving DecidableEq

/-- The entry a decision leaves live in place of `v`. -/
def Revert.result : Revert ν → ν → Option ν
  | .keep, v => some v
  | .drop, _ => none
  | .restore old, _ => some old
  | .missing, _ => none

section Pop

variable (stamp created : ν → β)

/-- The decision for the live entry `(k, v)` when block `h` is undone. -/
def revertOf (s : UndoLog β κ ν) (h : β) (k : κ) (v : ν) : Revert ν :=
  if stamp v = h then
    -- the entry was created in the undone block
    if stamp v = created v then .drop
    else
      match s.undo.find? (toLex (h, k)) with
      | some old => .restore old
      | none => .missing
  else .keep

/-- One iteration of the walk: decisions are taken on the store `s` as it was, and their effect
is added to the batch `acc`. -/
def popStep (s : UndoLog β κ ν) (h : β) (acc : UndoLog β κ ν) (e : κ × ν) :
    Option (UndoLog β κ ν) :=
  match revertOf stamp created s h e.1 e.2 with
  | .keep => some acc
  | .drop => some ⟨acc.live.erase e.1, acc.undo⟩
  | .restore old => some ⟨acc.live.insert e.1 old, acc.undo.erase (toLex (h, e.1))⟩
  | .missing => none

/-- **Undo block `h`**: walk the live entries in key order; `none` when one of them is missing its
saved entry, in which case nothing is written. -/
def popBlock (s : UndoLog β κ ν) (h : β) : Option (UndoLog β κ ν) :=
  s.live.entries.foldlM (popStep stamp created s h) s

end Pop

/-! ## The specification of `popBlock` -/

section PopSpec

variable {stamp created : ν → β} {s : UndoLog β κ ν} {h : β}

/-- One iteration moves only the entry it decides on. -/
theorem popStep_frame {acc acc' : UndoLog β κ ν} {e : κ × ν}
    (hstep : popStep stamp created s h acc e = some acc') {k : κ} (hk : e.1 ≠ k) :
    acc'.live.find? k = acc.live.find? k := by
  cases hr : revertOf stamp created s h e.1 e.2 with
  | keep => simp only [popStep, hr, Option.some.injEq] at hstep; rw [← hstep]
  | drop => simp only [popStep, hr, Option.some.injEq] at hstep; simp [← hstep, hk]
  | restore old => simp only [popStep, hr, Option.some.injEq] at hstep; simp [← hstep, hk]
  | missing => simp [popStep, hr] at hstep

/-- One iteration leaves in the batch what its decision says, provided the batch still holds the
entry the decision was taken on. -/
theorem popStep_self {acc acc' : UndoLog β κ ν} {e : κ × ν}
    (hstep : popStep stamp created s h acc e = some acc') (hacc : acc.live.find? e.1 = some e.2) :
    acc'.live.find? e.1 = (revertOf stamp created s h e.1 e.2).result e.2 := by
  cases hr : revertOf stamp created s h e.1 e.2 with
  | keep => simp only [popStep, hr, Option.some.injEq] at hstep; rw [← hstep, hacc]; rfl
  | drop => simp only [popStep, hr, Option.some.injEq] at hstep; simp [← hstep, Revert.result]
  | restore old =>
    simp only [popStep, hr, Option.some.injEq] at hstep; simp [← hstep, Revert.result]
  | missing => simp [popStep, hr] at hstep

/-- The walk fails exactly when one of the walked entries is missing its saved entry. -/
theorem foldlM_popStep_isSome :
    ∀ (l : List (κ × ν)) (acc : UndoLog β κ ν),
      (l.foldlM (popStep stamp created s h) acc).isSome ↔
        ∀ e ∈ l, revertOf stamp created s h e.1 e.2 ≠ .missing
  | [], _ => by simp
  | e :: t, acc => by
    rw [List.foldlM_cons, List.forall_mem_cons]
    cases hr : revertOf stamp created s h e.1 e.2 with
    | missing => simp [popStep, hr]
    | keep => simpa [popStep, hr] using foldlM_popStep_isSome t acc
    | drop => simpa [popStep, hr] using foldlM_popStep_isSome t _
    | restore old => simpa [popStep, hr] using foldlM_popStep_isSome t _

/-- **The walk, pointwise.** Over a sorted list of entries that the batch still holds, the result
holds each walked key's decision and leaves every other key as the batch had it. -/
theorem foldlM_popStep :
    ∀ {l : List (κ × ν)} {acc r : UndoLog β κ ν}, l.Pairwise (fun a b => a.1 < b.1) →
      (∀ e ∈ l, acc.live.find? e.1 = some e.2) →
      l.foldlM (popStep stamp created s h) acc = some r →
      ∀ k, r.live.find? k = match OrdMap.findL k l with
        | some v => (revertOf stamp created s h k v).result v
        | none => acc.live.find? k
  | [], acc, r, _, _, hrun, k => by
    simp only [List.foldlM_nil, Option.pure_def, Option.some.injEq] at hrun
    simp [OrdMap.findL, hrun]
  | e :: t, acc, r, hl, hacc, hrun, k => by
    obtain ⟨he, ht⟩ := List.pairwise_cons.mp hl
    rw [List.foldlM_cons] at hrun
    obtain ⟨acc', hstep, hrest⟩ := Option.bind_eq_some_iff.mp hrun
    -- the entries still to walk are untouched by this iteration
    have hacc' : ∀ e' ∈ t, acc'.live.find? e'.1 = some e'.2 := by
      intro e' he'
      rw [popStep_frame hstep (ne_of_lt (he e' he'))]
      exact hacc e' (List.mem_cons_of_mem e he')
    rw [foldlM_popStep ht hacc' hrest k]
    by_cases hk : e.1 = k
    · subst hk
      rw [OrdMap.findL_eq_none_of_lt ht he]
      simpa [OrdMap.findL] using popStep_self hstep (hacc e List.mem_cons_self)
    · rw [popStep_frame hstep hk]
      simp [OrdMap.findL, hk]

/-- **`popBlock` fails exactly when a live entry stamped with the block has nothing saved.** -/
theorem popBlock_isSome_iff :
    (popBlock stamp created s h).isSome ↔
      ∀ k v, s.live.find? k = some v → revertOf stamp created s h k v ≠ .missing := by
  unfold popBlock
  rw [foldlM_popStep_isSome]
  constructor
  · intro hall k v hkv
    exact hall (k, v) (OrdMap.mem_of_find? hkv)
  · intro hall e he
    exact hall e.1 e.2 (OrdMap.find?_of_mem he)

/-- **`popBlock`, pointwise**: every live entry is replaced by its decision. -/
theorem find?_popBlock {s' : UndoLog β κ ν} (hpop : popBlock stamp created s h = some s') (k : κ) :
    s'.live.find? k = (s.live.find? k).bind (fun v => (revertOf stamp created s h k v).result v) := by
  have hall : ∀ e ∈ s.live.entries, s.live.find? e.1 = some e.2 :=
    fun e he => OrdMap.find?_of_mem he
  rw [foldlM_popStep s.live.sorted hall hpop k]
  change (match s.live.find? k with
    | some v => (revertOf stamp created s h k v).result v
    | none => s.live.find? k) = _
  cases s.live.find? k <;> rfl

/-- **An entry the block did not stamp survives its undo**, whatever the block did to it. -/
theorem find?_popBlock_of_stamp_ne {s' : UndoLog β κ ν} (hpop : popBlock stamp created s h = some s')
    {k : κ} {v : ν} (hk : s.live.find? k = some v) (hv : stamp v ≠ h) : s'.live.find? k = some v := by
  rw [find?_popBlock hpop, hk, Option.bind_some, revertOf, if_neg hv]
  rfl

end PopSpec

/-! ## Blocks of calls -/

/-- One store call made while a block is processed. -/
inductive Op (κ ν : Type) where
  | put (k : κ) (v : ν)
  | write (k : κ) (v : ν)

/-- The key a call stores under. -/
def Op.key : Op κ ν → κ
  | .put k _ => k
  | .write k _ => k

/-- The value a call stores. -/
def Op.val : Op κ ν → ν
  | .put _ v => v
  | .write _ v => v

/-- Make the call `op` in block `b`. -/
def apply (b : β) (s : UndoLog β κ ν) : Op κ ν → UndoLog β κ ν
  | .put k v => s.put k v
  | .write k v => s.write b k v

/-- Make the calls of block `b` in order. -/
def runBlock (b : β) (s : UndoLog β κ ν) (ops : List (Op κ ν)) : UndoLog β κ ν :=
  ops.foldl (apply b) s

@[simp] theorem runBlock_cons (b : β) (s : UndoLog β κ ν) (op : Op κ ν) (ops : List (Op κ ν)) :
    runBlock b s (op :: ops) = runBlock b (apply b s op) ops := rfl

theorem runBlock_append (b : β) (s : UndoLog β κ ν) (xs ys : List (Op κ ν)) :
    runBlock b s (xs ++ ys) = runBlock b (runBlock b s xs) ys :=
  List.foldl_append

theorem find?_live_apply (b : β) (s : UndoLog β κ ν) (op : Op κ ν) (k : κ) :
    (apply b s op).live.find? k = if op.key = k then some op.val else s.live.find? k := by
  -- the lookup lemma and this statement decide key equality through different instances
  cases op <;> simp only [apply, Op.key, Op.val, live_put, live_write, OrdMap.find?_insert] <;>
    exact if_congr Iff.rfl rfl rfl

theorem find?_undo_apply_of_ne (b b' : β) (s : UndoLog β κ ν) {op : Op κ ν} {k : κ}
    (hk : op.key ≠ k) :
    (apply b s op).undo.find? (toLex (b', k)) = s.undo.find? (toLex (b', k)) := by
  cases op with
  | put k' v => rfl
  | write k' v => exact find?_undo_write_of_ne s b b' v hk

/-- **Frame lemma of a block.** A key that no call of the block names keeps its live entry and
everything saved under it. -/
theorem runBlock_frame (b : β) {k : κ} :
    ∀ (ops : List (Op κ ν)) (s : UndoLog β κ ν), (∀ op ∈ ops, op.key ≠ k) →
      (runBlock b s ops).live.find? k = s.live.find? k ∧
        ∀ b', (runBlock b s ops).undo.find? (toLex (b', k)) = s.undo.find? (toLex (b', k))
  | [], _, _ => ⟨rfl, fun _ => rfl⟩
  | op :: ops, s, hops => by
    have hk := hops op List.mem_cons_self
    obtain ⟨hlive, hundo⟩ :=
      runBlock_frame b ops (apply b s op) (fun o ho => hops o (List.mem_cons_of_mem op ho))
    refine ⟨?_, fun b' => ?_⟩
    · rw [runBlock_cons, hlive, find?_live_apply, if_neg hk]
    · rw [runBlock_cons, hundo, find?_undo_apply_of_ne b b' s hk]

/-- A key written exactly once in a block ends with the written value live and the value it
displaced saved under the block. -/
theorem runBlock_write_once (b : β) {k : κ} {v₀ v : ν} {pre post : List (Op κ ν)}
    {s : UndoLog β κ ν} (hpre : ∀ op ∈ pre, op.key ≠ k) (hpost : ∀ op ∈ post, op.key ≠ k)
    (hs : s.live.find? k = some v₀) :
    (runBlock b s (pre ++ Op.write k v :: post)).live.find? k = some v ∧
      (runBlock b s (pre ++ Op.write k v :: post)).undo.find? (toLex (b, k)) = some v₀ := by
  have hpl := (runBlock_frame b pre s hpre).1
  obtain ⟨hl, hu⟩ := runBlock_frame b post ((runBlock b s pre).write b k v) hpost
  rw [runBlock_append, runBlock_cons]
  refine ⟨?_, ?_⟩
  · rw [apply, hl]
    simp
  · rw [apply, hu b, undo_write, hpl, hs]
    simp

section Rollback

variable {stamp created : ν → β}

/-- Key `k` of `s` is absent or holds an entry stamped and created in block `b`. -/
def CreatedIn (stamp created : ν → β) (b : β) (s : UndoLog β κ ν) (k : κ) : Prop :=
  s.live.find? k = none ∨ ∃ v, s.live.find? k = some v ∧ stamp v = b ∧ created v = b

/-- Calls that store under `k` only values stamped and created in `b` keep `k` created in `b`. -/
theorem runBlock_createdIn (b : β) {k : κ} :
    ∀ (ops : List (Op κ ν)) (s : UndoLog β κ ν),
      (∀ op ∈ ops, op.key = k → stamp op.val = b ∧ created op.val = b) →
      CreatedIn stamp created b s k → CreatedIn stamp created b (runBlock b s ops) k
  | [], _, _, hs => hs
  | op :: ops, s, hops, hs => by
    apply runBlock_createdIn b ops (apply b s op) (fun o ho => hops o (List.mem_cons_of_mem op ho))
    by_cases hk : op.key = k
    · obtain ⟨hst, hcr⟩ := hops op List.mem_cons_self hk
      exact .inr ⟨op.val, by rw [find?_live_apply, if_pos hk], hst, hcr⟩
    · unfold CreatedIn
      rw [find?_live_apply, if_neg hk]
      exact hs

/-- A key live at the start of the block and named by no call is kept by the undo. -/
theorem outcome_untouched (b : β) {ops : List (Op κ ν)} {s₀ : UndoLog β κ ν} {k : κ} {v₀ : ν}
    (h0 : s₀.live.find? k = some v₀) (hold : stamp v₀ ≠ b) (hnone : ∀ op ∈ ops, op.key ≠ k) :
    let s := runBlock b s₀ ops
    (∀ v, s.live.find? k = some v → revertOf stamp created s b k v ≠ .missing) ∧
      (s.live.find? k).bind (fun v => (revertOf stamp created s b k v).result v) = some v₀ := by
  intro s
  have hlive : s.live.find? k = some v₀ := (runBlock_frame b ops s₀ hnone).1.trans h0
  have hkeep : revertOf stamp created s b k v₀ = .keep := by simp [revertOf, hold]
  refine ⟨fun v hv => ?_, by simp [hlive, hkeep, Revert.result]⟩
  rw [hlive, Option.some.injEq] at hv
  subst hv
  simp [hkeep]

/-- A key live at the start of the block and written once in it is restored by the undo. -/
theorem outcome_written_once (b : β) {pre post : List (Op κ ν)} {s₀ : UndoLog β κ ν} {k : κ}
    {v₀ v : ν} (h0 : s₀.live.find? k = some v₀) (hpre : ∀ op ∈ pre, op.key ≠ k)
    (hpost : ∀ op ∈ post, op.key ≠ k) (hst : stamp v = b) (hcr : created v ≠ b) :
    let s := runBlock b s₀ (pre ++ Op.write k v :: post)
    (∀ v', s.live.find? k = some v' → revertOf stamp created s b k v' ≠ .missing) ∧
      (s.live.find? k).bind (fun v' => (revertOf stamp created s b k v').result v') = some v₀ := by
  intro s
  obtain ⟨hl, hu⟩ : s.live.find? k = some v ∧ s.undo.find? (toLex (b, k)) = some v₀ :=
    runBlock_write_once b hpre hpost h0
  have hne : b ≠ created v := fun h => hcr h.symm
  have hrest : revertOf stamp created s b k v = .restore v₀ := by simp [revertOf, hst, hne, s, hu]
  refine ⟨fun v' hv' => ?_, by simp [s, hl, hrest, Revert.result]⟩
  rw [hl, Option.some.injEq] at hv'
  subst hv'
  simp [hrest]

/-- **The rollback theorem.** Let block `b` start from `s₀`, whose live entries are all stamped
with other blocks, and make calls that stamp what they store with `b`, mark it created in `b`
exactly when its key was not live at the start, `put` only keys that were not live at the start,
and write every key that WAS live at the start at most once. Then undoing `b` succeeds and gives
back the live entries of `s₀`. -/
theorem popBlock_runBlock (s₀ : UndoLog β κ ν) (b : β) (ops : List (Op κ ν))
    (hstart : ∀ k v, s₀.live.find? k = some v → stamp v ≠ b)
    (hstamp : ∀ op ∈ ops, stamp op.val = b)
    (hcreated : ∀ op ∈ ops, (created op.val = b ↔ s₀.live.find? op.key = none))
    (hput : ∀ k v, Op.put k v ∈ ops → s₀.live.find? k = none)
    (honce : ∀ k, (s₀.live.find? k).isSome → ops.countP (fun op => op.key = k) ≤ 1) :
    ∃ s', popBlock stamp created (runBlock b s₀ ops) b = some s' ∧ s'.live = s₀.live := by
  -- per key: the decision on the final entry exists and gives back the start entry
  have key : ∀ k, (∀ v, (runBlock b s₀ ops).live.find? k = some v →
        revertOf stamp created (runBlock b s₀ ops) b k v ≠ .missing) ∧
      ((runBlock b s₀ ops).live.find? k).bind
        (fun v => (revertOf stamp created (runBlock b s₀ ops) b k v).result v) = s₀.live.find? k := by
    intro k
    cases h0 : s₀.live.find? k with
    | none =>
      -- a key created in the block is dropped
      have hc : CreatedIn stamp created b (runBlock b s₀ ops) k := runBlock_createdIn b ops s₀
        (fun op hop hk => ⟨hstamp op hop, (hcreated op hop).mpr (hk ▸ h0)⟩) (.inl h0)
      rcases hc with hnone | ⟨v, hv, hst, hcr⟩
      · simp [hnone]
      · have hdrop : revertOf stamp created (runBlock b s₀ ops) b k v = .drop := by
          simp [revertOf, hst, hcr]
        refine ⟨fun v' hv' => ?_, by simp [hv, hdrop, Revert.result]⟩
        rw [hv, Option.some.injEq] at hv'
        subst hv'
        simp [hdrop]
    | some v₀ =>
      by_cases hnone : ∀ op ∈ ops, op.key ≠ k
      · exact outcome_untouched b h0 (hstart k v₀ h0) hnone
      · -- the one call naming `k`, with nothing before or after it naming `k`
        obtain ⟨op, hop, hkey⟩ : ∃ op ∈ ops, op.key = k := by
          simpa using hnone
        obtain ⟨pre, post, rfl⟩ := List.append_of_mem hop
        have hcount := honce k (by simp [h0])
        simp only [List.countP_append, List.countP_cons, hkey, decide_true, if_true] at hcount
        have hpre : ∀ o ∈ pre, o.key ≠ k := by
          simpa using List.countP_eq_zero.mp (by omega : pre.countP (fun o => o.key = k) = 0)
        have hpost : ∀ o ∈ post, o.key ≠ k := by
          simpa using List.countP_eq_zero.mp (by omega : post.countP (fun o => o.key = k) = 0)
        cases op with
        | put k' v =>
          have := hput k' v hop
          simp only [Op.key] at hkey
          simp [hkey, h0] at this
        | write k' v =>
          simp only [Op.key] at hkey
          subst hkey
          have hcr : created v ≠ b := fun h => by simpa [Op.val, Op.key, h0] using (hcreated _ hop).mp h
          exact outcome_written_once b h0 hpre hpost (hstamp _ hop) hcr
  obtain ⟨s', hs'⟩ := Option.isSome_iff_exists.mp (popBlock_isSome_iff.mpr (fun k v hv => (key k).1 v hv))
  refine ⟨s', hs', OrdMap.ext_find? (fun k => ?_)⟩
  rw [find?_popBlock hs' k, (key k).2]

end Rollback

end UndoLog

end WormholeCore.Lib
