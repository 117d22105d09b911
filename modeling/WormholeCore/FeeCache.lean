/-
# `WormholeCore.FeeCache` — the fee cache (`COmniFeeCache`, fees.{h,cpp}).

For every property the fee cache keeps, in LevelDB under the key `"%010d" propertyId`, the string
`"block:amount,block:amount,..."`, parsed by `GetCacheHistory` into a `std::set` of
`(block, amount)` pairs. Every writer first discards the pairs of the block it writes, so no block
ever has two pairs and the set is the HISTORY `block ↦ cached amount` of `Lib.History`; the model
keeps it as that map, and the string format is not modelled.

The store-level functions of fees.cpp, under the source's names:

* `GetCacheHistory`, `GetCachedAmount` (the amount of the most recent pair), the threshold map;
* `ClearCache` (write `block:0`, then prune) and `PruneCache`, which reads `msc_debug_fees`: the
  `continue` that skips a matured entry stands INSIDE `if (msc_debug_fees)`, so the pruning happens
  only with the logging flag on — the flag is the parameter `debug`;
* the rewriting half of `AddFee` (`addFeeEntry`: the overflow abort, the write, the prune), whose
  `EvalCache` half needs the tally and is modelled with the whole state;
* `RollBackCache(block)`, which walks the property identifiers of both ecosystems below the next
  identifiers of the smart-property store.

`CachedBefore block` — no entry after `block` — is kept by every writer at `block`; under it the
entry a writer makes is the most recent one, so `getCachedAmount_addFeeEntry` and
`getCachedAmount_clearCache` say what the cached amount becomes.
-/
import WormholeCore.SpInfo
import WormholeCore.Lib.History

namespace WormholeCore

open Lib

/-- **`COmniFeeCache`** — the per-property histories and the global `distributionThresholds`. -/
structure COmniFeeCache where
  db : OrdMap PropertyId (OrdMap Int Int)
  distributionThresholds : OrdMap PropertyId Int
deriving DecidableEq

namespace COmniFeeCache

/-- The cache of a node that has seen no fee. -/
def empty : COmniFeeCache := ⟨OrdMap.empty, OrdMap.empty⟩

/-- `GetCacheHistory`: the history of a property, empty when it never had a fee. -/
def getCacheHistory (c : COmniFeeCache) (propertyId : PropertyId) : OrdMap Int Int :=
  c.db.findD propertyId OrdMap.empty

/-- `GetCachedAmount`: the amount of the most recent entry, `0` when there is none. -/
def getCachedAmount (c : COmniFeeCache) (propertyId : PropertyId) : Int :=
  (History.latest (c.getCacheHistory propertyId)).getD 0

/-- `GetDistributionThreshold`: `distributionThresholds[propertyId]`, `0` when never set. -/
def getDistributionThreshold (c : COmniFeeCache) (propertyId : PropertyId) : Int :=
  c.distributionThresholds.findD propertyId 0

/-- `pdb->Put(key, newValue)`: replace a property's history. -/
def putHistory (c : COmniFeeCache) (propertyId : PropertyId) (h : OrdMap Int Int) : COmniFeeCache :=
  { c with db := c.db.insert propertyId h }

/-- **`PruneCache(propertyId, block)`**. Nothing happens when the oldest entry is at least
`block - MAX_STATE_HISTORY`. Otherwise the history is rewritten, skipping the older entries only
when `debug` (`msc_debug_fees`) is set; if nothing is left, the most recent entry is kept. -/
def pruneCache (debug : Bool) (c : COmniFeeCache) (propertyId : PropertyId) (block : Int) :
    COmniFeeCache :=
  let pruneBlock := block - maxStateHistory
  let h := c.getCacheHistory propertyId
  match h.entries.head? with
  | none => c
  | some firstItem =>
    if pruneBlock ≤ firstItem.1 then c
    else
      -- the source's `continue` is inside `if (msc_debug_fees)`
      let kept := h.filterKeys (fun b => !(debug && decide (b < pruneBlock)))
      match kept.entries, h.entries.getLast? with
      | [], some mostRecent => c.putHistory propertyId (OrdMap.empty.insert mostRecent.1 mostRecent.2)
      | _, _ => c.putHistory propertyId kept

/-- **`ClearCache(propertyId, block)`**: the entries of other blocks, then `block:0`; then prune. -/
def clearCache (debug : Bool) (c : COmniFeeCache) (propertyId : PropertyId) (block : Int) :
    COmniFeeCache :=
  let h := c.getCacheHistory propertyId
  (c.putHistory propertyId ((h.erase block).insert block 0)).pruneCache debug propertyId block

/-- The half of **`AddFee(propertyId, block, amount)`** that rewrites the cache: the node shuts
down (`AbortNode`) when the new amount would pass `INT64_MAX`; otherwise the entries of other
blocks, then `block:(current + amount)`, then prune. -/
def addFeeEntry (debug : Bool) (c : COmniFeeCache) (propertyId : PropertyId) (block amount : Int) :
    Except String COmniFeeCache :=
  let currentCachedAmount := c.getCachedAmount propertyId
  if 0 < currentCachedAmount ∧ int64Max - currentCachedAmount < amount then
    .error "Shutting down due to fee cache overflow"
  else
    let h := c.getCacheHistory propertyId
    .ok ((c.putHistory propertyId ((h.erase block).insert block (currentCachedAmount + amount))).pruneCache
      debug propertyId block)

/-- The only way the cache rewrite of `AddFee` fails is the overflow shutdown. -/
theorem addFeeEntry_error {debug : Bool} {c : COmniFeeCache} {propertyId : PropertyId}
    {block amount : Int} {e : String} (h : c.addFeeEntry debug propertyId block amount = .error e) :
    e = "Shutting down due to fee cache overflow" := by
  simp only [addFeeEntry] at h
  split at h
  · cases h
    rfl
  · cases h

/-! ## The cached amount -/

/-- **No entry of the cache is after `block`**: the cache of a node that processes `block` after
the blocks before it. -/
def CachedBefore (block : Int) (c : COmniFeeCache) : Prop :=
  ∀ p k v, (c.getCacheHistory p).find? k = some v → k ≤ block

@[simp] theorem getCacheHistory_putHistory (c : COmniFeeCache) (p q : PropertyId)
    (h : OrdMap Int Int) : (c.putHistory p h).getCacheHistory q = if p = q then h else c.getCacheHistory q := by
  by_cases hpq : p = q <;> simp [getCacheHistory, putHistory, hpq]

theorem getCachedAmount_putHistory (c : COmniFeeCache) (p q : PropertyId) (h : OrdMap Int Int) :
    (c.putHistory p h).getCachedAmount q =
      if p = q then (History.latest h).getD 0 else c.getCachedAmount q := by
  by_cases hpq : p = q <;> simp [getCachedAmount, hpq]

theorem CachedBefore.putHistory {block : Int} {c : COmniFeeCache} (hc : CachedBefore block c)
    {p : PropertyId} {h : OrdMap Int Int} (hh : ∀ k v, h.find? k = some v → k ≤ block) :
    CachedBefore block (c.putHistory p h) := by
  intro q k v hkv
  rw [getCacheHistory_putHistory] at hkv
  split at hkv
  · exact hh k v hkv
  · exact hc q k v hkv

/-- The rewrite of `AddFee` and `ClearCache` (the entries of other blocks, then one of `block`)
stays at or below `block`. -/
theorem CachedBefore.erase_insert {block : Int} {c : COmniFeeCache} (hc : CachedBefore block c)
    (p : PropertyId) (v : Int) :
    ∀ k w, (((c.getCacheHistory p).erase block).insert block v).find? k = some w → k ≤ block := by
  intro k w hkw
  by_cases hk : block = k
  · exact le_of_eq hk.symm
  · rw [OrdMap.find?_insert, if_neg hk, OrdMap.find?_erase, if_neg hk] at hkw
    exact hc p k w hkw

/-- After that rewrite, the entry of `block` is the most recent. -/
theorem CachedBefore.latest_erase_insert {block : Int} {c : COmniFeeCache}
    (hc : CachedBefore block c) (p : PropertyId) (v : Int) :
    History.latest (((c.getCacheHistory p).erase block).insert block v) = some v := by
  apply History.latest_record_of_le
  intro k w hkw
  by_cases hk : block = k
  · exact le_of_eq hk.symm
  · rw [OrdMap.find?_erase, if_neg hk] at hkw
    exact hc p k w hkw

/-- **Pruning never changes a cached amount**: the most recent entry is kept, whether the entries
from `block - MAX_STATE_HISTORY` on are kept or only the most recent one. -/
theorem getCachedAmount_pruneCache (debug : Bool) (c : COmniFeeCache) (p : PropertyId) (block : Int)
    (q : PropertyId) : (c.pruneCache debug p block).getCachedAmount q = c.getCachedAmount q := by
  unfold pruneCache
  dsimp only
  split
  · rfl
  · rename_i firstItem hfirst
    split
    · rfl
    · by_cases hpq : p = q
      · subst hpq
        split
        · -- nothing was kept: the most recent entry alone
          rename_i mostRecent _ hlast
          simp [getCachedAmount, History.latest, hlast]
        · rename_i hkept
          -- something was kept, the most recent entry among it
          have hne : ((c.getCacheHistory p).filterKeys
              (fun b => !(debug && decide (b < block - maxStateHistory)))).entries ≠ [] := by
            intro hnil
            obtain ⟨mostRecent, hlast⟩ : ∃ e, (c.getCacheHistory p).entries.getLast? = some e := by
              cases hl : (c.getCacheHistory p).entries.getLast? with
              | none =>
                rw [List.getLast?_eq_none_iff] at hl
                rw [hl] at hfirst
                cases hfirst
              | some e => exact ⟨e, rfl⟩
            exact hkept mostRecent hnil hlast
          rw [getCachedAmount_putHistory, if_pos rfl, getCachedAmount,
            History.latest_filterKeys (fun a b hab ha => by
              cases debug
              · rfl
              · simp only [Bool.true_and, Bool.not_eq_eq_eq_not, Bool.not_true,
                  decide_eq_false_iff_not, not_lt] at ha ⊢
                omega) hne]
      · split <;> rw [getCachedAmount_putHistory, if_neg hpq]

theorem CachedBefore.pruneCache {block' : Int} {c : COmniFeeCache} (hc : CachedBefore block' c)
    (debug : Bool) (p : PropertyId) (block : Int) : CachedBefore block' (c.pruneCache debug p block) := by
  unfold COmniFeeCache.pruneCache
  dsimp only
  split
  · exact hc
  · split
    · exact hc
    · split
      · -- the most recent entry alone: an entry of the old history
        rename_i mostRecent _ hlast
        refine hc.putHistory fun k v hkv => ?_
        have hmem := List.mem_of_getLast? hlast
        by_cases hk : mostRecent.1 = k
        · subst hk
          exact hc p mostRecent.1 mostRecent.2 (OrdMap.find?_of_mem hmem)
        · simp [hk] at hkv
      · refine hc.putHistory fun k v hkv => ?_
        by_cases hkeep : (!(debug && decide (k < block - maxStateHistory))) = true
        · rw [OrdMap.find?_filterKeys, if_pos hkeep] at hkv
          exact hc p k v hkv
        · rw [OrdMap.find?_filterKeys, if_neg hkeep] at hkv
          cases hkv

/-- **A cleared cache reads `0`** when no entry was after the block it is cleared at. -/
theorem getCachedAmount_clearCache {block : Int} {c : COmniFeeCache} (hc : CachedBefore block c)
    (debug : Bool) (p q : PropertyId) :
    (c.clearCache debug p block).getCachedAmount q = if p = q then 0 else c.getCachedAmount q := by
  rw [clearCache, getCachedAmount_pruneCache, getCachedAmount_putHistory,
    hc.latest_erase_insert p 0]
  rfl

theorem CachedBefore.clearCache {block : Int} {c : COmniFeeCache} (hc : CachedBefore block c)
    (debug : Bool) (p : PropertyId) : CachedBefore block (c.clearCache debug p block) :=
  (hc.putHistory (hc.erase_insert p 0)).pruneCache debug p block

/-- **A fee entry adds the fee to the cached amount of its property**, when no entry was after
the block it is written at. -/
theorem getCachedAmount_addFeeEntry {block : Int} {c c' : COmniFeeCache} (hc : CachedBefore block c)
    {debug : Bool} {p : PropertyId} {amount : Int} (h : c.addFeeEntry debug p block amount = .ok c')
    (q : PropertyId) : c'.getCachedAmount q = c.getCachedAmount q + if p = q then amount else 0 := by
  simp only [addFeeEntry] at h
  split at h
  · cases h
  · cases h
    rw [getCachedAmount_pruneCache, getCachedAmount_putHistory, hc.latest_erase_insert]
    split
    · rename_i hpq
      subst hpq
      rfl
    · rw [Int.add_zero]

theorem CachedBefore.addFeeEntry {block : Int} {c c' : COmniFeeCache} (hc : CachedBefore block c)
    {debug : Bool} {p : PropertyId} {amount : Int} (h : c.addFeeEntry debug p block amount = .ok c') :
    CachedBefore block c' := by
  simp only [COmniFeeCache.addFeeEntry] at h
  split at h
  · cases h
  · cases h
    exact (hc.putHistory (hc.erase_insert p _)).pruneCache debug p block

/-- One iteration of `RollBackCache`: a property whose most recent entry is below `block` is left
alone; any other loses its entries of `block` and later. -/
def rollBackProperty (c : COmniFeeCache) (block : Int) (propertyId : PropertyId) : COmniFeeCache :=
  let h := c.getCacheHistory propertyId
  match h.entries.getLast? with
  | none => c
  | some mostRecentItem =>
    if mostRecentItem.1 < block then c else c.putHistory propertyId (History.truncate h block)

/-- The identifiers `RollBackCache` walks: `1 ..< next_spid`, then
`TEST_ECO_PROPERTY_1 ..< next_test_spid`. -/
def rollBackIds (sp : CMPSPInfo) : List PropertyId :=
  List.range' 1 (sp.peekNextSPID 1 - 1) ++
    List.range' testEcoProperty1 (sp.peekNextSPID 2 - testEcoProperty1)

/-- **`RollBackCache(block)`** — `block` is inclusive: its entries are dropped too. -/
def rollBackCache (c : COmniFeeCache) (sp : CMPSPInfo) (block : Int) : COmniFeeCache :=
  (rollBackIds sp).foldl (fun c p => c.rollBackProperty block p) c

end COmniFeeCache

end WormholeCore
