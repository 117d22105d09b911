/-
# `WormholeCore.Fees` — the fee cache against the tally (fees.cpp, omnicore.cpp).

The store-level half of the fee cache (`FeeCache`) only rewrites histories. The functions here
also read or write the tally:

* `UpdateDistributionThresholds(propertyId)`: `max(1, getTotalTokens / OMNI_FEE_THRESHOLD)`;
* `DistributeCache(propertyId, block)`: split the cached amount between the holders of WHC (TWHC
  for a test-ecosystem property) with `STO_GetReceivers`, credit each receiver, assert that the
  whole amount went out, then `ClearCache`;
* `EvalCache`: distribute once the cached amount reaches the threshold (a property whose
  threshold was never set has threshold `0`, so it distributes on every fee);
* `AddFee` = the cache rewrite of `FeeCache.addFeeEntry`, then `EvalCache`;
* `NotifyTotalTokensChanged` = `UpdateDistributionThresholds`, then `EvalCache`.

`p_feehistory` (the record of past distributions, read only by RPC) is not modelled.

## What is proved here

* `frozenMono_assertUpdateTallyMap` — an asserted update never lowers the balance of a frozen
  pair: lowering one fails the assert;
* `creditAll_spec` — crediting a list of receivers moves the supply of the credited property by
  the sum of their amounts and changes nothing but the tally;
* `distributeCache_ok`, `evalCache_ok`, `addFee_ok`, `notifyTotalTokensChanged_ok` — the fee
  functions change only the tally and the fee cache, and lower no frozen balance;
* `distributeCache_ne_frozenAssert` and the same for the others — they never hit the
  frozen-address assert;
* `rollBackCache_loses_pruned_fee` — with `msc_debug_fees` set, pruning drops the entry a later
  `RollBackCache` inside the window needs, and the rolled-back cache differs from the one the flag
  off gives;
* `supply_addFee`, `wp_addFee` — from a sound state (`Sound`: counters in range, cached amounts
  non-negative, no cache entry after the block), `AddFee` fails only with one of `feeErrors`, or
  keeps the state sound and moves the supply plus cached amount of the fee's property by the fee:
  a distribution moves the whole cached amount back into the tally.
-/
import WormholeCore.State
import WormholeCore.Lib.WP

namespace WormholeCore

open Lib

namespace OmniState

/-! ## Never lowering a frozen balance -/

/-- **No frozen balance went down** between `s` and `s'`: every `BALANCE` of a pair frozen in `s`
is at least what it was. -/
def FrozenMono (s s' : OmniState) : Prop :=
  ∀ a p, isAddressFrozen s.frozen a p = true → s.tally.money a p .balance ≤ s'.tally.money a p .balance

theorem FrozenMono.refl (s : OmniState) : FrozenMono s s := fun _ _ _ => le_refl _

theorem FrozenMono.trans {s₁ s₂ s₃ : OmniState} (h₁₂ : FrozenMono s₁ s₂) (h₂₃ : FrozenMono s₂ s₃)
    (hfrozen : s₂.frozen = s₁.frozen) : FrozenMono s₁ s₃ := by
  intro a p hf
  have h2 := h₂₃ a p (hfrozen ▸ hf)
  exact le_trans (h₁₂ a p hf) h2

/-- **An asserted update never lowers a frozen balance**: lowering one fails the frozen-address
assert, so a successful update only raises balances of frozen pairs. -/
theorem frozenMono_assertUpdateTallyMap {s s' : OmniState} {who : Address} {p : PropertyId}
    {a : Int} (h : s.assertUpdateTallyMap who p a = .ok s') : FrozenMono s s' := by
  intro w p' hf
  rw [money_assertUpdateTallyMap h w p' .balance]
  split_ifs with hw
  · obtain ⟨rfl, rfl, -⟩ := hw
    -- a negative amount at a frozen pair would have failed the assert
    by_cases ha : a < 0
    · obtain ⟨m, hm, -⟩ := assertUpdateTallyMap_ok h
      have herr := (updateTallyMap_error_iff s.frozen s.tally w p' a .balance).mpr
        ⟨by omega, rfl, ha, hf⟩
      obtain ⟨e, he⟩ := herr
      rw [hm] at he
      cases he
    · omega
  · exact le_refl _

/-! ## Crediting receivers -/

/-- One receiver of a distribution credited, and `sent_so_far` advanced. -/
def creditReceiver (propertyId : PropertyId) (acc : OmniState × Int) (r : Int × Address) :
    Except String (OmniState × Int) := do
  let s ← acc.1.assertUpdateTallyMap r.2 propertyId r.1
  pure (s, acc.2 + r.1)

/-- **Crediting a list of receivers.** A successful run changes nothing but the tally, moves the
supply of the credited property by the sum of the amounts (and no other supply), advances
`sent_so_far` by that sum, and lowers no frozen balance. -/
theorem creditAll_spec (propertyId : PropertyId) :
    ∀ (rs : List (Int × Address)) (acc res : OmniState × Int),
      rs.foldlM (creditReceiver propertyId) acc = .ok res →
      (res.1.stores = acc.1.stores ∧ res.1.feeCache = acc.1.feeCache) ∧
        (∀ p', res.1.tally.sumHolding p' =
          acc.1.tally.sumHolding p' + if p' = propertyId then (rs.map Prod.fst).sum else 0) ∧
        res.2 = acc.2 + (rs.map Prod.fst).sum ∧ FrozenMono acc.1 res.1
  | [], acc, res, h => by
    simp only [List.foldlM_nil, Except.pure_eq_ok] at h
    subst h
    exact ⟨⟨rfl, rfl⟩, fun p' => by simp, by simp, FrozenMono.refl _⟩
  | r :: rs, acc, res, h => by
    simp only [List.foldlM_cons, Except.bind_eq_ok, creditReceiver, Except.pure_eq_ok] at h
    obtain ⟨acc₁, ⟨s₁, h₁, rfl⟩, hrest⟩ := h
    obtain ⟨⟨hst, hfee⟩, hsum, hsent, hmono⟩ :=
      creditAll_spec propertyId rs (s₁, acc.2 + r.1) res hrest
    obtain ⟨hst₁, hfee₁⟩ := assertUpdateTallyMap_frame h₁
    have hfz : s₁.frozen = acc.1.frozen := congrArg Prod.fst hst₁
    refine ⟨⟨hst.trans hst₁, hfee.trans hfee₁⟩, fun p' => ?_, ?_, ?_⟩
    · rw [hsum p', sumHolding_assertUpdateTallyMap h₁ p']
      by_cases hp : p' = propertyId
      · simp only [hp, if_true, List.map_cons, List.sum_cons]
        omega
      · simp [hp]
    · rw [hsent]
      simp only [List.map_cons, List.sum_cons]
      omega
    · exact FrozenMono.trans (frozenMono_assertUpdateTallyMap h₁) hmono hfz

/-- Crediting positive amounts never hits the frozen-address assert. -/
theorem creditAll_ne_frozenAssert (propertyId : PropertyId) (rs : List (Int × Address))
    (hpos : ∀ r ∈ rs, 0 < r.1) (acc : OmniState × Int) :
    rs.foldlM (creditReceiver propertyId) acc ≠ .error frozenAssert := by
  refine Except.foldlM_ne_error (fun _ => True) _ _ rs (fun b r hr _ => ⟨?_, fun _ _ => trivial⟩) acc
    trivial
  intro h
  simp only [creditReceiver, Except.bind_eq_error] at h
  rcases h with h | ⟨_, _, h⟩
  · exact assertUpdateTallyMap_ne_frozenAssert (.inl (le_of_lt (hpos r hr))) h
  · exact Except.pure_ne_error h

/-! ## Thresholds and distribution -/

/-- **`COmniFeeCache::UpdateDistributionThresholds(propertyId)`**. -/
def updateDistributionThresholds (s : OmniState) (propertyId : PropertyId) : OmniState :=
  let threshold := (getTotalTokens s propertyId).tdiv omniFeeThreshold
  let threshold := if threshold ≤ 0 then 1 else threshold
  { s with feeCache := { s.feeCache with
      distributionThresholds := s.feeCache.distributionThresholds.insert propertyId threshold } }

/-- **`COmniFeeCache::DistributeCache(propertyId, block)`**. -/
def distributeCache (debug : Bool) (s : OmniState) (propertyId : PropertyId) (block : Int) :
    Except String OmniState := do
  let cachedAmount := s.feeCache.getCachedAmount propertyId
  let holders := if isTestEcosystemProperty propertyId then omniPropertyTwhc else omniPropertyWhc
  let receiversSet ← stoGetReceivers s.tally s.frozen "FEEDISTRIBUTION" holders cachedAmount 0
  let credited ← receiversSet.foldlM (creditReceiver propertyId) (s, 0)
  if credited.2 ≠ cachedAmount then throw "DistributeCache: assert(sent_so_far == cachedAmount)"
  else pure { credited.1 with feeCache := credited.1.feeCache.clearCache debug propertyId block }

/-- **`COmniFeeCache::EvalCache(propertyId, block)`**. -/
def evalCache (debug : Bool) (s : OmniState) (propertyId : PropertyId) (block : Int) :
    Except String OmniState :=
  if s.feeCache.getDistributionThreshold propertyId ≤ s.feeCache.getCachedAmount propertyId then
    s.distributeCache debug propertyId block
  else pure s

/-- **`COmniFeeCache::AddFee(propertyId, block, amount)`**. -/
def addFee (debug : Bool) (s : OmniState) (propertyId : PropertyId) (block amount : Int) :
    Except String OmniState := do
  let c ← s.feeCache.addFeeEntry debug propertyId block amount
  { s with feeCache := c }.evalCache debug propertyId block

/-- **`NotifyTotalTokensChanged(propertyId, block)`**. -/
def notifyTotalTokensChanged (debug : Bool) (s : OmniState) (propertyId : PropertyId) (block : Int) :
    Except String OmniState :=
  (s.updateDistributionThresholds propertyId).evalCache debug propertyId block

/-! ## What the fee functions touch -/

/-- **What a successful distribution did**: it touched only the tally and the fee cache, and
lowered no frozen balance. -/
theorem distributeCache_ok {debug : Bool} {s s' : OmniState} {p : PropertyId} {block : Int}
    (h : s.distributeCache debug p block = .ok s') : s'.stores = s.stores ∧ FrozenMono s s' := by
  simp only [distributeCache, Except.bind_eq_ok] at h
  obtain ⟨rs, -, credited, hcred, hfin⟩ := h
  split at hfin
  · exact absurd hfin Except.throw_ne_ok
  rw [Except.pure_eq_ok] at hfin
  subst hfin
  obtain ⟨⟨hst, -⟩, -, -, hmono⟩ := creditAll_spec p rs (s, 0) credited hcred
  exact ⟨hst, hmono⟩

/-- **A distribution never hits the frozen-address assert**: it only credits. -/
theorem distributeCache_ne_frozenAssert (debug : Bool) (s : OmniState) (p : PropertyId)
    (block : Int) : s.distributeCache debug p block ≠ .error frozenAssert := by
  intro h
  simp only [distributeCache, Except.bind_eq_error] at h
  rcases h with h | ⟨rs, hrs, h | ⟨credited, -, h⟩⟩
  · exact absurd (stoGetReceivers_error h) (by decide)
  · exact creditAll_ne_frozenAssert p rs (fun r hr => ((stoGetReceivers_spec hrs).1 r hr).1) (s, 0) h
  · split at h
    · rw [Except.throw_eq_error] at h
      exact absurd h (by decide)
    · exact Except.pure_ne_error h

theorem evalCache_ok {debug : Bool} {s s' : OmniState} {p : PropertyId} {block : Int}
    (h : s.evalCache debug p block = .ok s') : s'.stores = s.stores ∧ FrozenMono s s' := by
  unfold evalCache at h
  split at h
  · exact distributeCache_ok h
  · rw [Except.pure_eq_ok] at h
    subst h
    exact ⟨rfl, FrozenMono.refl _⟩

theorem evalCache_ne_frozenAssert (debug : Bool) (s : OmniState) (p : PropertyId) (block : Int) :
    s.evalCache debug p block ≠ .error frozenAssert := by
  unfold evalCache
  split
  · exact distributeCache_ne_frozenAssert debug s p block
  · exact Except.pure_ne_error

/-- What a successful `AddFee` did: it touched only the tally and the fee cache, and lowered no
frozen balance. -/
theorem addFee_ok {debug : Bool} {s s' : OmniState} {p : PropertyId} {block amount : Int}
    (h : s.addFee debug p block amount = .ok s') : s'.stores = s.stores ∧ FrozenMono s s' := by
  simp only [addFee, Except.bind_eq_ok] at h
  obtain ⟨c, -, h⟩ := h
  obtain ⟨hst, hmono⟩ := evalCache_ok h
  exact ⟨hst, fun a q hf => hmono a q hf⟩

theorem addFee_ne_frozenAssert (debug : Bool) (s : OmniState) (p : PropertyId) (block amount : Int) :
    s.addFee debug p block amount ≠ .error frozenAssert := by
  intro h
  simp only [addFee, Except.bind_eq_error] at h
  rcases h with h | ⟨c, -, h⟩
  · -- the cache rewrite fails only with the overflow shutdown
    exact absurd (COmniFeeCache.addFeeEntry_error h) (by decide)
  · exact evalCache_ne_frozenAssert debug _ p block h

theorem notifyTotalTokensChanged_ok {debug : Bool} {s s' : OmniState} {p : PropertyId}
    {block : Int} (h : s.notifyTotalTokensChanged debug p block = .ok s') :
    s'.stores = s.stores ∧ FrozenMono s s' := by
  obtain ⟨hst, hmono⟩ := evalCache_ok h
  exact ⟨hst, fun a q hf => hmono a q hf⟩

theorem notifyTotalTokensChanged_ne_frozenAssert (debug : Bool) (s : OmniState) (p : PropertyId)
    (block : Int) : s.notifyTotalTokensChanged debug p block ≠ .error frozenAssert :=
  evalCache_ne_frozenAssert debug _ p block

/-- The messages the fee functions can fail with: those of the asserted updates and of
`STO_GetReceivers`, the distribution's own assert, and the shutdown on a cache overflow. -/
def feeErrors : List String :=
  tallyErrors ++ stoErrors ++
    ["DistributeCache: assert(sent_so_far == cachedAmount)", "Shutting down due to fee cache overflow"]

theorem errorsIn_creditReceiver (propertyId : PropertyId) (acc : OmniState × Int) (r : Int × Address) :
    Except.ErrorsIn feeErrors (creditReceiver propertyId acc r) :=
  Except.ErrorsIn.bind ((errorsIn_assertUpdateTallyMap _ _ _ _).mono fun e he => by
    simp [feeErrors, he]) fun _ => Except.ErrorsIn.pure

theorem errorsIn_distributeCache (debug : Bool) (s : OmniState) (p : PropertyId) (block : Int) :
    Except.ErrorsIn feeErrors (s.distributeCache debug p block) := by
  unfold distributeCache
  refine Except.ErrorsIn.bind (fun e he => by simp [feeErrors, stoGetReceivers_error he])
    fun rs => ?_
  refine Except.ErrorsIn.bind (Except.ErrorsIn.foldlM _ (errorsIn_creditReceiver p) rs _)
    fun credited => ?_
  split
  · exact Except.ErrorsIn.throw (by simp [feeErrors])
  · exact Except.ErrorsIn.pure

theorem errorsIn_evalCache (debug : Bool) (s : OmniState) (p : PropertyId) (block : Int) :
    Except.ErrorsIn feeErrors (s.evalCache debug p block) := by
  unfold evalCache
  split
  · exact errorsIn_distributeCache debug s p block
  · exact Except.ErrorsIn.pure

theorem errorsIn_addFee (debug : Bool) (s : OmniState) (p : PropertyId) (block amount : Int) :
    Except.ErrorsIn feeErrors (s.addFee debug p block amount) :=
  Except.ErrorsIn.bind (Except.ErrorsIn.of_eq (fun _ h => COmniFeeCache.addFeeEntry_error h)
    (by simp [feeErrors])) fun _ => errorsIn_evalCache _ _ _ _

theorem errorsIn_notifyTotalTokensChanged (debug : Bool) (s : OmniState) (p : PropertyId)
    (block : Int) : Except.ErrorsIn feeErrors (s.notifyTotalTokensChanged debug p block) :=
  errorsIn_evalCache _ _ _ _

/-! ## Supplies and the fee cache

A fee moves part of a supply from the tally into the cache, and a distribution moves the whole
cached amount back into the tally. So the tally supply of a property plus its cached amount moves
only by the fees added (`supply_addFee`). That needs the cache to hold no entry after the block
written at: the entry `AddFee` or `ClearCache` writes is then the most recent one. -/

/-- **A sound state at `block`**: every counter a holding counts is in `[0, INT64_MAX]`, every
cached amount is non-negative, and no entry of the cache is after `block`. -/
structure Sound (block : Int) (s : OmniState) : Prop where
  inRange : ∀ p, s.tally.InRange p
  cached : ∀ p, 0 ≤ s.feeCache.getCachedAmount p
  before : s.feeCache.CachedBefore block

/-- A fresh node holds nothing and has cached nothing: it is sound at every block. -/
theorem sound_fresh (cfg : NodeConfig) (block : Int) : (OmniState.fresh cfg).Sound block where
  inRange p e he := by cases he
  cached p := le_refl _
  before p k v hk := by cases hk

/-- **Soundness read off what a state lists**: the properties each tally lists are in range, and
each history the cache lists has a non-negative latest amount and no entry after `block`. A
property a tally does not list reads zero, and one the cache does not list has no history. -/
theorem Sound.of_entries {block : Int} {s : OmniState}
    (htally : ∀ e ∈ s.tally.entries, ∀ r ∈ e.2.mpToken.entries, e.2.InRange r.1)
    (hcache : ∀ h ∈ s.feeCache.db.entries,
      0 ≤ (History.latest h.2).getD 0 ∧ ∀ kv ∈ h.2.entries, kv.1 ≤ block) :
    s.Sound block where
  inRange p e he := by
    cases hp : e.2.mpToken.find? p with
    | none =>
      intro k _
      simp [CMPTally.getMoney_eq, hp, int64Max]
    | some r => exact htally e he (p, r) (OrdMap.mem_of_find? hp)
  cached p := by
    unfold COmniFeeCache.getCachedAmount COmniFeeCache.getCacheHistory
    cases hp : s.feeCache.db.find? p with
    | none =>
      -- an unlisted property's history is the empty map, with no latest checkpoint
      rw [OrdMap.findD, hp, Option.getD_none, History.latest, OrdMap.entries_empty]
      exact le_refl 0
    | some h => simpa [OrdMap.findD, hp] using (hcache (p, h) (OrdMap.mem_of_find? hp)).1
  before p k v hk := by
    unfold COmniFeeCache.getCacheHistory at hk
    cases hp : s.feeCache.db.find? p with
    | none => simp [OrdMap.findD, hp] at hk
    | some h =>
      rw [OrdMap.findD, hp, Option.getD_some] at hk
      exact (hcache (p, h) (OrdMap.mem_of_find? hp)).2 (k, v) (OrdMap.mem_of_find? hk)

/-- An asserted update keeps every counter in range and leaves the cache alone. -/
theorem Sound.assertUpdateTallyMap {block : Int} {s s' : OmniState} {who : Address}
    {p : PropertyId} {a : Int} (hs : s.Sound block) (h : s.assertUpdateTallyMap who p a = .ok s') :
    s'.Sound block := by
  obtain ⟨m, hm, rfl⟩ := assertUpdateTallyMap_ok h
  exact ⟨fun q => (hs.inRange q).updateTallyMap hm, hs.cached, hs.before⟩

/-- **Crediting receivers moves only balances of the credited property**, keeps every counter in
range and leaves the cache alone. -/
theorem creditAll_frame (propertyId : PropertyId) (rs : List (Int × Address)) {block : Int}
    {acc res : OmniState × Int} (hs : acc.1.Sound block)
    (h : rs.foldlM (creditReceiver propertyId) acc = .ok res) :
    res.1.Sound block ∧ res.1.feeCache = acc.1.feeCache ∧
      ∀ a q k, (k ≠ .balance ∨ q ≠ propertyId) → res.1.tally.money a q k = acc.1.tally.money a q k := by
  refine Except.foldlM_inv (fun r : OmniState × Int => r.1.Sound block ∧
      r.1.feeCache = acc.1.feeCache ∧
      ∀ a q k, (k ≠ .balance ∨ q ≠ propertyId) → r.1.tally.money a q k = acc.1.tally.money a q k)
    _ rs ?_ acc res ⟨hs, rfl, fun _ _ _ _ => rfl⟩ h
  intro r₁ rcv _ r₂ ⟨hs₁, hfee₁, hmoney₁⟩ hstep
  simp only [creditReceiver, Except.bind_eq_ok, Except.pure_eq_ok] at hstep
  obtain ⟨s₂, h₂, rfl⟩ := hstep
  refine ⟨hs₁.assertUpdateTallyMap h₂, (assertUpdateTallyMap_frame h₂).2.trans hfee₁, ?_⟩
  intro a q k hk
  rw [money_assertUpdateTallyMap h₂, if_neg, hmoney₁ a q k hk]
  rintro ⟨-, rfl, rfl⟩
  simp at hk

/-- **A distribution hands the whole cached amount to the tally**: supply plus cache is kept for
every property, and the cache of the distributed property reads `0`. -/
theorem distributeCache_supply {debug : Bool} {s s' : OmniState} {p : PropertyId} {block : Int}
    (hs : s.Sound block) (h : s.distributeCache debug p block = .ok s') :
    s'.Sound block ∧
      (∀ q, s'.tally.sumHolding q + s'.feeCache.getCachedAmount q =
        s.tally.sumHolding q + s.feeCache.getCachedAmount q) ∧
      ∀ a q k, (k ≠ .balance ∨ q ≠ p) → s'.tally.money a q k = s.tally.money a q k := by
  simp only [distributeCache, Except.bind_eq_ok] at h
  obtain ⟨rs, -, credited, hcred, hfin⟩ := h
  split at hfin
  · exact absurd hfin Except.throw_ne_ok
  rename_i hsent
  rw [Except.pure_eq_ok] at hfin
  subst hfin
  obtain ⟨-, hsum, hsent', -⟩ := creditAll_spec p rs (s, 0) credited hcred
  obtain ⟨hs₁, hfee, hmoney⟩ := creditAll_frame p rs hs hcred
  -- the assert passed: what went out is the cached amount
  have hout : (rs.map Prod.fst).sum = s.feeCache.getCachedAmount p := by
    rw [hsent'] at hsent
    simpa using hsent
  have hcache := COmniFeeCache.getCachedAmount_clearCache (hfee ▸ hs.before) debug p
  refine ⟨⟨hs₁.inRange, fun q => ?_, ?_⟩, fun q => ?_, hmoney⟩
  · rw [hcache q]
    split
    · exact le_refl 0
    · exact hfee ▸ hs.cached q
  · exact (hfee ▸ hs.before).clearCache debug p
  · dsimp only
    rw [hcache q, hsum q, hfee]
    by_cases hpq : p = q
    · subst hpq
      simp only [if_true, hout]
      omega
    · simp [hpq, Ne.symm hpq]

theorem evalCache_supply {debug : Bool} {s s' : OmniState} {p : PropertyId} {block : Int}
    (hs : s.Sound block) (h : s.evalCache debug p block = .ok s') :
    s'.Sound block ∧
      (∀ q, s'.tally.sumHolding q + s'.feeCache.getCachedAmount q =
        s.tally.sumHolding q + s.feeCache.getCachedAmount q) ∧
      ∀ a q k, (k ≠ .balance ∨ q ≠ p) → s'.tally.money a q k = s.tally.money a q k := by
  unfold evalCache at h
  split at h
  · exact distributeCache_supply hs h
  · rw [Except.pure_eq_ok] at h
    subst h
    exact ⟨hs, fun _ => rfl, fun _ _ _ _ => rfl⟩

/-- **`AddFee` moves a supply only by the fee**: the tally supply plus the cached amount of the
fee's property grows by the fee, every other one is kept, and only balances of the fee's property
move. -/
theorem supply_addFee {debug : Bool} {s s' : OmniState} {p : PropertyId} {block amount : Int}
    (hs : s.Sound block) (hamount : 0 ≤ amount) (h : s.addFee debug p block amount = .ok s') :
    s'.Sound block ∧
      (∀ q, s'.tally.sumHolding q + s'.feeCache.getCachedAmount q =
        s.tally.sumHolding q + s.feeCache.getCachedAmount q + if p = q then amount else 0) ∧
      ∀ a q k, (k ≠ .balance ∨ q ≠ p) → s'.tally.money a q k = s.tally.money a q k := by
  simp only [addFee, Except.bind_eq_ok] at h
  obtain ⟨c, hc, h⟩ := h
  have hcached := COmniFeeCache.getCachedAmount_addFeeEntry hs.before hc
  -- the state with the fee written in, before `EvalCache`
  have hs₁ : ({ s with feeCache := c } : OmniState).Sound block := by
    refine ⟨hs.inRange, fun q => ?_, hs.before.addFeeEntry hc⟩
    show 0 ≤ c.getCachedAmount q
    rw [hcached q]
    have := hs.cached q
    split <;> omega
  obtain ⟨hs', hsupply, hmoney⟩ := evalCache_supply hs₁ h
  refine ⟨hs', fun q => ?_, hmoney⟩
  rw [hsupply q]
  show s.tally.sumHolding q + c.getCachedAmount q = _
  rw [hcached q]
  omega

/-- **Every outcome of `AddFee`** from a sound state: one of the fee functions' messages, or a
sound state with the same stores, whose supply plus cache moved by the fee, and where only
balances of the fee's property moved. -/
theorem wp_addFee {debug : Bool} {s : OmniState} {p : PropertyId} {block amount : Int}
    (hs : s.Sound block) (hamount : 0 ≤ amount) :
    Except.WP (s.addFee debug p block amount)
      (fun s' => s'.Sound block ∧ s'.stores = s.stores ∧
        (∀ q, s'.tally.sumHolding q + s'.feeCache.getCachedAmount q =
          s.tally.sumHolding q + s.feeCache.getCachedAmount q + if p = q then amount else 0) ∧
        ∀ a q k, (k ≠ .balance ∨ q ≠ p) → s'.tally.money a q k = s.tally.money a q k)
      (· ∈ feeErrors) := by
  cases h : s.addFee debug p block amount with
  | error e => exact errorsIn_addFee debug s p block amount e h
  | ok s' =>
    obtain ⟨hs', hsupply, hmoney⟩ := supply_addFee hs hamount h
    exact ⟨hs', (addFee_ok h).1, hsupply, hmoney⟩

/-- A counter a holding counts, read from a sound state, is in `[0, INT64_MAX]`. -/
theorem Sound.money_mem {block : Int} {s : OmniState} (hs : s.Sound block) (a : Address)
    (p : PropertyId) {k : TallyType} (hk : k ∈ CMPTally.countedTypes) :
    0 ≤ s.tally.money a p k ∧ s.tally.money a p k ≤ int64Max :=
  ((hs.inRange p).findD a) k hk

/-- A counter a holding counts is at most the supply, in a sound state. -/
theorem Sound.money_le_sumHolding {block : Int} {s : OmniState} (hs : s.Sound block)
    (a : Address) (p : PropertyId) {k : TallyType} (hk : k ∈ CMPTally.countedTypes) :
    s.tally.money a p k ≤ s.tally.sumHolding p := by
  have hhold := TallyMap.holding_le_sumHolding (hs.inRange p) a
  have h₁ := (hs.money_mem a p (k := .balance) (by decide)).1
  have h₂ := (hs.money_mem a p (k := .sellofferReserve) (by decide)).1
  have h₃ := (hs.money_mem a p (k := .acceptReserve) (by decide)).1
  have h₄ := (hs.money_mem a p (k := .metadexReserve) (by decide)).1
  rw [TallyMap.holding_eq] at hhold
  simp only [CMPTally.countedTypes, List.mem_cons, List.mem_nil_iff, or_false] at hk
  rcases hk with rfl | rfl | rfl | rfl <;> omega

/-! ## Rolling the cache back -/

/-- The run of the rollback below: one address holds `10^8` WHC, the thresholds are set, a fee of
`5` is cached at block `10` and one of `3` at block `100`. The cached WHC after the first fee, and
after `RollBackCache(100)` once both are in. -/
def feesRolledBackTo100 (debug : Bool) : Except String (Int × Int) := do
  let s ← (OmniState.fresh ⟨.main, debug⟩).assertUpdateTallyMap "holder" omniPropertyWhc 100000000
  let s₁ ← (s.updateDistributionThresholds omniPropertyWhc).addFee debug omniPropertyWhc 10 5
  let s₂ ← s₁.addFee debug omniPropertyWhc 100 3
  pure (s₁.feeCache.getCachedAmount omniPropertyWhc,
    (s₂.feeCache.rollBackCache s₂.sps 100).getCachedAmount omniPropertyWhc)

/-- **A rollback inside the pruning window loses a fee when `msc_debug_fees` is set.** The WHC
threshold is `1000`, so neither fee of `feesRolledBackTo100` is distributed, and the fee of block
`10` leaves `5` in the cache. The fee of block `100` prunes the entry of block `10` (older than
`100 - MAX_STATE_HISTORY`) only with the flag on, and `RollBackCache(100)` then finds no entry below
block `100`: the cache reads `0`, not the `5` that the fees below block `100` left. With the flag
off it reads `5`. -/
theorem rollBackCache_loses_pruned_fee :
    feesRolledBackTo100 true = .ok (5, 0) ∧ feesRolledBackTo100 false = .ok (5, 5) := by
  decide

end OmniState

end WormholeCore
