/-
# `WormholeCore.Erc721Supply` — the counters of an ERC721 property against its tokens.

An ERC721 property counts its tokens twice: `haveIssuedNumber`, every token issued, and
`currentValidIssuedNumer`, those not destroyed. A token is never deleted: `destroytoken` hands it
to the burn address. The counters live in `CMPSPERC721Info`, the tokens in `ERC721TokenInfos`,
each behind its own write-back cache, and the handlers read both through the caches; looking a
record up loads it into the cache.

What is proved here, for a run of ERC721 transactions (issue a property, issue, transfer or
destroy a token) from senders other than the burn address, with flushes of both stores between
them, from a state whose ERC721 stores are empty:

* `tokenIds`, `liveIds` — a property's tokens and those the burn address does not hold, as finite
  sets, each with its membership lemma; a handler that changes one token moves them by one;
* `Erc721Kept` — a cache load changes nothing a handler reads;
* `nextFreeTokenId_spec` — the probe for a free identifier ends at one: its fuel is more than the
  property's tokens, which are fewer than `2^64` (`Lib.Probe.exists_free_probe`);
* `Erc721Inv` — the invariant: coherent caches, every property below the next identifier and paid
  for (the creation fees in the burn address's balance bound the identifiers, so they never
  wrap), every token of an existing property, and each property `Counted`; one lemma per handler
  keeps it, and `Erc721Inv.run` carries it along a run;
* `erc721_supply_counters` — the counters, the free automatic identifier, and a destroyed token
  that stays destroyed.
-/
import WormholeCore.Purchase
import WormholeCore.Lib.Probe
import WormholeCore.Lib.WP
import Mathlib.Data.Finset.Card
import Mathlib.Logic.Relation

namespace WormholeCore

open Lib

/-! ## A property's tokens, counted -/

namespace ERC721TokenInfos

/-- The identifiers of a property's tokens: the cached and stored keys of the property that hold a
record. -/
def tokenIds (s : ERC721TokenInfos) (propertyID : Uint256) : Finset Uint256 :=
  let stored := s.db.live.keys.filterMap fun k =>
    if (ofLex k).1 = propertyID then some (ofLex k).2 else none
  ((s.cacheTokens propertyID).keys ++ stored).toFinset.filter fun t =>
    (s.view propertyID t).isSome

/-- The identifiers of a property's tokens that `burn` does not hold. -/
def liveIds (s : ERC721TokenInfos) (propertyID : Uint256) (burn : Address) : Finset Uint256 :=
  (s.tokenIds propertyID).filter fun t => (s.view propertyID t).map TokenInfo.owner ≠ some burn

theorem mem_tokenIds {s : ERC721TokenInfos} {p t : Uint256} :
    t ∈ s.tokenIds p ↔ (s.view p t).isSome := by
  unfold tokenIds
  rw [Finset.mem_filter, List.mem_toFinset, List.mem_append]
  refine ⟨And.right, fun h => ⟨?_, h⟩⟩
  -- a record is cached, or stored under the property's key
  unfold view at h
  cases hc : (s.cacheTokens p).find? t with
  | some e => exact .inl (List.mem_map.mpr ⟨(t, e), OrdMap.mem_of_find? hc, rfl⟩)
  | none =>
    rw [hc] at h
    obtain ⟨v, hv⟩ := Option.isSome_iff_exists.mp h
    refine .inr (List.mem_filterMap.mpr ⟨toLex (p, t), ?_, by simp⟩)
    exact List.mem_map.mpr ⟨_, OrdMap.mem_of_find? hv, rfl⟩

theorem mem_liveIds {s : ERC721TokenInfos} {p t : Uint256} {a : Address} :
    t ∈ s.liveIds p a ↔ ∃ i, s.view p t = some i ∧ i.owner ≠ a := by
  unfold liveIds
  rw [Finset.mem_filter, mem_tokenIds]
  cases s.view p t <;> simp

theorem liveIds_subset (s : ERC721TokenInfos) (p : Uint256) (a : Address) :
    s.liveIds p a ⊆ s.tokenIds p :=
  Finset.filter_subset _ _

/-- A property has at most as many tokens as there are cached and stored records. -/
theorem card_tokenIds_le (s : ERC721TokenInfos) (p : Uint256) :
    (s.tokenIds p).card ≤ (s.cacheTokens p).size + s.db.live.size := by
  unfold tokenIds
  calc _ ≤ (((s.cacheTokens p).keys ++ _).toFinset).card := Finset.card_filter_le _ _
    _ ≤ ((s.cacheTokens p).keys ++ _).length := List.toFinset_card_le _
    _ ≤ (s.cacheTokens p).size + s.db.live.size := by
      rw [List.length_append]
      refine Nat.add_le_add (le_of_eq ?_) ((List.length_filterMap_le _ _).trans (le_of_eq ?_))
      · simp [OrdMap.keys, OrdMap.size]
      · simp [OrdMap.keys, OrdMap.size]

theorem tokenIds_congr {s s' : ERC721TokenInfos} {p : Uint256}
    (h : ∀ t, s'.view p t = s.view p t) : s'.tokenIds p = s.tokenIds p := by
  ext t
  rw [mem_tokenIds, mem_tokenIds, h]

theorem liveIds_congr {s s' : ERC721TokenInfos} {p : Uint256} {a : Address}
    (h : ∀ t, s'.view p t = s.view p t) : s'.liveIds p a = s.liveIds p a := by
  ext t
  rw [mem_liveIds, mem_liveIds, h]

/-! ### One token changed -/

section OneToken

variable {s s' : ERC721TokenInfos} {p t : Uint256} {a : Address}

/-- A token that has a record afterwards is one of the property's tokens, the others unchanged. -/
theorem tokenIds_of_isSome (hrest : ∀ u, u ≠ t → s'.view p u = s.view p u)
    (ht : (s'.view p t).isSome) : s'.tokenIds p = insert t (s.tokenIds p) := by
  ext u
  rw [Finset.mem_insert, mem_tokenIds, mem_tokenIds]
  by_cases hu : u = t
  · subst hu
    simp [ht]
  · rw [hrest u hu]
    simp [hu]

/-- A token that `a` does not hold afterwards is live. -/
theorem liveIds_of_live (hrest : ∀ u, u ≠ t → s'.view p u = s.view p u)
    (ht : ∃ i, s'.view p t = some i ∧ i.owner ≠ a) :
    s'.liveIds p a = insert t (s.liveIds p a) := by
  ext u
  rw [Finset.mem_insert, mem_liveIds, mem_liveIds]
  by_cases hu : u = t
  · subst hu
    simp only [true_or, iff_true]
    exact ht
  · rw [hrest u hu]
    simp [hu]

/-- A token that `a` holds afterwards is not live. -/
theorem liveIds_of_burnt (hrest : ∀ u, u ≠ t → s'.view p u = s.view p u)
    (ht : ∀ i, s'.view p t = some i → i.owner = a) :
    s'.liveIds p a = (s.liveIds p a).erase t := by
  ext u
  rw [Finset.mem_erase, mem_liveIds, mem_liveIds]
  by_cases hu : u = t
  · subst hu
    simp only [ne_eq, not_true_eq_false, false_and, iff_false]
    rintro ⟨i, hi, hne⟩
    exact hne (ht i hi)
  · rw [hrest u hu]
    simp [hu]

end OneToken

end ERC721TokenInfos

/-! ## Cache loads -/

/-- **What a cache load changes**: nothing a handler reads. Both stores answer every lookup as
before, the next property identifier and the tally are kept, and a coherent cache stays so. -/
structure Erc721Kept (s s' : OmniState) : Prop where
  sps : ∀ q, s'.erc721sps.view q = s.erc721sps.view q
  tokens : ∀ p t, s'.erc721tokens.view p t = s.erc721tokens.view p t
  next : s'.erc721sps.nextErc721spid = s.erc721sps.nextErc721spid
  tally : s'.tally = s.tally
  spsCoherent : s.erc721sps.Coherent → s'.erc721sps.Coherent
  tokensCoherent : s.erc721tokens.Coherent → s'.erc721tokens.Coherent

namespace Erc721Kept

theorem refl (s : OmniState) : Erc721Kept s s :=
  ⟨fun _ => rfl, fun _ _ => rfl, rfl, rfl, id, id⟩

theorem trans {s₁ s₂ s₃ : OmniState} (h₁ : Erc721Kept s₁ s₂) (h₂ : Erc721Kept s₂ s₃) :
    Erc721Kept s₁ s₃ where
  sps q := (h₂.sps q).trans (h₁.sps q)
  tokens p t := (h₂.tokens p t).trans (h₁.tokens p t)
  next := h₂.next.trans h₁.next
  tally := h₂.tally.trans h₁.tally
  spsCoherent h := h₂.spsCoherent (h₁.spsCoherent h)
  tokensCoherent h := h₂.tokensCoherent (h₁.tokensCoherent h)

/-- `getForUpdateSP` loads a property. -/
theorem getForUpdateSP (s : OmniState) (p : Uint256) :
    Erc721Kept s { s with erc721sps := (s.erc721sps.getForUpdateSP p).2 } where
  sps := CMPSPERC721Info.view_getForUpdateSP s.erc721sps p
  tokens _ _ := rfl
  next := CMPSPERC721Info.nextErc721spid_getForUpdateSP s.erc721sps p
  tally := rfl
  spsCoherent h := h.getForUpdateSP p
  tokensCoherent := id

/-- `getForUpdateToken` loads a token. -/
theorem getForUpdateToken (s : OmniState) (p t : Uint256) :
    Erc721Kept s { s with erc721tokens := (s.erc721tokens.getForUpdateToken p t).2 } where
  sps _ := rfl
  tokens := ERC721TokenInfos.view_getForUpdateToken s.erc721tokens p t
  next := rfl
  tally := rfl
  spsCoherent := id
  tokensCoherent h := h.getForUpdateToken p t

end Erc721Kept

namespace CMPTransaction

/-- `existToken` reads both stores through their caches. -/
theorem existToken_fst (s : OmniState) (p t : Uint256) :
    (existToken s p t).1 = ((s.erc721sps.view p).isSome && (s.erc721tokens.view p t).isSome) := by
  have hsp : (s.erc721sps.getForUpdateSP p).1.isSome = (s.erc721sps.view p).isSome := by
    rw [← CMPSPERC721Info.getForUpdateSP_fst, Option.isSome_map]
  dsimp only [existToken, CMPSPERC721Info.existSP]
  simp only [hsp]
  cases (s.erc721sps.view p).isSome
  · rfl
  · simp only [Bool.not_true, Bool.false_eq_true, if_false, Bool.true_and,
      ERC721TokenInfos.cacheTokens_touch, ERC721TokenInfos.db_touch]
    unfold ERC721TokenInfos.view
    cases (s.erc721tokens.cacheTokens p).find? t with
    | some _ => rfl
    | none => cases s.erc721tokens.db.live.find? (toLex (p, t)) <;> rfl

/-- `existToken` loads the property, and the token if the property exists. -/
theorem existToken_snd (s : OmniState) (p t : Uint256) :
    (existToken s p t).2 =
      if (s.erc721sps.view p).isSome then
        { s with erc721sps := (s.erc721sps.getForUpdateSP p).2,
                 erc721tokens := (s.erc721tokens.getForUpdateToken p t).2 }
      else { s with erc721sps := (s.erc721sps.getForUpdateSP p).2 } := by
  have hsp : (s.erc721sps.getForUpdateSP p).1.isSome = (s.erc721sps.view p).isSome := by
    rw [← CMPSPERC721Info.getForUpdateSP_fst, Option.isSome_map]
  dsimp only [existToken, CMPSPERC721Info.existSP, ERC721TokenInfos.getForUpdateToken]
  simp only [hsp]
  cases (s.erc721sps.view p).isSome
  · rfl
  · simp only [Bool.not_true, Bool.false_eq_true, if_false, if_true]
    cases ((s.erc721tokens.touch p).cacheTokens p).find? t with
    | some _ => rfl
    | none => cases (s.erc721tokens.touch p).db.live.find? (toLex (p, t)) <;> rfl

end CMPTransaction

theorem Erc721Kept.existToken (s : OmniState) (p t : Uint256) :
    Erc721Kept s (CMPTransaction.existToken s p t).2 := by
  rw [CMPTransaction.existToken_snd]
  split
  · exact (getForUpdateSP s p).trans (getForUpdateToken _ p t)
  · exact getForUpdateSP s p

/-- A flush of coherent caches changes nothing a handler reads either. -/
theorem Erc721Kept.flush {s : OmniState} (hsps : s.erc721sps.Coherent)
    (htokens : s.erc721tokens.Coherent) (blockHash : Uint256) :
    Erc721Kept s { s with erc721sps := s.erc721sps.flush blockHash,
                          erc721tokens := s.erc721tokens.flush blockHash } where
  sps := CMPSPERC721Info.view_flush hsps blockHash
  tokens := ERC721TokenInfos.view_flush htokens blockHash
  next := CMPSPERC721Info.nextErc721spid_flush s.erc721sps blockHash
  tally := rfl
  spsCoherent _ := CMPSPERC721Info.Coherent.flush s.erc721sps blockHash
  tokensCoherent _ := ERC721TokenInfos.Coherent.flush s.erc721tokens blockHash

/-- The probe's counter is `uint64_t`'s `++`. -/
theorem iterate_incU64 {tmp : Nat} (h : tmp < 2 ^ 64) (i : Nat) :
    incU64^[i] tmp = (tmp + i) % 2 ^ 64 :=
  Probe.iterate_inc h i

/-- **The probe for a free identifier.** From a state where the property exists, and one of the
next `fuel` probes finds no token, the walk ends at an identifier with no token, the counter one
past it, in a state that differs from the start by cache loads only. -/
theorem nextFreeTokenId_spec (p : Uint256) :
    ∀ (fuel tmp : Nat) (s : OmniState), (s.erc721sps.view p).isSome →
      (∃ i < fuel, s.erc721tokens.view p (incU64^[i] tmp) = none) →
      ∃ t s', CMPTransaction.nextFreeTokenId p fuel tmp s = .ok (t, incU64 t, s') ∧
        s.erc721tokens.view p t = none ∧ Erc721Kept s s'
  | 0, _, _, _, ⟨_, hi, _⟩ => absurd hi (Nat.not_lt_zero _)
  | fuel + 1, tmp, s, hp, ⟨i, hi, hfree⟩ => by
    have hk := Erc721Kept.existToken s p tmp
    dsimp only [CMPTransaction.nextFreeTokenId]
    cases hex : (CMPTransaction.existToken s p tmp).1
    · -- the probe is free: the property exists, so the token does not
      have hnone : s.erc721tokens.view p tmp = none := by
        rw [CMPTransaction.existToken_fst, hp, Bool.true_and] at hex
        simpa using hex
      exact ⟨tmp, _, rfl, hnone, hk⟩
    · -- the probe is taken: the free one is further on, and the walk goes on from the next
      have htaken : (s.erc721tokens.view p tmp).isSome := by
        rw [CMPTransaction.existToken_fst, hp, Bool.true_and] at hex
        exact hex
      obtain ⟨j, rfl⟩ : ∃ j, i = j + 1 := by
        cases i with
        | zero =>
          rw [Function.iterate_zero_apply] at hfree
          rw [hfree] at htaken
          exact absurd htaken Bool.false_ne_true
        | succ j => exact ⟨j, rfl⟩
      have hrest : ∃ j' < fuel, (CMPTransaction.existToken s p tmp).2.erc721tokens.view p
          (incU64^[j'] (incU64 tmp)) = none := by
        refine ⟨j, by omega, ?_⟩
        rw [hk.tokens, ← Function.iterate_succ_apply]
        exact hfree
      obtain ⟨t, s', hrun, ht, hk'⟩ :=
        nextFreeTokenId_spec p fuel (incU64 tmp) _ (by rw [hk.sps]; exact hp) hrest
      exact ⟨t, s', hrun, by rwa [← hk.tokens], hk.trans hk'⟩

/-! ## The invariant -/

/-- **A property's counters against its tokens.** -/
structure Counted (tokens : ERC721TokenInfos) (burn : Address) (p : Uint256)
    (info : CMPSPERC721Info.PropertyInfo) : Prop where
  issued : info.haveIssuedNumber = (tokens.tokenIds p).card
  le_max : info.haveIssuedNumber ≤ info.maxTokens
  max_lt : info.maxTokens < 2 ^ 64
  valid : info.currentValidIssuedNumer = (tokens.liveIds p burn).card
  autoNext_lt : info.autoNextTokenID < 2 ^ 64

/-- **The invariant of the ERC721 stores.** -/
structure Erc721Inv (cfg : NodeConfig) (s : OmniState) : Prop where
  spsCoherent : s.erc721sps.Coherent
  tokensCoherent : s.erc721tokens.Coherent
  below : ∀ q, (s.erc721sps.view q).isSome → q < s.erc721sps.nextErc721spid
  paid : ((s.erc721sps.nextErc721spid : Int) - 1) * createTokenFee ≤
    s.tally.money cfg.burnwhcAddress omniPropertyWhc .balance
  capped : s.erc721sps.nextErc721spid = 1 ∨
    s.tally.money cfg.burnwhcAddress omniPropertyWhc .balance ≤ int64Max
  owned : ∀ p t, (s.erc721tokens.view p t).isSome → (s.erc721sps.view p).isSome
  counted : ∀ p info, s.erc721sps.view p = some info →
    Counted s.erc721tokens cfg.burnwhcAddress p info

/-- Counting is about the views only. -/
theorem Counted.congr {tokens tokens' : ERC721TokenInfos} {burn : Address} {p : Uint256}
    {info : CMPSPERC721Info.PropertyInfo} (hc : Counted tokens burn p info)
    (h : ∀ t, tokens'.view p t = tokens.view p t) : Counted tokens' burn p info where
  issued := by rw [ERC721TokenInfos.tokenIds_congr h]; exact hc.issued
  le_max := hc.le_max
  max_lt := hc.max_lt
  valid := by rw [ERC721TokenInfos.liveIds_congr h]; exact hc.valid
  autoNext_lt := hc.autoNext_lt

/-- **A token handed to the burn address**: still issued, no longer valid. -/
theorem Counted.burnToken {tokens tokens' : ERC721TokenInfos} {burn : Address} {p T : Uint256}
    {info : CMPSPERC721Info.PropertyInfo} (hc : Counted tokens burn p info)
    (hT : T ∈ tokens.liveIds p burn) (hids : tokens'.tokenIds p = tokens.tokenIds p)
    (hlive : tokens'.liveIds p burn = (tokens.liveIds p burn).erase T) :
    Counted tokens' burn p
      { info with currentValidIssuedNumer := decU64 info.currentValidIssuedNumer } where
  issued := hc.issued.trans (congrArg Finset.card hids.symm)
  le_max := hc.le_max
  max_lt := hc.max_lt
  valid := by
    -- the token was live, so the valid count is positive and `--` does not wrap
    have hpos : 0 < (tokens.liveIds p burn).card := Finset.card_pos.mpr ⟨T, hT⟩
    have hsub := Finset.card_le_card (ERC721TokenInfos.liveIds_subset tokens p burn)
    have hvalid := hc.valid
    have hissued := hc.issued
    have hmax := hc.le_max
    have hmax64 := hc.max_lt
    calc decU64 info.currentValidIssuedNumer = info.currentValidIssuedNumer - 1 :=
          decU64_of_pos (by omega) (by omega)
      _ = ((tokens.liveIds p burn).erase T).card := by
          rw [Finset.card_erase_of_mem hT, hvalid]
      _ = (tokens'.liveIds p burn).card := by rw [hlive]
  autoNext_lt := hc.autoNext_lt

/-- **A new property has no tokens yet**, and zero counters count them. -/
theorem Counted.fresh {tokens : ERC721TokenInfos} {burn : Address} {p : Uint256}
    {info : CMPSPERC721Info.PropertyInfo} (hnone : ∀ t, tokens.view p t = none)
    (hissued : info.haveIssuedNumber = 0) (hvalid : info.currentValidIssuedNumer = 0)
    (hmax : info.maxTokens < 2 ^ 64) (hauto : info.autoNextTokenID < 2 ^ 64) :
    Counted tokens burn p info := by
  have hempty : tokens.tokenIds p = ∅ := Finset.eq_empty_of_forall_notMem fun t ht => by
    rw [ERC721TokenInfos.mem_tokenIds, hnone t] at ht
    exact Bool.false_ne_true ht
  have hlive : tokens.liveIds p burn = ∅ :=
    Finset.subset_empty.mp (hempty ▸ ERC721TokenInfos.liveIds_subset tokens p burn)
  refine ⟨?_, ?_, hmax, ?_, hauto⟩
  · rw [hempty, hissued]
    rfl
  · rw [hissued]
    exact Nat.zero_le _
  · rw [hlive, hvalid]
    rfl

/-- **A token issued under a free identifier**: both counters go up by one, and neither wraps. -/
theorem Counted.issueToken {tokens tokens' : ERC721TokenInfos} {burn : Address} {p T : Uint256}
    {info : CMPSPERC721Info.PropertyInfo} {autoNext : Nat} (hc : Counted tokens burn p info)
    (hT : T ∉ tokens.tokenIds p) (hids : tokens'.tokenIds p = insert T (tokens.tokenIds p))
    (hlive : tokens'.liveIds p burn = insert T (tokens.liveIds p burn))
    (hmax : info.haveIssuedNumber ≠ info.maxTokens) (hauto : autoNext < 2 ^ 64) :
    Counted tokens' burn p
      { info with haveIssuedNumber := incU64 info.haveIssuedNumber,
                  currentValidIssuedNumer := incU64 info.currentValidIssuedNumer,
                  autoNextTokenID := autoNext } := by
  have hissued := hc.issued
  have hvalid := hc.valid
  have hle := hc.le_max
  have h64 := hc.max_lt
  have hsub := Finset.card_le_card (ERC721TokenInfos.liveIds_subset tokens p burn)
  -- below `maxTokens`, itself a `uint64_t`, so neither `++` wraps
  have hinc : incU64 info.haveIssuedNumber = info.haveIssuedNumber + 1 := incU64_of_lt (by omega)
  have hincv : incU64 info.currentValidIssuedNumer = info.currentValidIssuedNumer + 1 :=
    incU64_of_lt (by omega)
  refine ⟨?_, ?_, h64, ?_, hauto⟩
  · show incU64 info.haveIssuedNumber = _
    rw [hids, Finset.card_insert_of_notMem hT, hinc, hissued]
  · show incU64 info.haveIssuedNumber ≤ info.maxTokens
    omega
  · show incU64 info.currentValidIssuedNumer = _
    rw [hlive, Finset.card_insert_of_notMem fun h => hT (ERC721TokenInfos.liveIds_subset _ _ _ h),
      hincv, hvalid]

namespace Erc721Inv

variable {cfg : NodeConfig} {s s' : OmniState}

theorem of_kept (h : Erc721Inv cfg s) (hk : Erc721Kept s s') : Erc721Inv cfg s' where
  spsCoherent := hk.spsCoherent h.spsCoherent
  tokensCoherent := hk.tokensCoherent h.tokensCoherent
  below q hq := by
    rw [hk.next]
    exact h.below q (by rwa [← hk.sps])
  paid := by
    rw [hk.next, hk.tally]
    exact h.paid
  capped := by
    rw [hk.next, hk.tally]
    exact h.capped
  owned p t ht := by
    rw [hk.sps]
    exact h.owned p t (by rwa [← hk.tokens])
  counted p info hp := by
    exact (h.counted p info (by rwa [← hk.sps])).congr (hk.tokens p)

/-- The fees paid bound the identifiers: the next one does not wrap. -/
theorem next_succ_lt (h : Erc721Inv cfg s) : s.erc721sps.nextErc721spid + 1 < 2 ^ 256 := by
  have hpaid := h.paid
  unfold createTokenFee whc at hpaid
  rcases h.capped with h1 | hcap
  · rw [h1]
    norm_num
  · unfold int64Max at hcap
    -- stated over `Nat`, where `omega` reads the identifier's arithmetic
    have hbound : ∀ n : Nat, ((n : Int) - 1) * (1 * 100000000) ≤
        s.tally.money cfg.burnwhcAddress omniPropertyWhc .balance → n + 1 < 100000000000000000000 := by
      intro n hn
      omega
    exact lt_of_lt_of_le (hbound _ hpaid) (by norm_num)

/-- **A step that changes one property**: its record and its tokens, the rest of both stores, the
next identifier and the tally as they were. The property existed, and its new record counts its
tokens. -/
theorem of_property (h : Erc721Inv cfg s) {P : Uint256} (hP : (s.erc721sps.view P).isSome)
    (hspsC : s'.erc721sps.Coherent) (htokensC : s'.erc721tokens.Coherent)
    (hnext : s'.erc721sps.nextErc721spid = s.erc721sps.nextErc721spid) (htally : s'.tally = s.tally)
    (hsps : ∀ q, q ≠ P → s'.erc721sps.view q = s.erc721sps.view q)
    (htokens : ∀ q t, q ≠ P → s'.erc721tokens.view q t = s.erc721tokens.view q t)
    (hrecord : ∃ info, s'.erc721sps.view P = some info ∧
      Counted s'.erc721tokens cfg.burnwhcAddress P info) :
    Erc721Inv cfg s' where
  spsCoherent := hspsC
  tokensCoherent := htokensC
  below q hq := by
    rw [hnext]
    by_cases hq' : q = P
    · subst hq'
      exact h.below q hP
    · exact h.below q (by rwa [← hsps q hq'])
  paid := by
    rw [hnext, htally]
    exact h.paid
  capped := by
    rw [hnext, htally]
    exact h.capped
  owned q t ht := by
    obtain ⟨info, hinfo, -⟩ := hrecord
    by_cases hq : q = P
    · subst hq
      rw [hinfo]
      rfl
    · rw [hsps q hq]
      exact h.owned q t (by rwa [← htokens q t hq])
  counted q info hq := by
    by_cases hq' : q = P
    · subst hq'
      obtain ⟨info', hinfo', hc⟩ := hrecord
      rw [hinfo', Option.some_inj] at hq
      exact hq ▸ hc
    · exact (h.counted q info (by rwa [← hsps q hq'])).congr (htokens q · hq')

end Erc721Inv

/-! ## The handlers -/

/-- The tokens that `a` does not hold are as they were. -/
def TokensKept (a : Address) (s s' : OmniState) : Prop :=
  ∀ p t i, s.erc721tokens.view p t = some i → i.owner ≠ a → s'.erc721tokens.view p t = some i

/-- **What an ERC721 handler keeps**: the invariant, and every token its sender does not hold. -/
structure Erc721Post (cfg : NodeConfig) (sender : Address) (s s' : OmniState) : Prop where
  inv : Erc721Inv cfg s'
  kept : TokensKept sender s s'

theorem Erc721Inv.post_of_kept {cfg : NodeConfig} {s s' : OmniState} (h : Erc721Inv cfg s)
    (hk : Erc721Kept s s') (a : Address) : Erc721Post cfg a s s' :=
  ⟨h.of_kept hk, fun p t i hi _ => by rw [hk.tokens]; exact hi⟩

/-- An early return: the post of a handler whose code says it did nothing. -/
theorem Erc721Post.early {cfg : NodeConfig} {a : Address} {s s' : OmniState} {R : Prop}
    (hpost : Erc721Post cfg a s s') {c : Int} (hc : c ≠ 0) :
    Erc721Post cfg a s (c, s').2 ∧ ((c, s').1 = 0 → R) :=
  ⟨hpost, fun h0 => absurd h0 hc⟩

/-- A write to one token that `a` holds keeps every token `a` does not hold. -/
theorem tokensKept_of_write {a : Address} {s s' : OmniState} {P T : Uint256}
    {i₀ : ERC721TokenInfos.TokenInfo} (hview : s.erc721tokens.view P T = some i₀)
    (howner : i₀.owner = a)
    (hrest : ∀ q u, ¬(P = q ∧ T = u) → s'.erc721tokens.view q u = s.erc721tokens.view q u) :
    TokensKept a s s' := by
  intro q u i hi hne
  have hother : ¬(P = q ∧ T = u) := by
    rintro ⟨rfl, rfl⟩
    rw [hview, Option.some_inj] at hi
    exact hne (hi ▸ howner)
  rw [hrest q u hother]
  exact hi

/-- A rewritten token, from the loaded view. -/
theorem view_setCached_getForUpdateToken (tokens : ERC721TokenInfos) (P T : Uint256)
    (i' : ERC721TokenInfos.TokenInfo) (q u : Uint256) :
    (((tokens.getForUpdateToken P T).2).setCached P T (i', .dirty)).view q u =
      if P = q ∧ T = u then some i' else tokens.view q u := by
  rw [ERC721TokenInfos.view_setCached, ERC721TokenInfos.view_getForUpdateToken]

/-- **`transfertoken`** keeps the invariant, and succeeds only on a token its sender holds. -/
theorem Erc721Inv.transferToken {cfg : NodeConfig} {tx : CMPTransaction} {s : OmniState}
    (h : Erc721Inv cfg s) (hsender : tx.sender ≠ cfg.burnwhcAddress) :
    Except.WP (CMPTransaction.logicMathErc721TransferToken cfg tx s)
      (fun r => Erc721Post cfg tx.sender s r.2 ∧ (r.1 = 0 →
        ∃ i, s.erc721tokens.view tx.erc721PropertyId tx.erc721TokenId = some i ∧ i.owner = tx.sender))
      (fun _ => False) := by
  dsimp only [CMPTransaction.logicMathErc721TransferToken]
  split
  case h_2 => exact Except.WP.pure ((h.post_of_kept (.refl s) _).early (by decide))
  refine Except.WP.ite (fun _ => Except.WP.pure ((h.post_of_kept (.refl s) _).early (by decide)))
    fun _ => ?_
  have hk₁ := Erc721Kept.getForUpdateToken s tx.erc721PropertyId tx.erc721TokenId
  split
  case h_2 => exact Except.WP.pure ((h.post_of_kept hk₁ _).early (by decide))
  rename_i info hinfo
  have hview : s.erc721tokens.view tx.erc721PropertyId tx.erc721TokenId = some info.1 := by
    rw [← ERC721TokenInfos.getForUpdateToken_fst, hinfo]
    rfl
  refine Except.WP.ite (fun _ => Except.WP.pure ((h.post_of_kept hk₁ _).early (by decide)))
    fun howner => ?_
  refine Except.WP.ite (fun _ => Except.WP.pure ((h.post_of_kept hk₁ _).early (by decide)))
    fun hreceiver => ?_
  refine Except.WP.pure ⟨?_, fun _ => ⟨info.1, hview, not_not.mp howner⟩⟩
  -- the token changes hands, between two holders other than the burn address
  set P := tx.erc721PropertyId
  set T := tx.erc721TokenId
  have hviews := view_setCached_getForUpdateToken s.erc721tokens P T
    { info.1 with owner := tx.receiverOrSender }
  have hrest : ∀ u, u ≠ T → _ := fun u hu => (hviews P u).trans (if_neg fun hPu => hu hPu.2.symm)
  have hnew := (hviews P T).trans (if_pos ⟨rfl, rfl⟩)
  have hlive : T ∈ s.erc721tokens.liveIds P cfg.burnwhcAddress :=
    ERC721TokenInfos.mem_liveIds.mpr ⟨info.1, hview, (not_not.mp howner).symm ▸ hsender⟩
  obtain ⟨p, hp⟩ := Option.isSome_iff_exists.mp (h.owned P T (by rw [hview]; rfl))
  have hc := h.counted P p hp
  refine ⟨h.of_property (P := P) (by rw [hp]; rfl) h.spsCoherent
    ((h.tokensCoherent.getForUpdateToken P T).setCached_dirty P T _) rfl rfl (fun _ _ => rfl)
    (fun q u hq => (hviews q u).trans (if_neg fun hPq => hq hPq.1.symm)) ⟨p, hp, ?_⟩, ?_⟩
  · -- the property's tokens and live tokens are the same sets
    refine ⟨?_, hc.le_max, hc.max_lt, ?_, hc.autoNext_lt⟩
    · rw [ERC721TokenInfos.tokenIds_of_isSome hrest (by rw [hnew]; rfl),
        Finset.insert_eq_of_mem (ERC721TokenInfos.liveIds_subset _ _ _ hlive)]
      exact hc.issued
    · rw [ERC721TokenInfos.liveIds_of_live hrest ⟨_, hnew, hreceiver⟩, Finset.insert_eq_of_mem hlive]
      exact hc.valid
  · -- only the sender's token was written
    exact tokensKept_of_write hview (not_not.mp howner) fun q u hqu => (hviews q u).trans (if_neg hqu)

/-- **`destroytoken`** keeps the invariant, and succeeds only on a token its sender holds: the token
goes to the burn address and its property's valid count down by one. -/
theorem Erc721Inv.destroyToken {cfg : NodeConfig} {tx : CMPTransaction} {s : OmniState}
    (h : Erc721Inv cfg s) (hsender : tx.sender ≠ cfg.burnwhcAddress) :
    Except.WP (CMPTransaction.logicMathErc721DestroyToken cfg tx s)
      (fun r => Erc721Post cfg tx.sender s r.2 ∧ (r.1 = 0 →
        ∃ i, s.erc721tokens.view tx.erc721PropertyId tx.erc721TokenId = some i ∧ i.owner = tx.sender))
      (fun _ => False) := by
  dsimp only [CMPTransaction.logicMathErc721DestroyToken]
  split
  case h_2 => exact Except.WP.pure ((h.post_of_kept (.refl s) _).early (by decide))
  refine Except.WP.ite (fun _ => Except.WP.pure ((h.post_of_kept (.refl s) _).early (by decide)))
    fun _ => ?_
  have hk₁ := Erc721Kept.getForUpdateSP s tx.erc721PropertyId
  split
  case h_2 => exact Except.WP.pure ((h.post_of_kept hk₁ _).early (by decide))
  rename_i spInfo hsp
  have hk₂ := hk₁.trans (Erc721Kept.getForUpdateToken _ tx.erc721PropertyId tx.erc721TokenId)
  split
  case h_2 => exact Except.WP.pure ((h.post_of_kept hk₂ _).early (by decide))
  rename_i info hinfo
  have hview : s.erc721tokens.view tx.erc721PropertyId tx.erc721TokenId = some info.1 := by
    rw [← ERC721TokenInfos.getForUpdateToken_fst, hinfo]
    rfl
  have hrecord : s.erc721sps.view tx.erc721PropertyId = some spInfo.1 := by
    rw [← CMPSPERC721Info.getForUpdateSP_fst, hsp]
    rfl
  refine Except.WP.ite (fun _ => Except.WP.pure ((h.post_of_kept hk₂ _).early (by decide)))
    fun howner => ?_
  refine Except.WP.pure ⟨?_, fun _ => ⟨info.1, hview, not_not.mp howner⟩⟩
  -- the token goes to the burn address, and the property's valid count goes down with it
  set P := tx.erc721PropertyId
  set T := tx.erc721TokenId
  have hviews := view_setCached_getForUpdateToken s.erc721tokens P T
    { info.1 with owner := cfg.burnwhcAddress }
  have hrest : ∀ u, u ≠ T → _ := fun u hu => (hviews P u).trans (if_neg fun hPu => hu hPu.2.symm)
  have hnew := (hviews P T).trans (if_pos ⟨rfl, rfl⟩)
  have hlive : T ∈ s.erc721tokens.liveIds P cfg.burnwhcAddress :=
    ERC721TokenInfos.mem_liveIds.mpr ⟨info.1, hview, (not_not.mp howner).symm ▸ hsender⟩
  have hc := h.counted P spInfo.1 hrecord
  have hsps : ∀ q, _ := CMPSPERC721Info.view_setCached
    (s.erc721sps.getForUpdateSP P).2 P
    ({ spInfo.1 with currentValidIssuedNumer := decU64 spInfo.1.currentValidIssuedNumer }, .dirty)
  refine ⟨h.of_property (P := P) (by rw [hrecord]; rfl) ?_ ?_ ?_ rfl ?_ ?_ ?_, ?_⟩
  · exact (h.spsCoherent.getForUpdateSP P).setCached_dirty P _
  · exact (h.tokensCoherent.getForUpdateToken P T).setCached_dirty P T _
  · exact hk₁.next
  · intro q hq
    exact (hsps q).trans ((if_neg fun hPq => hq hPq.symm).trans (hk₁.sps q))
  · intro q u hq
    exact (hviews q u).trans (if_neg fun hPq => hq hPq.1.symm)
  · refine ⟨_, (hsps P).trans (if_pos rfl), ?_⟩
    exact hc.burnToken hlive
      ((ERC721TokenInfos.tokenIds_of_isSome hrest (by rw [hnew]; rfl)).trans
        (Finset.insert_eq_of_mem (ERC721TokenInfos.liveIds_subset _ _ _ hlive)))
      (ERC721TokenInfos.liveIds_of_burnt hrest fun i hi => by rw [hnew] at hi; cases hi; rfl)
  · exact tokensKept_of_write hview (not_not.mp howner) fun q u hqu => (hviews q u).trans (if_neg hqu)

/-- **The state after `issueproperty`**: a record with zero counters at the next identifier, then
the creation fee paid to the burn address. -/
theorem Erc721Inv.putSP_fee {cfg : NodeConfig} {s s₂ : OmniState} (h : Erc721Inv cfg s)
    {info : CMPSPERC721Info.PropertyInfo} {a : Address} (ha : a ≠ cfg.burnwhcAddress)
    (hissued : info.haveIssuedNumber = 0) (hvalid : info.currentValidIssuedNumer = 0)
    (hmax : info.maxTokens < 2 ^ 64) (hauto : info.autoNextTokenID < 2 ^ 64)
    (hpay : CMPTransaction.payCreateFee cfg a
      { s with erc721sps := (s.erc721sps.putSP info).2 } = .ok s₂) :
    Erc721Post cfg a s s₂ := by
  obtain ⟨⟨hstores, -⟩, -⟩ := CMPTransaction.payCreateFee_ok hpay
  obtain ⟨hburn, hcap⟩ := CMPTransaction.payCreateFee_burn ha hpay
  -- the fee moves the tally only: the ERC721 stores are those `putSP` left
  have hsps : s₂.erc721sps = (s.erc721sps.putSP info).2 := congrArg (fun x => x.2.2.2.1) hstores
  have htok : s₂.erc721tokens = s.erc721tokens := congrArg (fun x => x.2.2.2.2.1) hstores
  have hnext : s₂.erc721sps.nextErc721spid = s.erc721sps.nextErc721spid + 1 := by
    rw [hsps, CMPSPERC721Info.nextErc721spid_putSP, increaseOne]
    exact Nat.mod_eq_of_lt h.next_succ_lt
  have hviews : ∀ q, s₂.erc721sps.view q =
      if s.erc721sps.nextErc721spid = q then some info else s.erc721sps.view q := by
    intro q
    rw [hsps, CMPSPERC721Info.view_putSP]
  -- the next identifier had no record, hence no token
  have hfresh : ∀ t, s.erc721tokens.view s.erc721sps.nextErc721spid t = none := by
    intro t
    cases ht : s.erc721tokens.view s.erc721sps.nextErc721spid t with
    | none => rfl
    | some _ =>
      have hlt := h.below _ (h.owned _ t (by rw [ht]; rfl))
      exact absurd hlt (lt_irrefl _)
  have hisSome : ∀ q, (s.erc721sps.view q).isSome → (s₂.erc721sps.view q).isSome := by
    intro q hq
    rw [hviews q]
    split
    · rfl
    · exact hq
  refine ⟨⟨?_, ?_, ?_, ?_, ?_, ?_, ?_⟩, ?_⟩
  · rw [hsps]
    exact h.spsCoherent.putSP info
  · rw [htok]
    exact h.tokensCoherent
  · intro q hq
    rw [hnext]
    rw [hviews q] at hq
    split at hq
    · next hq' => exact hq' ▸ Nat.lt_succ_self _
    · exact Nat.lt_succ_of_lt (h.below q hq)
  · -- one more identifier, one more fee
    have hpaid := h.paid
    have hstep : (((s.erc721sps.nextErc721spid + 1 : Nat) : Int) - 1) * createTokenFee =
        ((s.erc721sps.nextErc721spid : Int) - 1) * createTokenFee + createTokenFee := by
      push_cast
      ring
    rw [hnext, hburn, hstep]
    linarith
  · exact .inr hcap
  · intro q t ht
    rw [htok] at ht
    exact hisSome q (h.owned q t ht)
  · intro q i hq
    rw [hviews q] at hq
    split at hq
    · next hq' =>
      rw [Option.some_inj] at hq
      subst hq hq'
      rw [htok]
      exact Counted.fresh hfresh hissued hvalid hmax hauto
    · rw [htok]
      exact h.counted q i hq
  · intro q t i hi _
    rw [htok]
    exact hi

/-- **`issueproperty`** keeps the invariant and the tokens; it fails only where the creation fee's
asserted tally update does. -/
theorem Erc721Inv.issueProperty {cfg : NodeConfig} {tx : CMPTransaction} {s : OmniState}
    (h : Erc721Inv cfg s) (hsender : tx.sender ≠ cfg.burnwhcAddress) :
    Except.WP (CMPTransaction.logicMathErc721IssueProperty cfg tx s)
      (fun r => Erc721Post cfg tx.sender s r.2) (fun _ => True) := by
  dsimp only [CMPTransaction.logicMathErc721IssueProperty]
  split
  case h_2 => exact Except.WP.pure (h.post_of_kept (.refl s) _)
  refine Except.WP.ite (fun _ => Except.WP.pure (h.post_of_kept (.refl s) _)) fun _ => ?_
  refine Except.WP.ite (fun _ => Except.WP.pure (h.post_of_kept (.refl s) _)) fun _ => ?_
  refine Except.WP.ite (fun _ => Except.WP.pure (h.post_of_kept (.refl s) _)) fun _ => ?_
  refine Except.WP.ite (fun _ => Except.WP.pure (h.post_of_kept (.refl s) _)) fun _ => ?_
  -- the record has `PropertyInfo()`'s zero counters and first automatic identifier `1`
  refine Except.WP.bind (Except.WP.mono (Except.WP.eq _) (fun _ hpay => hpay) fun _ _ => trivial)
    fun s₂ hpay => Except.WP.pure ?_
  exact h.putSP_fee hsender rfl rfl (UInt64.toNat_lt _) (show (1 : Nat) < 2 ^ 64 by decide) hpay

/-- What a handler keeps from a state is kept from any state it reloads. -/
theorem Erc721Post.of_kept {cfg : NodeConfig} {a : Address} {s₁ s₂ s₃ : OmniState}
    (hk : Erc721Kept s₁ s₂) (h : Erc721Post cfg a s₂ s₃) : Erc721Post cfg a s₁ s₃ :=
  ⟨h.inv, fun p t i hi hne => h.kept p t i (by rw [hk.tokens]; exact hi) hne⟩

/-- An early return of `issuetoken`: nothing done, and not the code of a taken identifier. -/
theorem Erc721Post.earlyIssue {cfg : NodeConfig} {a : Address} {s s' : OmniState} {R : Prop}
    (hpost : Erc721Post cfg a s s') {c : Int} (hc : c ≠ 0) (hc' : c ≠ pktErrorErc721 - 205) :
    Erc721Post cfg a s (c, s').2 ∧ (c, s').1 ≠ pktErrorErc721 - 205 ∧ ((c, s').1 = 0 → R) :=
  ⟨hpost, hc', fun h0 => absurd h0 hc⟩

/-- **The end of `issuetoken`**, from a state where the property's record is `p` and the identifier
`T` has no token: `putToken` succeeds, and with the record's counters one up the invariant holds
again, with the one new token. -/
theorem Erc721Inv.issueTail {cfg : NodeConfig} {s : OmniState} (h : Erc721Inv cfg s)
    {P T : Uint256} {p : CMPSPERC721Info.PropertyInfo} {info : ERC721TokenInfos.TokenInfo}
    {autoNext : Nat} (hp : s.erc721sps.view P = some p) (hfree : s.erc721tokens.view P T = none)
    (howner : info.owner ≠ cfg.burnwhcAddress) (hmax : p.haveIssuedNumber ≠ p.maxTokens)
    (hauto : autoNext < 2 ^ 64) (a : Address) :
    (s.erc721tokens.putToken P T info).1 = true ∧
      Erc721Post cfg a s { s with
        erc721sps := s.erc721sps.setCached P
          ({ p with haveIssuedNumber := incU64 p.haveIssuedNumber,
                    currentValidIssuedNumer := incU64 p.currentValidIssuedNumer,
                    autoNextTokenID := autoNext }, .dirty),
        erc721tokens := (s.erc721tokens.putToken P T info).2 } ∧
      (s.erc721tokens.putToken P T info).2.view P T = some info := by
  have hviews : ∀ q u, (s.erc721tokens.putToken P T info).2.view q u =
      if P = q ∧ T = u then some info else s.erc721tokens.view q u := by
    intro q u
    rw [ERC721TokenInfos.view_putToken]
    by_cases hqu : P = q ∧ T = u
    · rw [if_pos ⟨hqu.1, hqu.2, hfree⟩, if_pos hqu]
    · rw [if_neg fun h' => hqu ⟨h'.1, h'.2.1⟩, if_neg hqu]
  have hrest : ∀ u, u ≠ T → (s.erc721tokens.putToken P T info).2.view P u =
      s.erc721tokens.view P u :=
    fun u hu => (hviews P u).trans (if_neg fun hPu => hu hPu.2.symm)
  have hnew := (hviews P T).trans (if_pos ⟨rfl, rfl⟩)
  have hT : T ∉ s.erc721tokens.tokenIds P := by
    rw [ERC721TokenInfos.mem_tokenIds, hfree]
    exact Bool.false_ne_true
  have hsps := CMPSPERC721Info.view_setCached s.erc721sps P
    ({ p with haveIssuedNumber := incU64 p.haveIssuedNumber,
              currentValidIssuedNumer := incU64 p.currentValidIssuedNumer,
              autoNextTokenID := autoNext }, .dirty)
  have hput : (s.erc721tokens.putToken P T info).1 = true := by
    rw [ERC721TokenInfos.putToken_fst, hfree]
    rfl
  refine ⟨hput, ⟨h.of_property (P := P) (by rw [hp]; rfl) (h.spsCoherent.setCached_dirty P _)
      (h.tokensCoherent.putToken P T info) rfl rfl
      (fun q hq => (hsps q).trans (if_neg fun hPq => hq hPq.symm))
      (fun q u hq => (hviews q u).trans (if_neg fun hPq => hq hPq.1.symm))
      ⟨{ p with haveIssuedNumber := incU64 p.haveIssuedNumber,
                currentValidIssuedNumer := incU64 p.currentValidIssuedNumer,
                autoNextTokenID := autoNext }, (hsps P).trans (if_pos rfl), ?_⟩, ?_⟩, hnew⟩
  · exact (h.counted P p hp).issueToken hT
      (ERC721TokenInfos.tokenIds_of_isSome hrest (by rw [hnew]; rfl))
      (ERC721TokenInfos.liveIds_of_live hrest ⟨info, hnew, howner⟩) hmax hauto
  · -- the new token's identifier was free; every other token is as it was
    intro q u i hi _
    have hother : ¬(P = q ∧ T = u) := by
      rintro ⟨rfl, rfl⟩
      rw [hfree] at hi
      cases hi
    exact (hviews q u).trans ((if_neg hother).trans hi)

/-- **The probe's fuel suffices**: it allows one probe more than the records of the property, and
the property has fewer than `2^64` tokens. -/
theorem Counted.exists_free_probe {tokens : ERC721TokenInfos} {burn : Address} {P : Uint256}
    {p : CMPSPERC721Info.PropertyInfo} (hc : Counted tokens burn P p) :
    ∃ i < tokens.db.live.size + (tokens.cacheTokens P).size + 1,
      tokens.view P (incU64^[i] p.autoNextTokenID) = none := by
  have hcard := ERC721TokenInfos.card_tokenIds_le tokens P
  have hissued := hc.issued
  have hle := hc.le_max
  have h64 := hc.max_lt
  obtain ⟨i, hi, hfree⟩ := @Probe.exists_free_probe (2 ^ 64) p.autoNextTokenID
    (min (tokens.db.live.size + (tokens.cacheTokens P).size + 1) (2 ^ 64)) (tokens.tokenIds P)
    (min_le_right _ _) (by omega)
  refine ⟨i, lt_of_lt_of_le hi (min_le_left _ _), ?_⟩
  rw [iterate_incU64 hc.autoNext_lt]
  rw [ERC721TokenInfos.mem_tokenIds] at hfree
  simpa using hfree

/-- **`issuetoken`** keeps the invariant and never fails. An identifier the sender chose is checked
first, and an automatic one is found free, so it never reports the identifier taken (`-205`), and
a token it issues has an identifier that had none. -/
theorem Erc721Inv.issueToken {cfg : NodeConfig} {tx : CMPTransaction} {s : OmniState}
    (h : Erc721Inv cfg s) :
    Except.WP (CMPTransaction.logicMathErc721IssueToken cfg tx s)
      (fun r => Erc721Post cfg tx.sender s r.2 ∧ r.1 ≠ pktErrorErc721 - 205 ∧ (r.1 = 0 →
        ∃ t, s.erc721tokens.view tx.erc721PropertyId t = none ∧
          (r.2.erc721tokens.view tx.erc721PropertyId t).isSome))
      (fun _ => False) := by
  dsimp only [CMPTransaction.logicMathErc721IssueToken]
  split
  case h_2 =>
    exact Except.WP.pure ((h.post_of_kept (.refl s) _).earlyIssue (by decide) (by decide))
  rename_i blockHash _
  refine Except.WP.ite (fun _ => Except.WP.pure
    ((h.post_of_kept (.refl s) _).earlyIssue (by decide) (by decide))) fun _ => ?_
  have hk₁ := Erc721Kept.getForUpdateSP s tx.erc721PropertyId
  split
  case h_2 =>
    exact Except.WP.pure ((h.post_of_kept hk₁ _).earlyIssue (by decide) (by decide))
  rename_i spInfo hsp
  have hrecord : s.erc721sps.view tx.erc721PropertyId = some spInfo.1 := by
    rw [← CMPSPERC721Info.getForUpdateSP_fst, hsp]
    rfl
  have hc := h.counted _ _ hrecord
  refine Except.WP.ite (fun _ => Except.WP.pure
    ((h.post_of_kept hk₁ _).earlyIssue (by decide) (by decide))) fun _ => ?_
  refine Except.WP.ite (fun _ => Except.WP.pure
    ((h.post_of_kept hk₁ _).earlyIssue (by decide) (by decide))) fun hreceiver => ?_
  refine Except.WP.ite (fun _ => Except.WP.pure
    ((h.post_of_kept hk₁ _).earlyIssue (by decide) (by decide))) fun hmax => ?_
  have howner :
      ({ txid := tx.txid, owner := tx.receiverOrSender, updateBlockHash := blockHash,
         creationBlockHash := blockHash, attributes := tx.erc721TokenAttribute,
         url := tx.erc721TokenUrl } : ERC721TokenInfos.TokenInfo).owner ≠ cfg.burnwhcAddress :=
    hreceiver
  refine Except.WP.ite (fun _ => ?_) fun _ => ?_
  · -- an identifier the sender chose: refused if it is taken
    have hk₂ := hk₁.trans (Erc721Kept.existToken _ tx.erc721PropertyId tx.erc721TokenId)
    refine Except.WP.ite (fun _ => Except.WP.pure
      ((h.post_of_kept hk₂ _).earlyIssue (by decide) (by decide))) fun hnot => ?_
    have hfree : s.erc721tokens.view tx.erc721PropertyId tx.erc721TokenId = none := by
      rw [CMPTransaction.existToken_fst, hk₁.sps, hrecord] at hnot
      simpa using hnot
    refine Except.WP.bind (P := fun r => r = (tx.erc721TokenId, none, _)) (Except.WP.pure rfl)
      fun r hr => ?_
    subst hr
    obtain ⟨hput, hpost, hnew⟩ := (h.of_kept hk₂).issueTail (by rw [hk₂.sps]; exact hrecord)
      (by rw [hk₂.tokens]; exact hfree) howner hmax hc.autoNext_lt tx.sender
    refine Except.WP.ite (fun hbad => absurd hbad (by dsimp only; rw [hput]; decide)) fun _ => ?_
    exact Except.WP.pure ⟨hpost.of_kept hk₂, show (0 : Int) ≠ pktErrorErc721 - 205 by decide,
      fun _ => ⟨tx.erc721TokenId, hfree, by rw [hnew]; rfl⟩⟩
  · -- an automatic identifier: the probe finds a free one
    obtain ⟨t, s₂, hrun, hfree, hk₂⟩ := nextFreeTokenId_spec tx.erc721PropertyId _ _
      { s with erc721sps := (s.erc721sps.getForUpdateSP tx.erc721PropertyId).2 }
      (by rw [hk₁.sps, hrecord]; rfl) hc.exists_free_probe
    refine Except.WP.bind (P := fun r => r = (t, incU64 t, s₂)) (Except.WP.of_eq_ok hrun rfl)
      fun r hr => ?_
    subst hr
    refine Except.WP.bind (P := fun r => r = (t, some (incU64 t), s₂)) (Except.WP.pure rfl)
      fun r hr => ?_
    subst hr
    have hfree₀ : s.erc721tokens.view tx.erc721PropertyId t = none := by
      rw [← hk₁.tokens]
      exact hfree
    obtain ⟨hput, hpost, hnew⟩ := ((h.of_kept hk₁).of_kept hk₂).issueTail
      (by rw [hk₂.sps, hk₁.sps]; exact hrecord) (by rw [hk₂.tokens]; exact hfree) howner hmax
      (incU64_lt t) tx.sender
    refine Except.WP.ite (fun hbad => absurd hbad (by dsimp only; rw [hput]; decide)) fun _ => ?_
    exact Except.WP.pure ⟨(hpost.of_kept hk₂).of_kept hk₁,
      show (0 : Int) ≠ pktErrorErc721 - 205 by decide,
      fun _ => ⟨t, hfree₀, by rw [hnew]; rfl⟩⟩

/-! ## Dispatch and runs -/

namespace CMPTransaction

variable {cfg : NodeConfig} {tx : CMPTransaction} {s : OmniState}

theorem logicMathErc721_of_issueToken (h : tx.erc721Action = issueErc721Token) :
    logicMathErc721 cfg tx s = logicMathErc721IssueToken cfg tx s := by
  rw [logicMathErc721, if_neg (by rw [h]; decide), if_pos h]

theorem logicMathErc721_of_transferToken (h : tx.erc721Action = transferRec721Token) :
    logicMathErc721 cfg tx s = logicMathErc721TransferToken cfg tx s := by
  rw [logicMathErc721, if_neg (by rw [h]; decide), if_neg (by rw [h]; decide), if_pos h]

theorem logicMathErc721_of_destroyToken (h : tx.erc721Action = destroyErc721Token) :
    logicMathErc721 cfg tx s = logicMathErc721DestroyToken cfg tx s := by
  rw [logicMathErc721, if_neg (by rw [h]; decide), if_neg (by rw [h]; decide),
    if_neg (by rw [h]; decide), if_pos h]

end CMPTransaction

/-- **Every ERC721 transaction** from a sender other than the burn address keeps the invariant
and the tokens its sender does not hold. -/
theorem Erc721Inv.handle {cfg : NodeConfig} {tx : CMPTransaction} {s : OmniState}
    (h : Erc721Inv cfg s) (hsender : tx.sender ≠ cfg.burnwhcAddress) :
    Except.WP (CMPTransaction.logicMathErc721 cfg tx s)
      (fun r => Erc721Post cfg tx.sender s r.2) (fun _ => True) := by
  dsimp only [CMPTransaction.logicMathErc721]
  refine Except.WP.ite (fun _ => h.issueProperty hsender) fun _ => ?_
  refine Except.WP.ite (fun _ => h.issueToken.mono (fun _ hr => hr.1) fun _ hf => hf.elim)
    fun _ => ?_
  refine Except.WP.ite (fun _ => (h.transferToken hsender).mono (fun _ hr => hr.1)
    fun _ hf => hf.elim) fun _ => ?_
  refine Except.WP.ite (fun _ => (h.destroyToken hsender).mono (fun _ hr => hr.1)
    fun _ hf => hf.elim) fun _ => ?_
  -- an unknown action changes nothing
  exact Except.WP.pure (h.post_of_kept (.refl s) _)

/-- **A step of the ERC721 stores**: an ERC721 transaction whose handler returned, from a sender
other than the burn address, or the flush of both stores at the end of a block. -/
inductive Erc721Step (cfg : NodeConfig) : OmniState → OmniState → Prop
  | handle {s s' : OmniState} (tx : CMPTransaction) (c : Int)
      (hsender : tx.sender ≠ cfg.burnwhcAddress)
      (hrun : CMPTransaction.logicMathErc721 cfg tx s = .ok (c, s')) : Erc721Step cfg s s'
  | flush (s : OmniState) (blockHash : Uint256) :
      Erc721Step cfg s { s with erc721sps := s.erc721sps.flush blockHash,
                                erc721tokens := s.erc721tokens.flush blockHash }

/-- Every token held by the burn address in `s` is still there, unchanged, in `s'`. -/
def BurntKept (burn : Address) (s s' : OmniState) : Prop :=
  ∀ p t i, s.erc721tokens.view p t = some i → i.owner = burn → s'.erc721tokens.view p t = some i

/-- **The step lemma**: a step keeps the invariant and the burnt tokens. -/
theorem Erc721Inv.step {cfg : NodeConfig} {s s' : OmniState} (h : Erc721Inv cfg s)
    (hs : Erc721Step cfg s s') : Erc721Inv cfg s' ∧ BurntKept cfg.burnwhcAddress s s' := by
  cases hs with
  | handle tx c hsender hrun =>
    have hpost := (h.handle hsender).ok hrun
    -- a burnt token is not the sender's
    exact ⟨hpost.inv, fun p t i hi hb => hpost.kept p t i hi fun hown => hsender (hown.symm.trans hb)⟩
  | flush blockHash =>
    have hk := Erc721Kept.flush h.spsCoherent h.tokensCoherent blockHash
    exact ⟨h.of_kept hk, fun p t i hi _ => by rw [hk.tokens]; exact hi⟩

/-- **The run lemma**, by induction on the run. -/
theorem Erc721Inv.run {cfg : NodeConfig} {s s' : OmniState} (h : Erc721Inv cfg s)
    (hrun : Relation.ReflTransGen (Erc721Step cfg) s s') :
    Erc721Inv cfg s' ∧ BurntKept cfg.burnwhcAddress s s' := by
  induction hrun with
  | refl => exact ⟨h, fun _ _ _ hi _ => hi⟩
  | tail _ hstep ih =>
    obtain ⟨hinv, hkept⟩ := ih
    obtain ⟨hinv', hkept'⟩ := hinv.step hstep
    exact ⟨hinv', fun p t i hi hb => hkept' p t i (hkept p t i hi hb) hb⟩

/-- Empty ERC721 stores, and a burn address holding no debt of WHC, satisfy the invariant. -/
theorem Erc721Inv.empty {cfg : NodeConfig} {s : OmniState}
    (hsps : s.erc721sps = CMPSPERC721Info.empty) (htokens : s.erc721tokens = ERC721TokenInfos.empty)
    (hburn : 0 ≤ s.tally.money cfg.burnwhcAddress omniPropertyWhc .balance) : Erc721Inv cfg s where
  spsCoherent p i hp := by
    rw [hsps] at hp
    cases hp
  tokensCoherent p t i hp := by
    rw [htokens] at hp
    cases hp
  below q hq := by
    rw [hsps] at hq
    cases hq
  paid := by
    rw [hsps]
    simpa [CMPSPERC721Info.empty] using hburn
  capped := .inl (by rw [hsps]; rfl)
  owned p t ht := by
    rw [htokens] at ht
    cases ht
  counted p info hp := by
    rw [hsps] at hp
    cases hp

/-- **The ERC721 supply, as the claim has it**, of a state `s`: every property's counters count its
tokens; an issue with an automatic identifier never meets a taken one; and a token held by the
burn address can be neither transferred nor destroyed, and stays where it is on every run on. -/
structure Erc721SupplySafe (cfg : NodeConfig) (s : OmniState) : Prop where
  counters : ∀ P info, s.erc721sps.view P = some info →
    info.haveIssuedNumber = (s.erc721tokens.tokenIds P).card ∧
      info.haveIssuedNumber ≤ info.maxTokens ∧
      info.currentValidIssuedNumer = (s.erc721tokens.liveIds P cfg.burnwhcAddress).card
  autoId : ∀ tx : CMPTransaction, tx.erc721Action = issueErc721Token → tx.erc721TokenId = 0 →
    ∃ c s', CMPTransaction.logicMathErc721 cfg tx s = .ok (c, s') ∧ c ≠ pktErrorErc721 - 205 ∧
      (c = 0 → ∃ t, s.erc721tokens.view tx.erc721PropertyId t = none ∧
        (s'.erc721tokens.view tx.erc721PropertyId t).isSome)
  burnt : ∀ (tx : CMPTransaction) i,
    s.erc721tokens.view tx.erc721PropertyId tx.erc721TokenId = some i →
    i.owner = cfg.burnwhcAddress → tx.sender ≠ cfg.burnwhcAddress →
    tx.erc721Action = transferRec721Token ∨ tx.erc721Action = destroyErc721Token →
    ∃ c s', CMPTransaction.logicMathErc721 cfg tx s = .ok (c, s') ∧ c ≠ 0 ∧
      s'.erc721tokens.view tx.erc721PropertyId tx.erc721TokenId = some i
  stays : ∀ s', Relation.ReflTransGen (Erc721Step cfg) s s' → BurntKept cfg.burnwhcAddress s s'

/-- A handler that cannot fail, keeps a burnt token and returns `0` only for a token of its
sender, refuses a burnt token. -/
theorem Erc721Post.refuses_burnt {cfg : NodeConfig} {tx : CMPTransaction} {s : OmniState}
    {x : Outcome} {i : ERC721TokenInfos.TokenInfo}
    (hx : Except.WP x (fun r => Erc721Post cfg tx.sender s r.2 ∧ (r.1 = 0 →
        ∃ i, s.erc721tokens.view tx.erc721PropertyId tx.erc721TokenId = some i ∧
          i.owner = tx.sender)) (fun _ => False))
    (hi : s.erc721tokens.view tx.erc721PropertyId tx.erc721TokenId = some i)
    (hb : i.owner = cfg.burnwhcAddress) (hsender : tx.sender ≠ cfg.burnwhcAddress) :
    ∃ c s', x = .ok (c, s') ∧ c ≠ 0 ∧
      s'.erc721tokens.view tx.erc721PropertyId tx.erc721TokenId = some i := by
  obtain ⟨⟨c, s'⟩, hx, hpost, hzero⟩ := Except.WP.exists_ok hx
  have hne : i.owner ≠ tx.sender := fun hown => hsender (hown.symm.trans hb)
  refine ⟨c, s', hx, fun hc => ?_, hpost.kept _ _ i hi hne⟩
  obtain ⟨j, hj, hown⟩ := hzero hc
  rw [hi, Option.some_inj] at hj
  exact hne (hj ▸ hown)

/-- **The invariant gives the claim's properties.** -/
theorem Erc721Inv.supplySafe {cfg : NodeConfig} {s : OmniState} (h : Erc721Inv cfg s) :
    Erc721SupplySafe cfg s where
  counters P info hP :=
    ⟨(h.counted P info hP).issued, (h.counted P info hP).le_max, (h.counted P info hP).valid⟩
  autoId tx hact _ := by
    rw [CMPTransaction.logicMathErc721_of_issueToken hact]
    obtain ⟨⟨c, s'⟩, hrun, _, hc, hfree⟩ := Except.WP.exists_ok h.issueToken
    exact ⟨c, s', hrun, hc, hfree⟩
  burnt tx i hi hb hsender hact := by
    rcases hact with hact | hact
    · rw [CMPTransaction.logicMathErc721_of_transferToken hact]
      exact Erc721Post.refuses_burnt (h.transferToken hsender) hi hb hsender
    · rw [CMPTransaction.logicMathErc721_of_destroyToken hact]
      exact Erc721Post.refuses_burnt (h.destroyToken hsender) hi hb hsender
  stays _ hrun := (h.run hrun).2

theorem erc721_supply_counters (cfg : NodeConfig) {s₀ s : OmniState}
    (hsps : s₀.erc721sps = CMPSPERC721Info.empty)
    (htokens : s₀.erc721tokens = ERC721TokenInfos.empty)
    (hburn : 0 ≤ s₀.tally.money cfg.burnwhcAddress omniPropertyWhc .balance)
    (hrun : Relation.ReflTransGen (Erc721Step cfg) s₀ s) : Erc721SupplySafe cfg s :=
  ((Erc721Inv.empty hsps htokens hburn).run hrun).1.supplySafe

/-! ## A block of ERC721 messages -/

/-- ERC721 messages handled one after the other, whatever their return codes. -/
def runErc721 (cfg : NodeConfig) : List CMPTransaction → OmniState → Except String OmniState
  | [], s => pure s
  | tx :: txs, s => do
    let (_, s) ← CMPTransaction.logicMathErc721 cfg tx s
    runErc721 cfg txs s

/-- **Messages handled one after the other are a run**, when none is sent by the burn address. -/
theorem runErc721_steps (cfg : NodeConfig) :
    ∀ (txs : List CMPTransaction) (s s' : OmniState),
      (∀ tx ∈ txs, tx.sender ≠ cfg.burnwhcAddress) → runErc721 cfg txs s = .ok s' →
      Relation.ReflTransGen (Erc721Step cfg) s s'
  | [], s, s', _, h => by
    rw [runErc721, Except.pure_eq_ok] at h
    subst h
    exact .refl
  | tx :: txs, s, s', hsenders, h => by
    rw [runErc721, Except.bind_eq_ok] at h
    obtain ⟨⟨c, s₁⟩, h₁, h₂⟩ := h
    have hstep : Erc721Step cfg s s₁ := .handle tx c (hsenders tx List.mem_cons_self) h₁
    exact Relation.ReflTransGen.head hstep (runErc721_steps cfg txs s₁ s'
      (fun tx' htx' => hsenders tx' (List.mem_cons_of_mem _ htx')) h₂)

/-- A message of the issuer in block `110`, the first where regtest allows ERC721, about ERC721
property `1`. -/
def erc721Message (txid : Uint256) (action : UInt8) (tokenID : Uint256) (receiver : Address) :
    CMPTransaction :=
  { txid := txid, block := 110, blockHash := some 110, blockTime := 0, sender := "issuer",
    receiver := receiver, type := 9, version := 0, erc721Action := action, erc721PropertyId := 1,
    erc721PropertyName := "N", maxErc721number := 10, erc721TokenId := tokenID }

/-- The issuer creates a property of at most ten tokens, issues two tokens with identifiers the
node picks, hands the first to `holder` and destroys the second. -/
def erc721Messages : List CMPTransaction :=
  [erc721Message 20 issueErc721Property 0 "", erc721Message 21 issueErc721Token 0 "",
    erc721Message 22 issueErc721Token 0 "", erc721Message 23 transferRec721Token 1 "holder",
    erc721Message 24 destroyErc721Token 2 ""]

/-- A node whose issuer holds the fee of an ERC721 property, one WHC. -/
def erc721Funded : OmniState :=
  { OmniState.fresh regtest with
    tally := OrdMap.empty.insert "issuer" ⟨OrdMap.empty.insert omniPropertyWhc { balance := createTokenFee }⟩ }

/-- The messages of `erc721Messages`, then the flush at the end of block `110`: the property has
issued two tokens, one still valid; the first token is `holder`'s and the second the burn
address's; and the counters are safe. -/
theorem erc721_block_supply_safe :
    ∃ s, runErc721 regtest erc721Messages erc721Funded = .ok s ∧
      ((s.erc721sps.view 1).map fun i => (i.haveIssuedNumber, i.currentValidIssuedNumer)) = some (2, 1) ∧
      (s.erc721tokens.view 1 1).map (·.owner) = some "holder" ∧
      (s.erc721tokens.view 1 2).map (·.owner) = some regtest.burnwhcAddress ∧
      Erc721SupplySafe regtest
        { s with erc721sps := s.erc721sps.flush 110, erc721tokens := s.erc721tokens.flush 110 } := by
  -- the block, run once: every message went through
  have hrun : (runErc721 regtest erc721Messages erc721Funded).map (fun s =>
      (((s.erc721sps.view 1).map fun i => (i.haveIssuedNumber, i.currentValidIssuedNumer)),
        (s.erc721tokens.view 1 1).map (·.owner), (s.erc721tokens.view 1 2).map (·.owner))) =
      .ok (some (2, 1), some "holder", some regtest.burnwhcAddress) := by
    decide +kernel
  obtain ⟨s, hs, hfacts⟩ := Except.map_eq_ok.1 hrun
  simp only [Prod.mk.injEq] at hfacts
  obtain ⟨hcounters, hholder, hburnt⟩ := hfacts
  have hsteps := runErc721_steps regtest erc721Messages erc721Funded s (by decide) hs
  exact ⟨s, hs, hcounters, hholder, hburnt, erc721_supply_counters regtest rfl rfl (by decide)
    (hsteps.tail (.flush s 110))⟩

end WormholeCore

