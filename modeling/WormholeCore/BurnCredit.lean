/-
# `WormholeCore.BurnCredit` — what `DistributeWHCToBurner` credits (omnicore.cpp).

At the end of every block, `DistributeWHCToBurner(nblockNow)` walks `pendingCreateWHC`, the burns
that wait for `DISTRIBUTEHEIGHT` confirmations. A burn at most `burnMaturity` high has matured: the
walk credits its amount of WHC to the burner, records it in the WHC record's `historicalData` under
its txid, and erases it; a burn not yet matured stays. `Node.lean` shows what happens to a matured
burn that is not fresh (already recorded, or its transaction missing from `p_txlistdb`): the loop
never ends, or the node rescans.

Here every matured burn is fresh. Then the walk reaches the end and the crediting is exact.

## What is proved here

* `BurnsCredited` — a run of credits: the WHC supply and balances moved by the amounts burnt, each
  burn recorded in the record, nothing else touched; `BurnsCredited.nil`, `BurnsCredited.cons`;
* `OmniState.assertUpdateTallyMap_credit` — a credit that keeps the supply within `INT64_MAX` goes
  through;
* `distributeWalk_credits` — the walk, by recursion on the burns to come;
* `distributeWHCToBurner_credits_once` — the crediting of a block: each matured burn credited once
  to its burner and recorded, the others kept in order, the WHC supply up by the total.
-/
import WormholeCore.Creation
import WormholeCore.MetaDExBook

namespace WormholeCore

open Lib Lib.Except

/-- The height up to which `DistributeWHCToBurner(nblockNow)` credits: a burn waits for
`DISTRIBUTEHEIGHT` confirmations, its own block counted. -/
def burnMaturity (cfg : NodeConfig) (nblockNow : Int) : Int :=
  nblockNow - distributeHeightOf cfg.network + 1

namespace PendingBurn

/-- The burns of `l` matured at `maxHeight`, in order. -/
def matured (maxHeight : Int) (l : List PendingBurn) : List PendingBurn :=
  l.filter fun e => e.height ≤ maxHeight

/-- The burns of `l` still waiting at `maxHeight`, in order. -/
def waiting (maxHeight : Int) (l : List PendingBurn) : List PendingBurn :=
  l.filter fun e => maxHeight < e.height

/-- The amount the burns of `l` burnt. -/
def total (l : List PendingBurn) : Int := (l.map PendingBurn.amount).sum

/-- The amount the burns of `l` burnt from address `a`. -/
def burntBy (l : List PendingBurn) (a : Address) : Int :=
  total (l.filter fun e => e.address = a)

variable {maxHeight : Int} {e : PendingBurn} {l : List PendingBurn}

theorem matured_cons_of_le (h : e.height ≤ maxHeight) :
    matured maxHeight (e :: l) = e :: matured maxHeight l := by
  simp [matured, h]

theorem matured_cons_of_lt (h : maxHeight < e.height) :
    matured maxHeight (e :: l) = matured maxHeight l := by
  simp [matured, not_le.mpr h]

theorem waiting_cons_of_le (h : e.height ≤ maxHeight) :
    waiting maxHeight (e :: l) = waiting maxHeight l := by
  simp [waiting, not_lt.mpr h]

theorem waiting_cons_of_lt (h : maxHeight < e.height) :
    waiting maxHeight (e :: l) = e :: waiting maxHeight l := by
  simp [waiting, h]

@[simp] theorem total_nil : total [] = 0 := rfl

@[simp] theorem total_cons : total (e :: l) = e.amount + total l := by
  simp [total]

theorem total_nonneg (h : ∀ e ∈ l, 0 < e.amount) : 0 ≤ total l :=
  List.sum_nonneg fun x hx => by
    obtain ⟨e, he, rfl⟩ := List.mem_map.mp hx
    exact (h e he).le

theorem burntBy_cons (a : Address) :
    burntBy (e :: l) a = (if e.address = a then e.amount else 0) + burntBy l a := by
  by_cases h : e.address = a <;> simp [burntBy, h]

end PendingBurn

open PendingBurn

namespace OmniState

/-- The burns `DistributeWHCToBurner(nblockNow)` credits. -/
def maturedBurns (cfg : NodeConfig) (s : OmniState) (nblockNow : Int) : List PendingBurn :=
  matured (burnMaturity cfg nblockNow) s.pendingCreateWHC

/-- The burns `DistributeWHCToBurner(nblockNow)` leaves waiting. -/
def waitingBurns (cfg : NodeConfig) (s : OmniState) (nblockNow : Int) : List PendingBurn :=
  waiting (burnMaturity cfg nblockNow) s.pendingCreateWHC

/-- **A credit that keeps the supply within `INT64_MAX` goes through**: the balance it moves is
at most the supply. -/
theorem assertUpdateTallyMap_credit {block : Int} {s : OmniState} (hs : s.Sound block)
    (who : Address) (p : PropertyId) {a : Int} (ha : 0 < a)
    (hroom : s.tally.sumHolding p + a ≤ int64Max) :
    ∃ s', s.assertUpdateTallyMap who p a = .ok s' := by
  have hcur := hs.money_mem who p (k := .balance) (by decide)
  have hle := hs.money_le_sumHolding who p (k := .balance) (by decide)
  exact assertUpdateTallyMap_of_range ha.ne' hcur ⟨by omega, by omega⟩ fun h => absurd h.1 (by omega)

end OmniState

/-- **A burn the walk credits and passes**: the WHC record `sp` does not list its txid yet, its
transaction is in `p_txlistdb`, and it burnt a positive amount. -/
def FreshBurn (sp : CMPSPInfo.Entry) (s : OmniState) (e : PendingBurn) : Prop :=
  sp.historicalData.contains e.txid = false ∧ s.txList.contains e.txid = true ∧ 0 < e.amount

instance (sp : CMPSPInfo.Entry) (s : OmniState) (e : PendingBurn) : Decidable (FreshBurn sp s e) :=
  inferInstanceAs (Decidable (_ ∧ _ ∧ _))

/-- **The burns `c` were credited** from `s` and the record `sp` to `s'` and `sp'`: the WHC supply
rose by their total and each WHC balance by what its address burnt, no other counter moved, the
stores are as they were, and the record lists each burn, is otherwise as it was, and differs from
`sp` in its `historicalData` only. -/
structure BurnsCredited (block : Int) (c : List PendingBurn) (s : OmniState) (sp : CMPSPInfo.Entry)
    (s' : OmniState) (sp' : CMPSPInfo.Entry) : Prop where
  moved : Moved block s (Pi.single omniPropertyWhc (total c)) s'
  balance : ∀ a, s'.tally.money a omniPropertyWhc .balance =
    s.tally.money a omniPropertyWhc .balance + burntBy c a
  others : ∀ a q k, q ≠ omniPropertyWhc ∨ k ≠ .balance → s'.tally.money a q k = s.tally.money a q k
  stores : s'.stores = s.stores
  recorded : ∀ e ∈ c, sp'.historicalData.find? e.txid = some [e.height, e.amount]
  untouched : ∀ t, t ∉ c.map PendingBurn.txid → sp'.historicalData.find? t = sp.historicalData.find? t
  record : sp' = { sp with historicalData := sp'.historicalData }

namespace BurnsCredited

variable {block : Int} {s s₁ s' : OmniState} {sp sp' : CMPSPInfo.Entry}

theorem nil (hs : s.Sound block) : BurnsCredited block [] s sp s sp where
  moved := (Moved.refl hs).congr fun q => by rw [total_nil, Pi.single_zero]
  balance a := by rw [burntBy, List.filter_nil, total_nil, add_zero]
  others _ _ _ _ := rfl
  stores := rfl
  recorded _ he := absurd he List.not_mem_nil
  untouched _ _ := rfl
  record := rfl

/-- **One more credit, in front**: the credit of `e`, with `e` recorded, then the burns `c`, none
of them with the txid of `e`. -/
theorem cons {c : List PendingBurn} {e : PendingBurn} (hs : s.Sound block)
    (h₁ : s.assertUpdateTallyMap e.address omniPropertyWhc e.amount = .ok s₁)
    (hnot : e.txid ∉ c.map PendingBurn.txid)
    (h : BurnsCredited block c s₁
      { sp with historicalData := sp.historicalData.insert e.txid [e.height, e.amount] } s' sp') :
    BurnsCredited block (e :: c) s sp s' sp' where
  moved := by
    have h₀ : Moved block s (Pi.single omniPropertyWhc e.amount) s₁ :=
      (wp_assertUpdateTallyMap hs _ _ _).ok h₁
    rw [total_cons, Pi.single_add]
    exact h₀.trans h.moved
  balance a := by
    rw [h.balance, OmniState.money_assertUpdateTallyMap h₁, burntBy_cons]
    by_cases ha : a = e.address
    · rw [if_pos ⟨ha, rfl, rfl⟩, if_pos ha.symm]
      omega
    · rw [if_neg fun h => ha h.1, if_neg (Ne.symm ha)]
      omega
  others a q k hqk := by
    rw [h.others a q k hqk, OmniState.money_assertUpdateTallyMap h₁, if_neg]
    rintro ⟨-, rfl, rfl⟩
    simp at hqk
  stores := h.stores.trans (OmniState.assertUpdateTallyMap_frame h₁).1
  recorded e' he' := by
    rcases List.mem_cons.mp he' with rfl | he'
    · -- the later credits leave the txid of `e` alone
      rw [h.untouched _ hnot]
      exact OrdMap.find?_insert_self _ _ _
    · exact h.recorded e' he'
  untouched t ht := by
    rw [List.map_cons, List.mem_cons, not_or] at ht
    rw [h.untouched t ht.2]
    exact OrdMap.find?_insert_of_ne _ _ (Ne.symm ht.1)
  record := h.record

end BurnsCredited

/-- **The walk of `DistributeWHCToBurner`, when every matured burn to come is fresh**: it reaches
the end, with the burns passed followed by those still waiting, and credits the matured burns
exactly. The recursion follows the walk; the credits done keep the burns to come fresh, since
their txids differ. -/
theorem distributeWalk_credits {block maxHeight : Int} :
    ∀ (l kept : List PendingBurn) (s : OmniState) (sp : CMPSPInfo.Entry) (update : Nat),
      s.Sound block → (∀ e ∈ matured maxHeight l, FreshBurn sp s e) →
      ((matured maxHeight l).map PendingBurn.txid).Nodup →
      s.tally.sumHolding omniPropertyWhc + total (matured maxHeight l) ≤ int64Max →
      ∃ s' sp', distributeWalk maxHeight l kept s sp update =
          .ok (.finished (kept.reverse ++ waiting maxHeight l) s' sp'
            (update + (matured maxHeight l).length)) ∧
        BurnsCredited block (matured maxHeight l) s sp s' sp'
  | [], kept, s, sp, update, hs, _, _, _ => by
    refine ⟨s, sp, ?_, BurnsCredited.nil hs⟩
    rw [distributeWalk, waiting, List.filter_nil, List.append_nil]
    rfl
  | e :: rest, kept, s, sp, update, hs, hfresh, hnodup, hroom => by
    rw [distributeWalk]
    by_cases hm : e.height ≤ maxHeight
    case neg =>
      -- not matured yet: the burn is passed, and kept
      have hlt : maxHeight < e.height := not_le.mp hm
      rw [matured_cons_of_lt hlt] at hfresh hnodup hroom ⊢
      obtain ⟨s', sp', hwalk, hcred⟩ :=
        distributeWalk_credits rest (e :: kept) s sp update hs hfresh hnodup hroom
      refine ⟨s', sp', ?_, hcred⟩
      rw [if_neg hm, hwalk, waiting_cons_of_lt hlt, List.reverse_cons, List.append_assoc,
        List.singleton_append]
    case pos =>
      rw [matured_cons_of_le hm] at hfresh hnodup hroom ⊢
      rw [List.map_cons, List.nodup_cons] at hnodup
      rw [total_cons] at hroom
      obtain ⟨hnew, hlisted, hpos⟩ := hfresh e List.mem_cons_self
      have hrest : 0 ≤ total (matured maxHeight rest) :=
        total_nonneg fun e' he' => (hfresh e' (List.mem_cons_of_mem e he')).2.2
      obtain ⟨s₁, h₁⟩ :=
        s.assertUpdateTallyMap_credit hs e.address omniPropertyWhc hpos (by omega)
      have htx : s₁.txList = s.txList :=
        congrArg (fun t => t.2.2.2.2.2.2) (OmniState.assertUpdateTallyMap_frame h₁).1
      have hsum : s₁.tally.sumHolding omniPropertyWhc = s.tally.sumHolding omniPropertyWhc + e.amount := by
        rw [OmniState.sumHolding_assertUpdateTallyMap h₁, if_pos rfl]
      -- the burns to come stay fresh: their txids are not the one just recorded
      have hfresh₁ : ∀ e' ∈ matured maxHeight rest, FreshBurn
          { sp with historicalData := sp.historicalData.insert e.txid [e.height, e.amount] } s₁ e' := by
        intro e' he'
        obtain ⟨hnew', hlisted', hpos'⟩ := hfresh e' (List.mem_cons_of_mem e he')
        have hne : e.txid ≠ e'.txid := fun h => hnodup.1 (h ▸ List.mem_map_of_mem he')
        refine ⟨?_, htx ▸ hlisted', hpos'⟩
        rw [OrdMap.contains_eq, OrdMap.find?_insert_of_ne _ _ hne, ← OrdMap.contains_eq]
        exact hnew'
      obtain ⟨s', sp', hwalk, hcred⟩ :=
        distributeWalk_credits rest kept s₁ _ (update + 1) (hs.assertUpdateTallyMap h₁) hfresh₁
          hnodup.2 (by omega)
      refine ⟨s', sp', ?_, hcred.cons hs h₁ hnodup.1⟩
      have hcount : update + 1 + (matured maxHeight rest).length =
          update + (e :: matured maxHeight rest).length := by
        rw [List.length_cons]
        omega
      rw [if_pos hm, if_pos (by rw [hnew]; rfl), h₁, ok_bind, if_neg (by rw [htx, hlisted]; decide),
        hwalk, waiting_cons_of_le hm, hcount]

/-- What the end of the crediting leaves, whatever it does to the record: the credits of the walk,
a sound state, and the WHC supply up by the total. -/
theorem BurnsCredited.finish {block : Int} {c : List PendingBurn} {s s₁ : OmniState}
    {sp sp₁ : CMPSPInfo.Entry} (hcred : BurnsCredited block c s sp s₁ sp₁)
    (pending : List PendingBurn) (sps : CMPSPInfo) :
    let s' := { s₁ with pendingCreateWHC := pending, sps := sps }
    (∀ a, s'.tally.money a omniPropertyWhc .balance =
      s.tally.money a omniPropertyWhc .balance + burntBy c a) ∧
    (∀ a q k, q ≠ omniPropertyWhc ∨ k ≠ .balance → s'.tally.money a q k = s.tally.money a q k) ∧
    s'.Sound block ∧ s'.supply omniPropertyWhc = s.supply omniPropertyWhc + total c := by
  have hs₁ := hcred.moved.sound
  refine ⟨hcred.balance, hcred.others, ⟨hs₁.inRange, hs₁.cached, hs₁.before⟩, ?_⟩
  have hsupply := hcred.moved.supply omniPropertyWhc
  rwa [Pi.single_eq_same] at hsupply

/-- **`DistributeWHCToBurner`, when every matured burn is fresh and their txids are distinct**:
it ends, leaves the burns not yet matured waiting in their order, credits each matured burn once to
its burner (and moves no other counter), keeps the state sound with the WHC supply up by the total
burnt, and the WHC record it stores lists each matured burn with its height and amount. -/
theorem distributeWHCToBurner_credits_once {cfg : NodeConfig} {s : OmniState} {block nblockNow : Int}
    {blockHash : Uint256} (hs : s.Sound block)
    (hfresh : ∀ e ∈ s.maturedBurns cfg nblockNow,
      FreshBurn ((s.sps.getSP omniPropertyWhc).getD {}) s e)
    (hnodup : ((s.maturedBurns cfg nblockNow).map PendingBurn.txid).Nodup)
    (hroom : s.tally.sumHolding omniPropertyWhc + total (s.maturedBurns cfg nblockNow) ≤ int64Max) :
    ∃ s', distributeWHCToBurner cfg s nblockNow blockHash = .ok (.done s') ∧
      s'.pendingCreateWHC = s.waitingBurns cfg nblockNow ∧
      (∀ a, s'.tally.money a omniPropertyWhc .balance =
        s.tally.money a omniPropertyWhc .balance + burntBy (s.maturedBurns cfg nblockNow) a) ∧
      (∀ a q k, q ≠ omniPropertyWhc ∨ k ≠ .balance → s'.tally.money a q k = s.tally.money a q k) ∧
      s'.Sound block ∧
      s'.supply omniPropertyWhc = s.supply omniPropertyWhc + total (s.maturedBurns cfg nblockNow) ∧
      ∀ e ∈ s.maturedBurns cfg nblockNow, ∃ sp, s'.sps.getSP omniPropertyWhc = some sp ∧
        sp.historicalData.find? e.txid = some [e.height, e.amount] := by
  obtain ⟨s₁, sp₁, hwalk, hcred⟩ :=
    distributeWalk_credits s.pendingCreateWHC [] s _ 0 hs hfresh hnodup hroom
  rw [List.reverse_nil, List.nil_append, Nat.zero_add] at hwalk
  simp only [distributeWHCToBurner]
  rw [show nblockNow - distributeHeightOf cfg.network + 1 = burnMaturity cfg nblockNow from rfl,
    hwalk, ok_bind]
  dsimp only
  split
  case isTrue hpos =>
    -- something was credited: the record, stamped with the block, is stored
    obtain ⟨hbal, hothers, hsound, hsupply⟩ := hcred.finish (s.waitingBurns cfg nblockNow)
      (s₁.sps.updateSP omniPropertyWhc { sp₁ with updateBlock := blockHash })
    refine ⟨_, rfl, rfl, hbal, hothers, hsound, hsupply, fun e he =>
      ⟨{ sp₁ with updateBlock := blockHash }, ?_, hcred.recorded e he⟩⟩
    rw [CMPSPInfo.getSP_updateSP, if_pos rfl]
  case isFalse hzero =>
    -- nothing was matured
    obtain ⟨hbal, hothers, hsound, hsupply⟩ :=
      hcred.finish (s.waitingBurns cfg nblockNow) s₁.sps
    have hnil : s.maturedBurns cfg nblockNow = [] := List.length_eq_zero_iff.mp (Nat.eq_zero_of_not_pos hzero)
    refine ⟨_, rfl, rfl, hbal, hothers, hsound, hsupply, fun e he => ?_⟩
    rw [hnil] at he
    exact absurd he List.not_mem_nil

/-- Two burns on regtest, at heights `101` and `103`, the first one listed in `p_txlistdb`. -/
def burnsPending : OmniState :=
  { OmniState.fresh regtest with
    pendingCreateWHC :=
      [{ height := 101, txid := 7, address := "burner", amount := 50 },
       { height := 103, txid := 8, address := "burner", amount := 5 }]
    txList := OrdMap.empty.insert 7 true }

/-- At block `102` the first burn is credited to its burner and recorded; the second one waits. -/
theorem burnsPending_credited :
    ∃ s', distributeWHCToBurner regtest burnsPending 102 0 = .ok (.done s') ∧
      s'.pendingCreateWHC = burnsPending.waitingBurns regtest 102 ∧
      (∀ a, s'.tally.money a omniPropertyWhc .balance =
        burnsPending.tally.money a omniPropertyWhc .balance +
          burntBy (burnsPending.maturedBurns regtest 102) a) ∧
      (∀ a q k, q ≠ omniPropertyWhc ∨ k ≠ .balance →
        s'.tally.money a q k = burnsPending.tally.money a q k) ∧
      s'.Sound 0 ∧
      s'.supply omniPropertyWhc =
        burnsPending.supply omniPropertyWhc + total (burnsPending.maturedBurns regtest 102) ∧
      ∀ e ∈ burnsPending.maturedBurns regtest 102, ∃ sp,
        s'.sps.getSP omniPropertyWhc = some sp ∧
          sp.historicalData.find? e.txid = some [e.height, e.amount] := by
  -- the tally and the fee cache are those of a fresh node
  have hs : burnsPending.Sound 0 :=
    (Moved.of_eq (OmniState.sound_fresh regtest 0) (show burnsPending.tally = _ from rfl) rfl).sound
  exact distributeWHCToBurner_credits_once hs (by decide) (by decide) (by decide)

end WormholeCore
