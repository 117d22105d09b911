/-
# `WormholeCore.State` — the Omni state of a node (omnicore.cpp) and what every handler shares.

The consensus state of a node is spread over globals of omnicore.cpp and the LevelDB stores it
opens. `OmniState` gathers the parts that transaction processing reads or writes:

* `mp_tally_map` and `setFrozenAddresses` (`Ledger`);
* the smart-property store `_my_sps` (`SpInfo`) and the active crowdsales `my_crowds`;
* the fee cache `p_feecache` (`FeeCache`);
* the two ERC721 stores `my_erc721sps`, `my_erc721tokens` (`Erc721`);
* `pendingCreateWHC`, the burns of BCH waiting to be credited, and the transaction list
  `p_txlistdb`, of which the model keeps what is read: whether a transaction was recorded and
  whether it was valid.

`NodeConfig` is what a node is started with: its network (which fixes the consensus parameters,
the burn address, which is also the exodus address and the issuer of the WHC record, and the
maturity of burns) and `msc_debug_fees`.

The shared helpers are `getCrowd`, `assert(update_tally_map(who, property, amount, BALANCE))`
(`assertUpdateTallyMap`), `getTotalTokens` and `getSaledTokens`.

## What is proved here

* `assertUpdateTallyMap_error` — the asserted update fails only with the frozen-address message,
  on a negative amount at a frozen pair, or with the message of a refused update;
* `money_assertUpdateTallyMap`, `sumHolding_assertUpdateTallyMap` — a successful update moves one
  balance, and the supply of one property, by exactly the amount.
-/
import WormholeCore.Sto
import WormholeCore.FeeCache
import WormholeCore.Erc721
import WormholeCore.Lib.Except
import WormholeCore.Lib.Guarded

namespace WormholeCore

open Lib

/-! ## The node -/

/-- The chain a node runs on (`MainNet()`, `TestNet()`, `RegTest()`). -/
inductive Network where
  | main
  | testNet
  | regTest
deriving DecidableEq, Repr

/-- `burnwhc_testnet`. -/
def burnwhcTestnet : Address := "bchtest:qqqqqqqqqqqqqqqqqqqqqqqqqqqqqdmwgvnjkt8whc"

/-- `burnwhc_regnet`. -/
def burnwhcRegnet : Address := "bchreg:pqqqqqqqqqqqqqqqqqqqqqqqqqqqqp0kvc457r8whc"

/-- `DISTRIBUTEHEIGHT`, `DISTRIBUTEHEIGHTTEST`, `DISTRIBUTEHEIGHTREGTEST`: how many blocks a burn
waits before its WHC is credited. -/
def distributeHeightOf : Network → Int
  | .main => 1000
  | .testNet => 3
  | .regTest => 1

/-- What a node is started with. `msc_debug_fees` is a logging flag, `1` by default (log.cpp), that
`PruneCache` reads. -/
structure NodeConfig where
  network : Network
  mscDebugFees : Bool := true
deriving DecidableEq, Repr

namespace NodeConfig

/-- `ConsensusParams()`. -/
def params (cfg : NodeConfig) : CConsensusParams :=
  match cfg.network with
  | .main => mainConsensusParams
  | .testNet => testNetConsensusParams
  | .regTest => regTestConsensusParams

/-- `burnwhc_address`, set by `mastercore_init` from the network. -/
def burnwhcAddress (cfg : NodeConfig) : Address :=
  match cfg.network with
  | .main => burnwhcMainnet
  | .testNet => burnwhcTestnet
  | .regTest => burnwhcRegnet

/-- `EncodeCashAddr(ExodusAddress())`: the burn address of the network. -/
def exodusAddress (cfg : NodeConfig) : Address := cfg.burnwhcAddress

end NodeConfig

/-! ## The state -/

/-- An entry of `pendingCreateWHC` (a `multimap<int, pair<string, pair<string, int64_t>>>`):
`height ↦ (txid, (address, amount))`. The source keeps the txid as its hex text and reads it back
with `uint256S`; the model keeps the number. -/
structure PendingBurn where
  height : Int
  txid : Uint256
  address : Address
  amount : Int
deriving DecidableEq, Repr

/-- `std::multimap::insert`: by height, after the entries of the same height. -/
def insertPending (e : PendingBurn) : List PendingBurn → List PendingBurn
  | [] => [e]
  | x :: xs => if e.height < x.height then e :: x :: xs else x :: insertPending e xs

/-- `CrowdMap`: the active crowdsales by issuer (`std::map<std::string, CMPCrowd>`). -/
abbrev CrowdMap := OrdMap Address CMPCrowd

/-- **The Omni state of a node.** -/
structure OmniState where
  tally : TallyMap
  frozen : FrozenSet
  sps : CMPSPInfo
  crowds : CrowdMap
  feeCache : COmniFeeCache
  erc721sps : CMPSPERC721Info
  erc721tokens : ERC721TokenInfos
  pendingCreateWHC : List PendingBurn
  /-- `p_txlistdb`: the recorded transactions and whether each was valid. -/
  txList : OrdMap Uint256 Bool
deriving DecidableEq

namespace OmniState

/-- The state of a node started on an empty data directory: the stores are empty, except the
WHC record that `CMPSPInfo`'s constructor writes. -/
def fresh (cfg : NodeConfig) : OmniState where
  tally := OrdMap.empty
  frozen := OrdMap.empty
  sps := CMPSPInfo.fresh cfg.exodusAddress
  crowds := OrdMap.empty
  feeCache := COmniFeeCache.empty
  erc721sps := CMPSPERC721Info.empty
  erc721tokens := ERC721TokenInfos.empty
  pendingCreateWHC := []
  txList := OrdMap.empty

/-- `getCrowd(address)`: the active crowdsale of an issuer. -/
def getCrowd (s : OmniState) (address : Address) : Option CMPCrowd := s.crowds.find? address

/-- `assert(update_tally_map(who, propertyId, amount, ttype))` at one place of the source: an
update that is refused fails the assert, whose message `what` names that place. -/
def assertUpdate (s : OmniState) (what : String) (who : Address) (propertyId : PropertyId)
    (amount : Int) (ttype : TallyType) : Except String OmniState :=
  match updateTallyMap s.frozen s.tally who propertyId amount ttype with
  | .error e => .error e
  | .ok (true, m) => .ok { s with tally := m }
  | .ok (false, _) => .error what

/-- `assert(update_tally_map(who, propertyId, amount, BALANCE))`, for the callers whose asserts the
model does not tell apart. -/
def assertUpdateTallyMap (s : OmniState) (who : Address) (propertyId : PropertyId) (amount : Int) :
    Except String OmniState :=
  s.assertUpdate "assert(update_tally_map(who, propertyId, amount, BALANCE))" who propertyId amount
    .balance

/-- What a successful asserted update did: it replaced the tally map, and only the tally map, by a
successful `update_tally_map`. -/
theorem assertUpdate_ok {s s' : OmniState} {what : String} {who : Address} {p : PropertyId}
    {a : Int} {k : TallyType} (h : s.assertUpdate what who p a k = .ok s') :
    ∃ m, updateTallyMap s.frozen s.tally who p a k = .ok (true, m) ∧ s' = { s with tally := m } := by
  unfold assertUpdate at h
  split at h
  · cases h
  · rename_i m hm
    cases h
    exact ⟨m, hm, rfl⟩
  · cases h

/-- The message of an asserted update plays no part in its success. -/
theorem assertUpdate_rename {s s' : OmniState} {what what' : String} {who : Address}
    {p : PropertyId} {a : Int} {k : TallyType} (h : s.assertUpdate what who p a k = .ok s') :
    s.assertUpdate what' who p a k = .ok s' := by
  obtain ⟨m, hm, rfl⟩ := assertUpdate_ok h
  rw [assertUpdate, hm]

/-- The message of the frozen-address assert of `update_tally_map`. -/
def frozenAssert : String := "update_tally_map: assert(!isAddressFrozen(who, propertyId))"

/-- **How an asserted update fails**: on a negative amount at a frozen pair with the frozen-address
message, and otherwise only with a message that is not it. -/
theorem assertUpdateTallyMap_error {s : OmniState} {who : Address} {p : PropertyId} {a : Int}
    {e : String} (h : s.assertUpdateTallyMap who p a = .error e) :
    (e = frozenAssert ∧ a < 0 ∧ isAddressFrozen s.frozen who p = true) ∨ e ≠ frozenAssert := by
  unfold assertUpdateTallyMap assertUpdate at h
  split at h
  · rename_i e' he'
    cases h
    obtain ⟨-, -, ha, hf⟩ := (updateTallyMap_error_iff s.frozen s.tally who p a .balance).mp ⟨e, he'⟩
    by_cases hmsg : e = frozenAssert
    · exact .inl ⟨hmsg, ha, hf⟩
    · exact .inr hmsg
  · cases h
  · cases h
    exact .inr (by decide)

/-- The messages an asserted update can fail with: the two asserts of `update_tally_map`, and its
own. -/
def tallyErrors : List String :=
  [frozenAssert, "update_tally_map: assert(before == after)",
    "assert(update_tally_map(who, propertyId, amount, BALANCE))"]

theorem errorsIn_assertUpdateTallyMap (s : OmniState) (who : Address) (p : PropertyId) (a : Int) :
    Except.ErrorsIn tallyErrors (s.assertUpdateTallyMap who p a) := by
  intro e he
  unfold assertUpdateTallyMap assertUpdate at he
  split at he
  · rename_i e' he'
    cases he
    rcases updateTallyMap_error_mem he' with rfl | rfl <;> simp [tallyErrors, frozenAssert]
  · cases he
  · cases he
    simp [tallyErrors]

/-- An update that cannot hit the frozen-address assert never fails with its message. -/
theorem assertUpdateTallyMap_ne_frozenAssert {s : OmniState} {who : Address} {p : PropertyId}
    {a : Int} (h : 0 ≤ a ∨ isAddressFrozen s.frozen who p = false) :
    s.assertUpdateTallyMap who p a ≠ .error frozenAssert := by
  intro he
  rcases assertUpdateTallyMap_error he with ⟨-, ha, hf⟩ | hne
  · rcases h with h | h
    · omega
    · rw [h] at hf
      cases hf
  · exact hne rfl

theorem assertUpdateTallyMap_ok {s s' : OmniState} {who : Address} {p : PropertyId} {a : Int}
    (h : s.assertUpdateTallyMap who p a = .ok s') :
    ∃ m, updateTallyMap s.frozen s.tally who p a .balance = .ok (true, m) ∧ s' = { s with tally := m } :=
  assertUpdate_ok h

/-- The parts of the state that the tally and fee-cache functions never touch. -/
def stores (s : OmniState) :=
  (s.frozen, s.sps, s.crowds, s.erc721sps, s.erc721tokens, s.pendingCreateWHC, s.txList)

/-- The frame of an asserted update: everything but the tally map is unchanged. -/
theorem assertUpdateTallyMap_frame {s s' : OmniState} {who : Address} {p : PropertyId} {a : Int}
    (h : s.assertUpdateTallyMap who p a = .ok s') : s'.stores = s.stores ∧ s'.feeCache = s.feeCache := by
  obtain ⟨m, -, rfl⟩ := assertUpdateTallyMap_ok h
  exact ⟨rfl, rfl⟩

/-- **A successful asserted update moves one balance by exactly the amount.** -/
theorem money_assertUpdateTallyMap {s s' : OmniState} {who : Address} {p : PropertyId} {a : Int}
    (h : s.assertUpdateTallyMap who p a = .ok s') (w : Address) (p' : PropertyId) (k : TallyType) :
    s'.tally.money w p' k =
      if w = who ∧ p' = p ∧ k = .balance then s.tally.money w p' k + a else s.tally.money w p' k := by
  obtain ⟨m, hm, rfl⟩ := assertUpdateTallyMap_ok h
  have hmoney := (money_updateTallyMap hm).2 w p' k
  simpa using hmoney

/-- **A successful credit leaves the balance at most `INT64_MAX`**: the overflow guard passed. -/
theorem money_le_of_assertUpdateTallyMap {s s' : OmniState} {who : Address} {p : PropertyId}
    {a : Int} (ha : 0 < a) (h : s.assertUpdateTallyMap who p a = .ok s') :
    s'.tally.money who p .balance ≤ int64Max := by
  obtain ⟨m, hm, rfl⟩ := assertUpdateTallyMap_ok h
  obtain ⟨hflag, hmoney⟩ := money_updateTallyMap hm
  -- the update was accepted, so the overflow guard passed
  have hov := (of_decide_eq_true hflag.symm : (s.tally.findD who {}).accepts p a .balance).2.2.1
  have hle : s.tally.money who p .balance ≤ int64Max - a := by
    simp only [CMPTally.isOverflow, ha, decide_true, Bool.true_and, Bool.or_eq_false_iff,
      decide_eq_false_iff_not, not_lt] at hov
    exact hov.1
  rw [hmoney, if_pos ⟨rfl, rfl, rfl, rfl⟩]
  omega

/-- **A successful asserted update moves the supply of its property by exactly the amount**, and
no other supply. -/
theorem sumHolding_assertUpdateTallyMap {s s' : OmniState} {who : Address} {p : PropertyId}
    {a : Int} (h : s.assertUpdateTallyMap who p a = .ok s') (p' : PropertyId) :
    s'.tally.sumHolding p' = s.tally.sumHolding p' + if p' = p then a else 0 := by
  obtain ⟨m, hm, rfl⟩ := assertUpdateTallyMap_ok h
  rw [sumHolding_updateTallyMap hm p']
  by_cases hp : p' = p <;> simp [hp]

end OmniState

/-! ## Supplies (omnicore.cpp) -/

/-- **`mastercore::getTotalTokens(propertyId)`**: `0` for an unknown property; for a managed
property or WHC, the tally supply plus the cached fees; for a fixed property or a crowdsale other
than WHC, its `num_tokens`. -/
def getTotalTokens (s : OmniState) (propertyId : PropertyId) : Int :=
  match s.sps.getSP propertyId with
  | none => 0
  | some property =>
    let crowdsale := !property.fixed && !property.manual
    let summed :=
      if property.manual || propertyId = omniPropertyWhc then
        s.tally.sumHolding propertyId + s.feeCache.getCachedAmount propertyId
      else 0
    if (property.fixed || crowdsale) && propertyId ≠ omniPropertyWhc then property.numTokens
    else summed

/-- **`mastercore::getSaledTokens(propertyId)`**: `0` for an unknown property, `-1` for a managed or
fixed one, and otherwise the tally supply plus the cached fees. -/
def getSaledTokens (s : OmniState) (propertyId : PropertyId) : Int :=
  match s.sps.getSP propertyId with
  | none => 0
  | some property =>
    if property.manual || property.fixed then -1
    else s.tally.sumHolding propertyId + s.feeCache.getCachedAmount propertyId

end WormholeCore
