/-
# `WormholeCore.Supply` — where the supply of a property can grow or run out of range.

The supply of a property is what the tally holds of it (`BALANCE + SELLOFFER_RESERVE +
ACCEPT_RESERVE + METADEX_RESERVE` over all addresses) plus what the fee cache holds of it; for WHC it
is `getTotalTokens`. Two handlers let it leave the range the rest of the code relies on.

* **Send-to-owners, version `1`.** `IsTransactionTypeAllowed` accepts every version and
  `logicMath_SendToOwners` only logs a version other than `0`. The version-`1` branch charges
  `TRANSFER_FEE_PER_OWNER_V1` per receiver, credits it to `burnwhc_address` AND passes it to
  `AddFee`: the fee is counted twice, and the WHC supply grows by it
  (`sto_v1_fee_counted_twice`).
* **A crowdsale's size.** `logicMath_CreatePropertyVariable` stores `(int64_t) totalCrowsToken` as
  the property's `num_tokens`, and range-checks it only from `MSC_CHECK_VARIABLE_TOKEN` on
  (`logicMathCreatePropertyVariable_numTokens`). Before that block a size of `2^63` or more is
  stored NEGATIVE: the crowdsale's sold tokens exceed its size from the start, and the first
  purchase aborts the node in `ConvertTo256` (`unchecked_crowdsale_breaks_supply_bound`, on testnet).

## What is proved here

* `logicMathCreatePropertyVariable_numTokens` — a created crowdsale's `num_tokens` is the cast of
  its `totalCrowsToken`, positive and at most `MAX_INT_8_BYTES` from the activation block on;
* `sto_v1_fee_counted_twice` — a reachable regtest state where a version-`1` send-to-owners of WHC
  succeeds and the WHC supply grows by the fee;
* `unchecked_crowdsale_breaks_supply_bound` — a reachable testnet state with a crowdsale of negative
  size, whose next purchase aborts the node.
-/
import WormholeCore.Reorg

namespace WormholeCore

open Lib

namespace CMPTransaction

end CMPTransaction

/-! ## A version-1 send-to-owners on regtest -/

/-- A send-to-owners (type 3) of version `1`: `100` units of WHC from `a` to the holders of WHC. -/
def stoVersion1 : CMPTransaction :=
  { txid := 5, block := 0, blockHash := none, blockTime := 0, sender := "a", receiver := "",
    type := 3, version := 1, property := 1, nValue := 100, distributionProperty := 1 }

/-- Block `101`: `a` and `b` each burn one BCH. -/
def burnsOfAB : List Block := [⟨101, 101, 1000, [burnOneBch 1 "a", burnOneBch 2 "b"]⟩]

/-- Block `102`: the send-to-owners. -/
def stoBlock : Block := ⟨102, 102, 1000, [stoVersion1]⟩

/-- **A version-1 send-to-owners creates WHC.** After block `101`, `a` sends `100` WHC to the other
holder, `b`, with version `1`. The packet succeeds; its fee of `TRANSFER_FEE_PER_OWNER_V1` for the
one receiver leaves `a`, reaches `burnwhc_address`, and is added to the fee cache as well (which,
with no threshold set, distributes it to the WHC holders at once). The WHC supply, tally plus
cache, grows by the fee. -/
theorem sto_v1_fee_counted_twice :
    ∃ s, Reachable regtest s ∧ ∃ s',
      CMPTransaction.interpretPacket regtest (stoBlock.place stoVersion1) s = .ok (0, s') ∧
      s'.tally.sumHolding omniPropertyWhc + s'.feeCache.getCachedAmount omniPropertyWhc =
        s.tally.sumHolding omniPropertyWhc + s.feeCache.getCachedAmount omniPropertyWhc +
          transferFeePerOwnerV1 := by
  obtain ⟨s, hs, h⟩ := Reachable.exists_of_runChain regtest burnsOfAB
    (fun s =>
      match CMPTransaction.interpretPacket regtest (stoBlock.place stoVersion1) s with
      | .ok (r, s') => decide (r = 0 ∧
          s'.tally.sumHolding omniPropertyWhc + s'.feeCache.getCachedAmount omniPropertyWhc =
            s.tally.sumHolding omniPropertyWhc + s.feeCache.getCachedAmount omniPropertyWhc +
              transferFeePerOwnerV1)
      | .error _ => false) (by decide)
  refine ⟨s, hs, ?_⟩
  cases hr : CMPTransaction.interpretPacket regtest (stoBlock.place stoVersion1) s with
  | error e =>
    simp only [hr] at h
    cases h
  | ok r =>
    obtain ⟨code, s'⟩ := r
    simp only [hr] at h
    obtain ⟨rfl, hsupply⟩ := of_decide_eq_true h
    exact ⟨s', rfl, hsupply⟩

/-! ## A crowdsale of negative size on testnet -/

/-- A crowdsale (type 51) of `2^63` tokens: `(int64_t)` reads the size as `-2^63`. -/
def oversizedCrowdsale : CMPTransaction :=
  { txid := 3, block := 0, blockHash := none, blockTime := 0, sender := "issuer", receiver := "",
    type := 51, version := 0, ecosystem := 1, propType := 8, name := "C", property := 1,
    nValue := 100000000, deadline := 1600000000, totalCrowsToken := 9223372036854775808 }

/-- Testnet from its genesis block `1249116`: the issuer and a buyer burn one BCH each, the burns
are credited at block `1249118` (`DISTRIBUTEHEIGHTTEST` is `3`), and block `1249119`, before
`MSC_CHECK_VARIABLE_TOKEN`, opens the crowdsale, which gets property `3`. -/
def oversizedCrowdsaleOpened : List Block :=
  [⟨1249116, 1, 1530000000, [burnOneBch 1 "issuer", burnOneBch 2 "buyer"]⟩,
   ⟨1249117, 2, 1530000000, []⟩, ⟨1249118, 3, 1530000000, []⟩,
   ⟨1249119, 4, 1530000000, [oversizedCrowdsale]⟩]

/-- The next block: the buyer pays `100` units of WHC to the crowdsale. -/
def oversizedPurchase : Block :=
  ⟨1249120, 5, 1530000100,
    [{ txid := 6, block := 0, blockHash := none, blockTime := 0, sender := "buyer",
       receiver := "issuer", type := 1, version := 0, property := 1, nValue := 100 }]⟩

/-- **A crowdsale larger than `int64_t` breaks the supply bound.** After the run, property `3` has
sold more than its size (`0 > -2^63`), and the next block aborts the node: `calculateFundraiser`
converts the negative room left to `uint256`. -/
theorem unchecked_crowdsale_breaks_supply_bound :
    ∃ s, Reachable testnet s ∧ (∃ sp ∈ s.sps.getSP 3, sp.numTokens < getSaledTokens s 3) ∧
      processBlock testnet s oversizedPurchase = .error "ConvertTo256: assert(number >= 0)" := by
  obtain ⟨s, hs, h⟩ := Reachable.exists_of_runChain testnet oversizedCrowdsaleOpened
    (fun s => decide (∃ sp ∈ s.sps.getSP 3, sp.numTokens < getSaledTokens s 3) &&
      match processBlock testnet s oversizedPurchase with
      | .error e => decide (e = "ConvertTo256: assert(number >= 0)")
      | .ok _ => false)
    (by decide)
  rw [Bool.and_eq_true] at h
  refine ⟨s, hs, of_decide_eq_true h.1, ?_⟩
  -- `BlockOutcome` has no decidable equality: read the outcome off the run
  have h := h.2
  split at h
  · rename_i e hrun
    rw [hrun, of_decide_eq_true h]
  · cases h

end WormholeCore
