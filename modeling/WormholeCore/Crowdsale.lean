/-
# `WormholeCore.Crowdsale` — closing crowdsales (sp.cpp).

A crowdsale ends in one of three ways: its issuer closes it (`CloseCrowdsale`, in `Tx`), a
purchase reaches `num_tokens` (`eraseMaxedCrowdsale`), or a block past its deadline begins
(`eraseExpiredCrowdsale`). The two functions here, and `GetMissedIssuerBonus`, which closing and
expiry use to credit the issuer with the tokens nobody bought, under the source's names:

* `GetMissedIssuerBonus(sp, crowdsale)` first ASSERTS the crowdsale's consistency,
  `getSaledTokens(property) == issuerCreated + userCreated`, then returns
  `num_tokens - userCreated` (or `0`), asserting that the difference adds back up;
* `eraseMaxedCrowdsale` stores the participation record in the property and drops the crowdsale;
* `eraseExpiredCrowdsale` does the same for every crowdsale past its deadline, crediting the
  missed tokens to the issuer.

That expiry only credits, and never fails the frozen-address assert, is `Freeze`'s
`eraseExpiredCrowdsale_guarded`.
-/
import WormholeCore.Fees

namespace WormholeCore

open Lib

/-- The message of the consistency assert of `GetMissedIssuerBonus`. -/
def missedBonusAssert : String :=
  "GetMissedIssuerBonus: assert(getSaledTokens(propertyId) == issuerCreated + userCreated)"

/-- **`mastercore::GetMissedIssuerBonus(sp, crowdsale)`**. -/
def getMissedIssuerBonus (s : OmniState) (sp : CMPSPInfo.Entry) (crowdsale : CMPCrowd) :
    Except String Int := do
  -- consistency check
  if getSaledTokens s crowdsale.propertyId ≠ crowdsale.iCreated + crowdsale.uCreated then
    throw missedBonusAssert
  else
    let amountCreditedToUsers ← convertTo256 crowdsale.uCreated
    let totalAmount ← convertTo256 sp.numTokens
    let amountMissing :=
      if amountCreditedToUsers < totalAmount then Word256.sub totalAmount amountCreditedToUsers else 0
    if Word256.add amountMissing amountCreditedToUsers ≠ totalAmount then
      throw "GetMissedIssuerBonus: assert(newTotal == totalAmount)"
    else convertTo64 amountMissing

namespace OmniState

/-- **`mastercore::eraseMaxedCrowdsale(address, blockTime, block)`**: store the participation
record in the property, mark it closed early at its maximum, stamp it with the block, drop the
crowdsale. `blockHash` is `chainActive[block]`. -/
def eraseMaxedCrowdsale (s : OmniState) (address : Address) (blockTime : Int)
    (blockHash : Uint256) : Except String OmniState :=
  match s.getCrowd address with
  | none => pure s
  | some crowdsale =>
    match s.sps.getSP crowdsale.propertyId with
    | none => throw "eraseMaxedCrowdsale: assert(_my_sps->getSP(crowdsale.getPropertyId(), sp))"
    | some sp =>
      let sp := { sp with historicalData := crowdsale.txFundraiserData, closeEarly := true,
                          maxTokens := true, timeclosed := blockTime, updateBlock := blockHash }
      pure { s with sps := s.sps.updateSP crowdsale.propertyId sp, crowds := s.crowds.erase address }

/-- One crowdsale of the walk of `eraseExpiredCrowdsale`: a crowdsale past its deadline has its
missed tokens computed against the current state, stored with its participation record, credited
to the issuer, and is dropped; the count of erased crowdsales is carried along. -/
def eraseExpiredStep (blockTime : Int) (blockHash : Uint256) (acc : OmniState × Nat)
    (entry : Address × CMPCrowd) : Except String (OmniState × Nat) := do
  let (s, howManyErased) := acc
  let (address, crowdsale) := entry
  if blockTime > crowdsale.deadline then
    match s.sps.getSP crowdsale.propertyId with
    | none => throw "eraseExpiredCrowdsale: assert(_my_sps->getSP(crowdsale.getPropertyId(), sp))"
    | some sp =>
      let missedTokens ← getMissedIssuerBonus s sp crowdsale
      let sp' := { sp with historicalData := crowdsale.txFundraiserData, missedTokens := missedTokens,
                           updateBlock := blockHash }
      let s := { s with sps := s.sps.updateSP crowdsale.propertyId sp' }
      let s ← if 0 < missedTokens then s.assertUpdateTallyMap sp.issuer crowdsale.propertyId missedTokens
        else pure s
      pure ({ s with crowds := s.crowds.erase address }, howManyErased + 1)
  else pure (s, howManyErased)

/-- **`mastercore::eraseExpiredCrowdsale(pBlockIndex)`**: walk the crowdsales in address order and
close every one whose deadline is before the block time; returns the number closed. -/
def eraseExpiredCrowdsale (s : OmniState) (blockTime : Int) (blockHash : Uint256) :
    Except String (Nat × OmniState) := do
  let r ← s.crowds.entries.foldlM (eraseExpiredStep blockTime blockHash) (s, 0)
  pure (r.2, r.1)

end OmniState

end WormholeCore
