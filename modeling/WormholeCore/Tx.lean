/-
# `WormholeCore.Tx` — the transaction handlers (`CMPTransaction`, tx.cpp, rules.cpp).

A transaction reaches the Omni layer as a `CMPTransaction`: the fields `parseTransaction` read
from the Bitcoin transaction (txid, block, sender, receiver, the BCH burnt) and the fields the
packet parsers `interpret_*` decode from its payload. The model keeps each field at the width of
the source (`UInt8`/`UInt16`/`UInt32`/`UInt64`); the byte-level decoding is not modelled — its
size and overrun checks are the flag `wellSized`.

`interpretPacket` runs `interpret_Transaction` (`-2` for a payload no parser accepts), rejects a
sender frozen for the packet's property (`-3`), and dispatches on the type to one
`logicMath_*` handler. Each handler is translated statement by statement: its checks return the
source's error codes (`PKT_ERROR_* - n`) with the state as it is at that point, its
`assert(...)`s are `.error` with the asserted text, and its mutations go through the store
functions of the other modules.

A handler's `blockHash` is `chainActive[block]`, `none` when the block is not in the active chain.
`IsTransactionTypeAllowed` accepts every type and version (its body is commented out in the
source); `IsERC721TransactionTypeAllowed` checks type `9`, version `0` and `ERC721_BLOCK`.
-/
import WormholeCore.Crowdsale

namespace WormholeCore

open Lib

/-! ## Casts and rules -/

/-- The C++ cast `(int64_t)` of a `uint64_t`: the two's-complement reading of its bits. -/
def int64Cast (n : UInt64) : Int := if n.toNat < 2 ^ 63 then n.toNat else n.toNat - 2 ^ 64

/-- The C++ conversion of an `int64_t` to `uint16_t`: the value modulo `2^16`. -/
def uint16Cast (i : Int) : Nat := (i % 65536).toNat

/-- `IsTransactionTypeAllowed`: its restriction table is commented out; every type and version is
allowed. -/
def isTransactionTypeAllowed (_txBlock : Int) (_txProperty : PropertyId) (_txType _version : UInt16) :
    Bool := true

/-- `IsERC721TransactionTypeAllowed`. -/
def isERC721TransactionTypeAllowed (params : CConsensusParams) (txBlock : Int) (txType version : UInt16) :
    Bool :=
  txType.toNat = whcTypeErc721 && version.toNat = mpTxPktV0 && decide (params.erc721Block ≤ txBlock)

/-- `mastercore::isFreezingEnabled(propertyId, block)`: the property exists and its
`prev_prop_id` is odd. -/
def isFreezingEnabled (sps : CMPSPInfo) (propertyId : PropertyId) : Bool :=
  match sps.getSP propertyId with
  | none => false
  | some sp => sp.prevPropId % 2 = 1

/-- `COIN`, in satoshis. -/
def coin : Int := 100000000

/-- The ERC721 actions (`enum ERC721Action`). -/
def issueErc721Property : UInt8 := 1
def issueErc721Token : UInt8 := 2
def transferRec721Token : UInt8 := 3
def destroyErc721Token : UInt8 := 4

/-! ## The transaction -/

/-- **`CMPTransaction`**: the fields of a transaction the handlers read. -/
structure CMPTransaction where
  txid : Uint256
  block : Int
  /-- `chainActive[block]->GetBlockHash()`, `none` when the block is not in the active chain. -/
  blockHash : Option Uint256
  blockTime : Int
  sender : Address
  receiver : Address
  type : UInt16
  version : UInt16
  property : UInt32 := 0
  nValue : UInt64 := 0
  distributionProperty : UInt32 := 0
  ecosystem : UInt8 := 0
  propType : UInt16 := 0
  prevPropId : UInt32 := 0
  category : String := ""
  subcategory : String := ""
  name : String := ""
  url : String := ""
  data : String := ""
  deadline : UInt64 := 0
  earlyBird : UInt8 := 0
  percentage : UInt8 := 0
  totalCrowsToken : UInt64 := 0
  /-- The BCH the transaction burnt, in satoshis. -/
  burnBCH : Int := 0
  erc721Action : UInt8 := 0
  erc721PropertyId : Uint256 := 0
  erc721PropertyName : String := ""
  erc721PropertySymbol : String := ""
  erc721PropertyUrl : String := ""
  erc721PropertyData : String := ""
  maxErc721number : UInt64 := 0
  erc721TokenId : Uint256 := 0
  erc721TokenAttribute : Uint256 := 0
  erc721TokenUrl : String := ""
  /-- The byte-level checks of the packet parsers passed (size, overrun, address decoding). -/
  wellSized : Bool := true
deriving DecidableEq, Repr

/-- The outcome of a handler: its return code and the state it leaves, or a failed `assert`. -/
abbrev Outcome := Except String (Int × OmniState)

namespace CMPTransaction

/-- `interpret_Transaction`: the packet parsers accept the known types, reject a crowdsale with a
non-zero `percentage` and an unknown ERC721 action. `interpret_SendAll` sets `property` to the
ecosystem; the parsers of the other types without a property field leave it at `0`. -/
def interpretTransaction (tx : CMPTransaction) : Option CMPTransaction :=
  if !tx.wellSized then none
  else match tx.type.toNat with
    | 0 | 1 | 3 | 53 | 55 | 56 | 70 | 185 | 186 => some tx
    | 4 => some { tx with property := tx.ecosystem.toUInt32 }
    | 50 | 54 | 68 => some { tx with property := 0 }
    | 51 => if tx.percentage ≠ 0 then none else some tx
    | 9 =>
      if 1 ≤ tx.erc721Action.toNat ∧ tx.erc721Action.toNat ≤ 4 then some { tx with property := 0 }
      else none
    | _ => none

/-- The receiver, or the sender when the transaction names none. -/
def receiverOrSender (tx : CMPTransaction) : Address := if tx.receiver = "" then tx.sender else tx.receiver

/-! ## Sends -/

/-- **`logicMath_SimpleSend`** (type 0). -/
def logicMathSimpleSend (tx : CMPTransaction) (s : OmniState) : Outcome := do
  let property := tx.property.toNat
  let nValue : Int := tx.nValue.toNat
  if isAddressFrozen s.frozen tx.sender property then return (pktError - 3, s)
  if isAddressFrozen s.frozen tx.receiver property then return (pktError - 4, s)
  if !isTransactionTypeAllowed tx.block property tx.type tx.version then return (pktErrorSend - 22, s)
  if nValue ≤ 0 ∨ maxInt8Bytes < nValue then return (pktErrorSend - 23, s)
  if !isPropertyIdValid s.sps property then return (pktErrorSend - 24, s)
  if getMPbalance s.tally tx.sender property .balance < nValue then return (pktErrorSend - 25, s)
  -- special case: if can't find the receiver, assume send to self
  let receiver := tx.receiverOrSender
  let s ← s.assertUpdateTallyMap tx.sender property (-nValue)
  let s ← s.assertUpdateTallyMap receiver property nValue
  return (0, s)

/-- The end of `logicMath_BuyToken`, once the purchase is paid (or bought nothing): the issuer's
share, the supply notification, and the close of a crowdsale that reached its maximum. -/
def buyTokenFinish (cfg : NodeConfig) (tx : CMPTransaction) (crowd : CMPCrowd) (issuerTokens : Int)
    (closeCrowdsale : Bool) (s : OmniState) : Except String OmniState := do
  let s ← if 0 < issuerTokens then s.assertUpdateTallyMap tx.receiver crowd.propertyId issuerTokens
    else pure s
  let s ← s.notifyTotalTokensChanged cfg.mscDebugFees crowd.propertyId tx.block
  if closeCrowdsale then
    match tx.blockHash with
    | none => throw "eraseMaxedCrowdsale: chainActive[block] is NULL"
    | some hash => s.eraseMaxedCrowdsale tx.receiver tx.blockTime hash
  else pure s

/-- **`logicMath_BuyToken`** (type 1): invest `nValue` of the desired property in the crowdsale of
the receiver. The crowdsale's counters and participation record are updated BEFORE the check that
the sender pays anything. -/
def logicMathBuyToken (cfg : NodeConfig) (tx : CMPTransaction) (s : OmniState) : Outcome := do
  let property := tx.property.toNat
  let nValue : Int := tx.nValue.toNat
  if isAddressFrozen s.frozen tx.sender property then return (pktError - 3, s)
  if !isTransactionTypeAllowed tx.block property tx.type tx.version then return (pktErrorSend - 22, s)
  if nValue ≤ 0 ∨ maxInt8Bytes < nValue then return (pktErrorSend - 23, s)
  if !isPropertyIdValid s.sps property then return (pktErrorSend - 24, s)
  if getMPbalance s.tally tx.sender property .balance < nValue then return (pktErrorSend - 25, s)
  if tx.receiver = "" then return (pktErrorSend - 26, s)
  let some crowd := s.getCrowd tx.receiver | return (pktErrorCrowd - 1, s)
  if crowd.propertyDesired ≠ property then return (pktErrorCrowd - 2, s)
  let some sp := s.sps.getSP crowd.propertyId
    | throw "logicMath_BuyToken: assert(_my_sps->getSP(pcrowdsale->getPropertyId(), sp))"
  if sp.issuer = tx.sender then return (pktErrorCrowd - 3, s)
  let precision := uint16Cast sp.getPrecision
  let (userTokens, closeCrowdsale, refund) ← calculateFundraiser precision nValue sp.earlyBird
    sp.deadline tx.blockTime sp.rate (getSaledTokens s crowd.propertyId) sp.numTokens
  -- `calculateFundraiser` never sets the issuer's share
  let issuerTokens : Int := 0
  if refund < 0 then return (pktErrorCrowd - 4, s)
  let money := nValue - refund
  -- update the crowdsale object, through the pointer `getCrowd` returned
  let crowd := (crowd.incTokensUserCreated userTokens).incTokensIssuerCreated issuerTokens
  let crowd := crowd.insertDatabase tx.txid [money, tx.blockTime, userTokens, issuerTokens]
  let s := { s with crowds := s.crowds.insert tx.receiver crowd }
  -- credit tokens for this fundraiser
  let s ← if 0 < userTokens then
      if 0 < money then do
        let s ← s.assertUpdateTallyMap tx.sender crowd.propertyId userTokens
        let s ← s.assertUpdateTallyMap tx.sender property (-money)
        s.assertUpdateTallyMap tx.receiver property money
      else return (pktErrorCrowd - 5, s)
    else pure s
  let s ← buyTokenFinish cfg tx crowd issuerTokens closeCrowdsale s
  return (0, s)

/-- One receiver of a send-to-owners paid: `sent_so_far` advanced, the sender debited, the
receiver credited. -/
def stoPay (property : PropertyId) (sender : Address) (acc : OmniState × Int) (r : Int × Address) :
    Except String (OmniState × Int) := do
  let s ← acc.1.assertUpdateTallyMap sender property (-r.1)
  let s ← s.assertUpdateTallyMap r.2 property r.1
  pure (s, acc.2 + r.1)

/-- **`logicMath_SendToOwners`** (type 3). A version other than `0` is logged as unsupported but
NOT rejected; the version-1 branch credits the fee to the burn address AND adds it to the fee
cache. -/
def logicMathSendToOwners (cfg : NodeConfig) (tx : CMPTransaction) (s : OmniState) : Outcome := do
  let property := tx.property.toNat
  let nValue : Int := tx.nValue.toNat
  if isAddressFrozen s.frozen tx.sender property then return (pktError - 3, s)
  if !isTransactionTypeAllowed tx.block property tx.type tx.version then return (pktErrorSto - 22, s)
  -- `version != MP_TX_PKT_V0` only logs
  if nValue ≤ 0 ∨ maxInt8Bytes < nValue then return (pktErrorSto - 23, s)
  if !isPropertyIdValid s.sps property then return (pktErrorSto - 24, s)
  if !isPropertyIdValid s.sps tx.distributionProperty.toNat then return (pktErrorSto - 24, s)
  if getMPbalance s.tally tx.sender property .balance < nValue then return (pktErrorSto - 25, s)
  let receiversSet ← stoGetReceivers s.tally s.frozen tx.sender tx.distributionProperty.toNat nValue
    property
  let numberOfReceivers : Int := receiversSet.length
  if numberOfReceivers ≤ 0 then return (pktErrorSto - 26, s)
  let feeProperty := if isTestEcosystemProperty property then omniPropertyTwhc else omniPropertyWhc
  let feePerOwner := if tx.version.toNat = mpTxPktV0 then transferFeePerOwner else transferFeePerOwnerV1
  let transferFee := feePerOwner * numberOfReceivers
  if feeProperty ≠ property then
    if getMPbalance s.tally tx.sender feeProperty .balance < transferFee then
      return (pktErrorSto - 27, s)
  else
    if getMPbalance s.tally tx.sender feeProperty .balance < nValue + transferFee then
      return (pktErrorSto - 28, s)
  let s ← s.assertUpdateTallyMap tx.sender feeProperty (-transferFee)
  let s ← s.assertUpdateTallyMap cfg.burnwhcAddress omniPropertyWhc transferFee
  -- v0 burns the fee; v1 credits it to the fee cache as well
  let s ← if tx.version.toNat = mpTxPktV0 then pure s
    else s.addFee cfg.mscDebugFees feeProperty tx.block transferFee
  let paid ← receiversSet.foldlM (stoPay property tx.sender) (s, 0)
  if paid.2 ≠ nValue then throw "logicMath_SendToOwners: assert(sent_so_far == (int64_t)nValue)"
  let s := paid.1
  let s ← if tx.version.toNat = mpTxPktV0 then
      s.notifyTotalTokensChanged cfg.mscDebugFees omniPropertyWhc tx.block
    else pure s
  return (0, s)

/-- One property of a send-all: skipped outside the ecosystem or when the sender or the receiver
is frozen for it; otherwise its whole balance moves and the count goes up. The balance is read
from the state as the walk has left it, as the source reads it through the sender's tally. -/
def sendAllStep (sender receiver : Address) (ecosystem : Nat) (acc : OmniState × Nat)
    (propertyId : PropertyId) : Except String (OmniState × Nat) := do
  let (s, numberOfPropertiesSent) := acc
  if ecosystem = omniPropertyWhc ∧ isTestEcosystemProperty propertyId then return (s, numberOfPropertiesSent)
  if ecosystem = omniPropertyTwhc ∧ isMainEcosystemProperty propertyId then
    return (s, numberOfPropertiesSent)
  if isAddressFrozen s.frozen sender propertyId then return (s, numberOfPropertiesSent)
  if isAddressFrozen s.frozen receiver propertyId then return (s, numberOfPropertiesSent)
  let moneyAvailable := (s.tally.findD sender {}).getMoney propertyId .balance
  if 0 < moneyAvailable then
    let s ← s.assertUpdateTallyMap sender propertyId (-moneyAvailable)
    let s ← s.assertUpdateTallyMap receiver propertyId moneyAvailable
    return (s, numberOfPropertiesSent + 1)
  return (s, numberOfPropertiesSent)

/-- **`logicMath_SendAll`** (type 4): move every balance of the ecosystem. The walk
`ptally->next()` stops at the first identifier `0`. -/
def logicMathSendAll (tx : CMPTransaction) (s : OmniState) : Outcome := do
  let ecosystem := tx.ecosystem.toNat
  if !isTransactionTypeAllowed tx.block ecosystem tx.type tx.version then
    return (pktErrorSendAll - 22, s)
  let receiver := tx.receiverOrSender
  if omniPropertyWhc ≠ ecosystem then return (pktErrorSp - 21, s)
  let some ptally := s.tally.find? tx.sender | return (pktErrorSendAll - 54, s)
  let properties := ptally.mpToken.keys.takeWhile (· ≠ 0)
  let r ← properties.foldlM (sendAllStep tx.sender receiver ecosystem) (s, 0)
  if r.2 = 0 then return (pktErrorSendAll - 55, r.1)
  return (0, r.1)

/-! ## Smart properties -/

/-- The record of a new property, with the fields every creation sets. -/
def newEntry (tx : CMPTransaction) (hash : Uint256) : CMPSPInfo.Entry :=
  { issuer := tx.sender, txid := tx.txid, propType := tx.propType.toNat, category := tx.category,
    subcategory := tx.subcategory, name := tx.name, url := tx.url, data := tx.data,
    creationBlock := hash, updateBlock := hash }

/-- The creation fee: `CREATE_TOKEN_FEE` WHC from the sender to the burn address. -/
def payCreateFee (cfg : NodeConfig) (sender : Address) (s : OmniState) : Except String OmniState := do
  let s ← s.assertUpdateTallyMap sender omniPropertyWhc (-createTokenFee)
  s.assertUpdateTallyMap cfg.burnwhcAddress omniPropertyWhc createTokenFee

/-- **`logicMath_CreatePropertyFixed`** (type 50). -/
def logicMathCreatePropertyFixed (cfg : NodeConfig) (tx : CMPTransaction) (s : OmniState) :
    Outcome := do
  let some blockHash := tx.blockHash | return (pktErrorSp - 20, s)
  let ecosystem := tx.ecosystem.toNat
  let nValue : Int := tx.nValue.toNat
  if omniPropertyWhc ≠ ecosystem then return (pktErrorSp - 21, s)
  if 8 < tx.propType.toNat then return (pktErrorSp - 36, s)
  if !isTransactionTypeAllowed tx.block ecosystem tx.type tx.version then return (pktErrorSp - 22, s)
  if nValue ≤ 0 ∨ maxInt8Bytes < nValue then return (pktErrorSp - 23, s)
  if tx.prevPropId ≠ 0 then return (pktErrorSp - 51, s)
  if getMPbalance s.tally tx.sender omniPropertyWhc .balance < createTokenFee then
    return (pktErrorBurn - 3, s)
  if tx.name = "" then return (pktErrorSp - 37, s)
  let newSP := { tx.newEntry blockHash with numTokens := nValue, fixed := true }
  let (propertyId, sps) := s.sps.putSP ecosystem newSP
  if propertyId = 0 then throw "logicMath_CreatePropertyFixed: assert(propertyId > 0)"
  let s := { s with sps := sps }
  let s ← payCreateFee cfg tx.sender s
  let s ← s.assertUpdateTallyMap tx.sender propertyId nValue
  let s ← s.notifyTotalTokensChanged cfg.mscDebugFees propertyId tx.block
  return (0, s)

/-- **`logicMath_CreatePropertyVariable`** (type 51): a crowdsale. Its `num_tokens` is the
`uint64_t` `totalCrowsToken` stored in an `int64_t`, range-checked only from
`MSC_CHECK_VARIABLE_TOKEN` on. -/
def logicMathCreatePropertyVariable (cfg : NodeConfig) (tx : CMPTransaction) (s : OmniState) :
    Outcome := do
  let some blockHash := tx.blockHash | return (pktErrorSp - 20, s)
  let ecosystem := tx.ecosystem.toNat
  let nValue : Int := tx.nValue.toNat
  if omniPropertyWhc ≠ ecosystem then return (pktErrorSp - 21, s)
  if 8 < tx.propType.toNat then return (pktErrorSp - 35, s)
  if !isTransactionTypeAllowed tx.block ecosystem tx.type tx.version then return (pktErrorSp - 22, s)
  if nValue ≤ 0 ∨ maxTokenPrice < nValue then return (pktErrorSp - 23, s)
  if cfg.params.mscCheckVariableToken ≤ tx.block then
    if tx.totalCrowsToken.toNat ≤ 0 ∨ maxInt8Bytes < tx.totalCrowsToken.toNat then
      return (pktErrorSp - 25, s)
  if tx.property.toNat ≠ omniPropertyWhc then return (pktErrorSp - 34, s)
  if getMPbalance s.tally tx.sender omniPropertyWhc .balance < createTokenFee then
    return (pktErrorBurn - 3, s)
  if tx.prevPropId ≠ 0 then return (pktErrorSp - 51, s)
  if tx.name = "" then return (pktErrorSp - 37, s)
  if tx.deadline = 0 ∨ int64Cast tx.deadline < tx.blockTime then return (pktErrorSp - 38, s)
  if (s.getCrowd tx.sender).isSome then return (pktErrorSp - 39, s)
  let newSP := { tx.newEntry blockHash with
    numTokens := int64Cast tx.totalCrowsToken, fixed := false, manual := false, rate := nValue,
    propertyDesired := omniPropertyWhc, deadline := int64Cast tx.deadline,
    earlyBird := tx.earlyBird.toNat, percentage := tx.percentage.toNat }
  let (propertyId, sps) := s.sps.putSP ecosystem newSP
  if propertyId = 0 then throw "logicMath_CreatePropertyVariable: assert(propertyId > 0)"
  let s := { s with sps := sps }
  let s ← payCreateFee cfg tx.sender s
  let crowd : CMPCrowd :=
    { propertyId := propertyId, nValue := nValue, propertyDesired := omniPropertyWhc,
      deadline := int64Cast tx.deadline, earlyBird := tx.earlyBird.toNat,
      percentage := tx.percentage.toNat, uCreated := 0, iCreated := 0, txFundraiserData := OrdMap.empty }
  -- `std::map::insert` keeps an existing crowdsale (none exists: checked above)
  let s := if s.crowds.contains tx.sender then s else { s with crowds := s.crowds.insert tx.sender crowd }
  return (0, s)

/-- **`logicMath_CloseCrowdsale`** (type 53). -/
def logicMathCloseCrowdsale (tx : CMPTransaction) (s : OmniState) : Outcome := do
  let some blockHash := tx.blockHash | return (pktErrorSp - 20, s)
  let property := tx.property.toNat
  if !isTransactionTypeAllowed tx.block property tx.type tx.version then return (pktErrorSp - 22, s)
  if !isPropertyIdValid s.sps property then return (pktErrorSp - 24, s)
  let some crowd := s.getCrowd tx.sender | return (pktErrorSp - 40, s)
  if property ≠ crowd.propertyId then return (pktErrorSp - 41, s)
  let some sp := s.sps.getSP property
    | throw "logicMath_CloseCrowdsale: assert(_my_sps->getSP(property, sp))"
  let missedTokens ← getMissedIssuerBonus s sp crowd
  let sp' := { sp with
    historicalData := crowd.txFundraiserData, updateBlock := blockHash, closeEarly := true,
    timeclosed := tx.blockTime, txidClose := tx.txid, missedTokens := missedTokens }
  let s := { s with sps := s.sps.updateSP property sp' }
  let s ← if 0 < missedTokens then s.assertUpdateTallyMap sp.issuer property missedTokens else pure s
  return (0, { s with crowds := s.crowds.erase tx.sender })

/-- **`logicMath_CreatePropertyManaged`** (type 54). From `WHC_FREEZENACTIVATE_BLOCK` on,
`prev_prop_id` may be `1`, which enables freezing for the property. -/
def logicMathCreatePropertyManaged (cfg : NodeConfig) (tx : CMPTransaction) (s : OmniState) :
    Outcome := do
  let some blockHash := tx.blockHash | return (pktErrorSp - 20, s)
  let ecosystem := tx.ecosystem.toNat
  if omniPropertyWhc ≠ ecosystem then return (pktErrorSp - 21, s)
  if 8 < tx.propType.toNat then return (pktErrorSp - 36, s)
  if !isTransactionTypeAllowed tx.block ecosystem tx.type tx.version then return (pktErrorSp - 22, s)
  if getMPbalance s.tally tx.sender omniPropertyWhc .balance < createTokenFee then
    return (pktErrorBurn - 3, s)
  if cfg.params.whcFreezenactivateBlock ≤ tx.block then
    if tx.prevPropId ≠ 0 ∧ tx.prevPropId ≠ 1 then return (pktErrorSp - 52, s)
  else
    if tx.prevPropId ≠ 0 then return (pktErrorSp - 51, s)
  if tx.name = "" then return (pktErrorSp - 37, s)
  let newSP := { tx.newEntry blockHash with
    prevPropId := tx.prevPropId.toNat, fixed := false, manual := true }
  let (propertyId, sps) := s.sps.putSP ecosystem newSP
  if propertyId = 0 then throw "logicMath_CreatePropertyManaged: assert(propertyId > 0)"
  let s := { s with sps := sps }
  let s ← payCreateFee cfg tx.sender s
  return (0, s)

/-- **`logicMath_GrantTokens`** (type 55). -/
def logicMathGrantTokens (cfg : NodeConfig) (tx : CMPTransaction) (s : OmniState) : Outcome := do
  let some blockHash := tx.blockHash | return (pktErrorSp - 20, s)
  let property := tx.property.toNat
  let nValue : Int := tx.nValue.toNat
  if isAddressFrozen s.frozen tx.receiver property then return (pktError - 4, s)
  if property = omniPropertyTwhc ∨ omniPropertyWhc = property then return (pktErrorTokens - 25, s)
  if !isTransactionTypeAllowed tx.block property tx.type tx.version then
    return (pktErrorTokens - 22, s)
  if nValue ≤ 0 ∨ maxInt8Bytes < nValue then return (pktErrorTokens - 23, s)
  if !isPropertyIdValid s.sps property then return (pktErrorTokens - 24, s)
  let some sp := s.sps.getSP property
    | throw "logicMath_GrantTokens: assert(_my_sps->getSP(property, sp))"
  if !sp.manual then return (pktErrorTokens - 42, s)
  if tx.sender ≠ sp.issuer then return (pktErrorTokens - 43, s)
  let nTotalTokens := getTotalTokens s property
  if nValue > maxInt8Bytes - nTotalTokens then return (pktErrorTokens - 44, s)
  -- `std::map::insert` keeps an existing entry for the txid
  let historicalData := if sp.historicalData.contains tx.txid then sp.historicalData
    else sp.historicalData.insert tx.txid [nValue, 0]
  let sp' := { sp with historicalData := historicalData, updateBlock := blockHash }
  let s := { s with sps := s.sps.updateSP property sp' }
  let s ← s.assertUpdateTallyMap tx.receiverOrSender property nValue
  let s ← s.notifyTotalTokensChanged cfg.mscDebugFees property tx.block
  return (0, s)

/-- **`logicMath_RevokeTokens`** (type 56). -/
def logicMathRevokeTokens (cfg : NodeConfig) (tx : CMPTransaction) (s : OmniState) : Outcome := do
  let some blockHash := tx.blockHash | return (pktErrorTokens - 20, s)
  let property := tx.property.toNat
  let nValue : Int := tx.nValue.toNat
  if property = omniPropertyTwhc ∨ omniPropertyWhc = property then return (pktErrorTokens - 25, s)
  if !isTransactionTypeAllowed tx.block property tx.type tx.version then
    return (pktErrorTokens - 22, s)
  if nValue ≤ 0 ∨ maxInt8Bytes < nValue then return (pktErrorTokens - 23, s)
  if !isPropertyIdValid s.sps property then return (pktErrorTokens - 24, s)
  let some sp := s.sps.getSP property
    | throw "logicMath_RevokeTokens: assert(_my_sps->getSP(property, sp))"
  if !sp.manual then return (pktErrorTokens - 42, s)
  if tx.sender ≠ sp.issuer then return (pktErrorTokens - 43, s)
  if getMPbalance s.tally tx.sender property .balance < nValue then return (pktErrorTokens - 25, s)
  let historicalData := if sp.historicalData.contains tx.txid then sp.historicalData
    else sp.historicalData.insert tx.txid [0, nValue]
  let sp' := { sp with historicalData := historicalData, updateBlock := blockHash }
  let s ← s.assertUpdateTallyMap tx.sender property (-nValue)
  let s := { s with sps := s.sps.updateSP property sp' }
  let s ← s.notifyTotalTokensChanged cfg.mscDebugFees property tx.block
  return (0, s)

/-- **`logicMath_ChangeIssuer`** (type 70). -/
def logicMathChangeIssuer (tx : CMPTransaction) (s : OmniState) : Outcome := do
  let some blockHash := tx.blockHash | return (pktErrorTokens - 20, s)
  let property := tx.property.toNat
  if property = omniPropertyTwhc ∨ omniPropertyWhc = property then return (pktErrorTokens - 25, s)
  if !isTransactionTypeAllowed tx.block property tx.type tx.version then
    return (pktErrorTokens - 22, s)
  if !isPropertyIdValid s.sps property then return (pktErrorTokens - 24, s)
  let some sp := s.sps.getSP property
    | throw "logicMath_ChangeIssuer: assert(_my_sps->getSP(property, sp))"
  if tx.sender ≠ sp.issuer then return (pktErrorTokens - 43, s)
  if (s.getCrowd tx.sender).isSome then return (pktErrorTokens - 39, s)
  if tx.receiver = "" then return (pktErrorTokens - 45, s)
  if isAddressFrozen s.frozen tx.receiver property then return (pktErrorSp - 45, s)
  if (s.getCrowd tx.receiver).isSome then return (pktErrorTokens - 46, s)
  let sp' := { sp with issuer := tx.receiver, updateBlock := blockHash }
  return (0, { s with sps := s.sps.updateSP property sp' })

/-- The checks `FreezeTokens` and `UnfreezeTokens` share, with their error codes: `none` when the
sender may (un)freeze the receiver for the property. -/
def freezeCheck (tx : CMPTransaction) (s : OmniState) : Except String (Option Int) := do
  let some _ := tx.blockHash | return some (pktErrorTokens - 20)
  let property := tx.property.toNat
  if !isTransactionTypeAllowed tx.block property tx.type tx.version then
    return some (pktErrorTokens - 22)
  if !isPropertyIdValid s.sps property then return some (pktErrorTokens - 24)
  let some sp := s.sps.getSP property
    | throw "logicMath_FreezeTokens: assert(_my_sps->getSP(property, sp))"
  if !sp.manual then return some (pktErrorTokens - 42)
  if tx.sender ≠ sp.issuer then return some (pktErrorTokens - 43)
  if tx.sender = tx.receiver then return some (pktErrorTokens - 51)
  if !isFreezingEnabled s.sps property then return some (pktErrorTokens - 47)
  return none

/-- **`logicMath_FreezeTokens`** (type 185). -/
def logicMathFreezeTokens (tx : CMPTransaction) (s : OmniState) : Outcome := do
  match ← freezeCheck tx s with
  | some code => return (code, s)
  | none => return (0, { s with frozen := freezeAddress s.frozen tx.receiver tx.property.toNat })

/-- **`logicMath_UnfreezeTokens`** (type 186). -/
def logicMathUnfreezeTokens (tx : CMPTransaction) (s : OmniState) : Outcome := do
  match ← freezeCheck tx s with
  | some code => return (code, s)
  | none => return (0, { s with frozen := unfreezeAddress s.frozen tx.receiver tx.property.toNat })

/-- **`logicMath_burnBCHGetWHC`** (type 68): a burn of at least one BCH in the exodus window is
queued in `pendingCreateWHC`, to be credited `DISTRIBUTEHEIGHT` blocks later. -/
def logicMathBurnBCHGetWHC (cfg : NodeConfig) (tx : CMPTransaction) (s : OmniState) : Outcome :=
  if cfg.params.genesisBlock ≤ tx.block ∧ tx.block ≤ cfg.params.lastExodusBlock then
    if tx.burnBCH < coin then (pure (pktErrorBurn - 1, s))
    else
      let amountGenerated := cfg.params.exodusReward * tx.burnBCH
      if 0 < amountGenerated then
        let entry : PendingBurn := ⟨tx.block, tx.txid, tx.sender, amountGenerated⟩
        pure (0, { s with pendingCreateWHC := insertPending entry s.pendingCreateWHC })
      else pure (pktErrorBurn - 2, s)
  else pure (pktErrorBurn - 2, s)

/-! ## ERC721 -/

/-- `ERC721TokenInfos::existToken(propertyID, tokenID)`: whether the property and the token exist,
loading both into the caches `FRESH`. -/
def existToken (s : OmniState) (propertyID tokenID : Uint256) : Bool × OmniState :=
  let (spExists, erc721sps) := s.erc721sps.existSP propertyID
  let s := { s with erc721sps := erc721sps }
  if !spExists then (false, s)
  else
    let tokens := s.erc721tokens.touch propertyID
    match (tokens.cacheTokens propertyID).find? tokenID with
    | some _ => (true, { s with erc721tokens := tokens })
    | none =>
      match tokens.db.live.find? (toLex (propertyID, tokenID)) with
      | none => (false, { s with erc721tokens := tokens })
      | some info => (true, { s with erc721tokens := tokens.setCached propertyID tokenID (info, .fresh) })

/-- The loop `do { erc721_tokenid = tmpTokenID++; } while (existToken(...))`: the first free
identifier from `tmpTokenID` on, and the advanced `tmpTokenID`. The walk is bounded by `fuel`,
which the caller sets to one more than the number of tokens that can exist. -/
def nextFreeTokenId (propertyID : Uint256) : Nat → Nat → OmniState → Except String (Nat × Nat × OmniState)
  | 0, _, _ => throw "logicMath_ERC721_issuetoken: no free token identifier"
  | fuel + 1, tmpTokenID, s =>
    let tokenID := tmpTokenID
    let tmpTokenID := incU64 tmpTokenID
    let (exists_, s) := existToken s propertyID tokenID
    if exists_ then nextFreeTokenId propertyID fuel tmpTokenID s else pure (tokenID, tmpTokenID, s)

/-- **`logicMath_ERC721_issueproperty`**. -/
def logicMathErc721IssueProperty (cfg : NodeConfig) (tx : CMPTransaction) (s : OmniState) : Outcome := do
  let some blockHash := tx.blockHash | return (pktErrorSp - 20, s)
  if !isERC721TransactionTypeAllowed cfg.params tx.block tx.type tx.version then
    return (pktErrorSp - 22, s)
  if getMPbalance s.tally tx.sender omniPropertyWhc .balance < createTokenFee then
    return (pktErrorBurn - 3, s)
  if tx.erc721PropertyName = "" then return (pktErrorSp - 37, s)
  if tx.maxErc721number = 0 then return (pktErrorErc721 - 101, s)
  let info : CMPSPERC721Info.PropertyInfo :=
    { updateBlock := blockHash, creationBlock := blockHash, txid := tx.txid, issuer := tx.sender,
      data := tx.erc721PropertyData, symbol := tx.erc721PropertySymbol, url := tx.erc721PropertyUrl,
      name := tx.erc721PropertyName, maxTokens := tx.maxErc721number.toNat }
  let (_, erc721sps) := s.erc721sps.putSP info
  let s := { s with erc721sps := erc721sps }
  let s ← payCreateFee cfg tx.sender s
  return (0, s)

/-- **`logicMath_ERC721_issuetoken`**: the property's counters move in the cache, marked `DIRTY`,
but its `updateBlock` is left as it was. -/
def logicMathErc721IssueToken (cfg : NodeConfig) (tx : CMPTransaction) (s : OmniState) : Outcome := do
  let some blockHash := tx.blockHash | return (pktErrorSp - 20, s)
  if !isERC721TransactionTypeAllowed cfg.params tx.block tx.type tx.version then
    return (pktErrorSp - 22, s)
  let (spInfo, erc721sps) := s.erc721sps.getForUpdateSP tx.erc721PropertyId
  let s := { s with erc721sps := erc721sps }
  let some spInfo := spInfo | return (pktErrorErc721 - 202, s)
  if spInfo.1.issuer ≠ tx.sender then return (pktErrorErc721 - 203, s)
  let receiver := tx.receiverOrSender
  if receiver = cfg.burnwhcAddress then return (pktErrorErc721 - 206, s)
  if spInfo.1.haveIssuedNumber = spInfo.1.maxTokens then return (pktErrorErc721 - 207, s)
  let (tokenID, autoNext, s) ← if tx.erc721TokenId ≠ 0 then do
      let (exists_, s) := existToken s tx.erc721PropertyId tx.erc721TokenId
      if exists_ then return (pktErrorErc721 - 204, s)
      pure (tx.erc721TokenId, none, s)
    else do
      let fuel := s.erc721tokens.db.live.size + (s.erc721tokens.cacheTokens tx.erc721PropertyId).size + 1
      let (tokenID, tmpTokenID, s) ← nextFreeTokenId tx.erc721PropertyId fuel spInfo.1.autoNextTokenID s
      pure (tokenID, some tmpTokenID, s)
  let info : ERC721TokenInfos.TokenInfo :=
    { txid := tx.txid, owner := receiver, updateBlockHash := blockHash, creationBlockHash := blockHash,
      attributes := tx.erc721TokenAttribute, url := tx.erc721TokenUrl }
  let (put, erc721tokens) := s.erc721tokens.putToken tx.erc721PropertyId tokenID info
  let s := { s with erc721tokens := erc721tokens }
  if !put then return (pktErrorErc721 - 205, s)
  let p := spInfo.1
  let p := { p with haveIssuedNumber := incU64 p.haveIssuedNumber,
                    currentValidIssuedNumer := incU64 p.currentValidIssuedNumer,
                    autoNextTokenID := autoNext.getD p.autoNextTokenID }
  return (0, { s with erc721sps := s.erc721sps.setCached tx.erc721PropertyId (p, .dirty) })

/-- **`logicMath_ERC721_transfertoken`**: the owner changes in the cache, marked `DIRTY`, but the
token's `updateBlockHash` is left as it was. -/
def logicMathErc721TransferToken (cfg : NodeConfig) (tx : CMPTransaction) (s : OmniState) : Outcome := do
  let some _ := tx.blockHash | return (pktErrorSp - 20, s)
  if !isERC721TransactionTypeAllowed cfg.params tx.block tx.type tx.version then
    return (pktErrorSp - 22, s)
  let (info, erc721tokens) := s.erc721tokens.getForUpdateToken tx.erc721PropertyId tx.erc721TokenId
  let s := { s with erc721tokens := erc721tokens }
  let some info := info | return (pktErrorErc721 - 208, s)
  if info.1.owner ≠ tx.sender then return (pktErrorErc721 - 302, s)
  let receiver := tx.receiverOrSender
  if receiver = cfg.burnwhcAddress then return (pktErrorErc721 - 206, s)
  let token := { info.1 with owner := receiver }
  return (0, { s with erc721tokens :=
    s.erc721tokens.setCached tx.erc721PropertyId tx.erc721TokenId (token, .dirty) })

/-- **`logicMath_ERC721_destroytoken`**: the token goes to the burn address and the property's
valid count goes down, both in the caches, neither restamped. -/
def logicMathErc721DestroyToken (cfg : NodeConfig) (tx : CMPTransaction) (s : OmniState) : Outcome := do
  let some _ := tx.blockHash | return (pktErrorSp - 20, s)
  if !isERC721TransactionTypeAllowed cfg.params tx.block tx.type tx.version then
    return (pktErrorSp - 22, s)
  let (spInfo, erc721sps) := s.erc721sps.getForUpdateSP tx.erc721PropertyId
  let s := { s with erc721sps := erc721sps }
  let some spInfo := spInfo | return (pktErrorErc721 - 202, s)
  let (info, erc721tokens) := s.erc721tokens.getForUpdateToken tx.erc721PropertyId tx.erc721TokenId
  let s := { s with erc721tokens := erc721tokens }
  let some info := info | return (pktErrorErc721 - 208, s)
  if info.1.owner ≠ tx.sender then return (pktErrorErc721 - 302, s)
  let token := { info.1 with owner := cfg.burnwhcAddress }
  let s := { s with erc721tokens :=
    s.erc721tokens.setCached tx.erc721PropertyId tx.erc721TokenId (token, .dirty) }
  let p := { spInfo.1 with currentValidIssuedNumer := decU64 spInfo.1.currentValidIssuedNumer }
  return (0, { s with erc721sps := s.erc721sps.setCached tx.erc721PropertyId (p, .dirty) })

/-- **`logicMath_ERC721`** (type 9): dispatch on the action. -/
def logicMathErc721 (cfg : NodeConfig) (tx : CMPTransaction) (s : OmniState) : Outcome :=
  if tx.erc721Action = issueErc721Property then logicMathErc721IssueProperty cfg tx s
  else if tx.erc721Action = issueErc721Token then logicMathErc721IssueToken cfg tx s
  else if tx.erc721Action = transferRec721Token then logicMathErc721TransferToken cfg tx s
  else if tx.erc721Action = destroyErc721Token then logicMathErc721DestroyToken cfg tx s
  else pure (pktErrorErc721 - 1, s)

/-! ## Dispatch -/

/-- The handler of a parsed transaction, by type (the `switch` of `interpretPacket`). -/
def logicMath (cfg : NodeConfig) (tx : CMPTransaction) (s : OmniState) : Outcome :=
  match tx.type.toNat with
  | 0 => logicMathSimpleSend tx s
  | 1 => logicMathBuyToken cfg tx s
  | 3 => logicMathSendToOwners cfg tx s
  | 4 => logicMathSendAll tx s
  | 50 => logicMathCreatePropertyFixed cfg tx s
  | 51 => logicMathCreatePropertyVariable cfg tx s
  | 53 => logicMathCloseCrowdsale tx s
  | 54 => logicMathCreatePropertyManaged cfg tx s
  | 55 => logicMathGrantTokens cfg tx s
  | 56 => logicMathRevokeTokens cfg tx s
  | 70 => logicMathChangeIssuer tx s
  | 185 => logicMathFreezeTokens tx s
  | 186 => logicMathUnfreezeTokens tx s
  | 68 => logicMathBurnBCHGetWHC cfg tx s
  | 9 => logicMathErc721 cfg tx s
  | _ => pure (pktError - 100, s)

/-- **`CMPTransaction::interpretPacket`**: parse, reject a sender frozen for the packet's
property, run the handler. -/
def interpretPacket (cfg : NodeConfig) (tx : CMPTransaction) (s : OmniState) : Outcome :=
  match tx.interpretTransaction with
  | none => pure (pktError - 2, s)
  | some tx =>
    if isAddressFrozen s.frozen tx.sender tx.property.toNat then pure (pktError - 3, s)
    else logicMath cfg tx s

/-! ## Reading a handler's outcome -/

/-- **The creation fee moves WHC only**: the stores and the fee cache are kept, and no frozen
balance goes down. -/
theorem payCreateFee_ok {cfg : NodeConfig} {a : Address} {s s' : OmniState}
    (h : payCreateFee cfg a s = .ok s') :
    (s'.stores = s.stores ∧ s'.feeCache = s.feeCache) ∧ OmniState.FrozenMono s s' := by
  simp only [payCreateFee, Except.bind_eq_ok] at h
  obtain ⟨s₁, h₁, h₂⟩ := h
  obtain ⟨hst₁, hfee₁⟩ := OmniState.assertUpdateTallyMap_frame h₁
  obtain ⟨hst₂, hfee₂⟩ := OmniState.assertUpdateTallyMap_frame h₂
  refine ⟨⟨hst₂.trans hst₁, hfee₂.trans hfee₁⟩, ?_⟩
  exact OmniState.FrozenMono.trans (OmniState.frozenMono_assertUpdateTallyMap h₁)
    (OmniState.frozenMono_assertUpdateTallyMap h₂) (congrArg Prod.fst hst₁)

/-- **The creation fee reaches the burn address**: from another sender, the burn address's WHC
balance goes up by the fee, and stays at most `INT64_MAX`. -/
theorem payCreateFee_burn {cfg : NodeConfig} {a : Address} {s s' : OmniState}
    (ha : a ≠ cfg.burnwhcAddress) (h : payCreateFee cfg a s = .ok s') :
    s'.tally.money cfg.burnwhcAddress omniPropertyWhc .balance =
        s.tally.money cfg.burnwhcAddress omniPropertyWhc .balance + createTokenFee ∧
      s'.tally.money cfg.burnwhcAddress omniPropertyWhc .balance ≤ int64Max := by
  simp only [payCreateFee, Except.bind_eq_ok] at h
  obtain ⟨s₁, h₁, h₂⟩ := h
  have hdebit := OmniState.money_assertUpdateTallyMap h₁ cfg.burnwhcAddress omniPropertyWhc .balance
  have hcredit := OmniState.money_assertUpdateTallyMap h₂ cfg.burnwhcAddress omniPropertyWhc .balance
  rw [if_neg fun hb => ha hb.1.symm] at hdebit
  rw [if_pos ⟨rfl, rfl, rfl⟩, hdebit] at hcredit
  exact ⟨hcredit, OmniState.money_le_of_assertUpdateTallyMap (by decide) h₂⟩

end CMPTransaction

end WormholeCore
