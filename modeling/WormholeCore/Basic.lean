/-
# `WormholeCore.Basic` — the numeric vocabulary of Wormhole Core (omnicore.h, rules.{h,cpp}, sto.h).

Every constant a modelled function reads is defined here ONCE, under the source's name in the
project's case convention, with the value the header gives it:

* the `int64_t` range and `MAX_INT_8_BYTES`, the bound every amount check is written against;
* the reserved property identifiers (`OMNI_PROPERTY_WHC = 1`, `OMNI_PROPERTY_TWHC = 2`) and the
  first test-ecosystem identifier, with the two ecosystem predicates of omnicore.cpp;
* the transaction type numbers `interpretPacket` dispatches on and the packet versions;
* the error-code bases (`PKT_ERROR_*`) the handlers subtract their reason codes from;
* the fees (`CREATE_TOKEN_FEE`, `TRANSFER_FEE_PER_OWNER[_V1]`) and the state-history window;
* the per-network consensus parameters (`CConsensusParams`), of which only the heights the modelled
  handlers test are kept, with the three networks' values from rules.cpp.

Identifiers (`uint32_t` property ids, `uint256` hashes) are natural numbers: the code only compares
and increments them. Amounts are integers; the places where the code's `int64_t` arithmetic could
leave its range are guarded in the source by explicit checks, and those checks are modelled. A sum
the source does not guard wraps round, `int64Wrap`.
-/
import Mathlib.Data.Nat.Basic
import Mathlib.Data.Int.Order.Basic
import Mathlib.Data.String.Basic
import Mathlib.Data.Prod.Lex

namespace WormholeCore

/-- A `uint256` (block hash, transaction id, ERC721 identifier) as the number it encodes. -/
abbrev Uint256 := Nat

/-- A property identifier (`uint32_t propertyId`). -/
abbrev PropertyId := Nat

/-- An address, in its encoded text form. -/
abbrev Address := String

/-! ## Integer ranges -/

/-- `std::numeric_limits<int64_t>::max()`. -/
def int64Max : Int := 9223372036854775807

/-- `std::numeric_limits<int64_t>::min()`. -/
def int64Min : Int := -9223372036854775808

/-- `MAX_INT_8_BYTES`, the largest amount any transaction may name. -/
def maxInt8Bytes : Int := 9223372036854775807

/-- `MAX_TOKENPRICE`, the largest crowdsale rate. -/
def maxTokenPrice : Int := 10000000000000000

theorem maxInt8Bytes_eq_int64Max : maxInt8Bytes = int64Max := rfl

/-- The `int64_t` an unchecked sum lands on: two's complement, modulo `2^64`, in
`[INT64_MIN, INT64_MAX]`. Signed overflow is undefined in C++; this is what the compiled addition
does. -/
def int64Wrap (x : Int) : Int := Int.bmod x 18446744073709551616

/-- A value in the `int64_t` range does not wrap. -/
theorem int64Wrap_of_range {x : Int} (hlo : int64Min ≤ x) (hhi : x ≤ int64Max) :
    int64Wrap x = x :=
  Int.bmod_eq_of_le_mul_two (by unfold int64Min at hlo; omega) (by unfold int64Max at hhi; omega)

/-- Adding to a wrapped value wraps as adding to the value: a running `int64_t` sum is the wrap of
the exact sum. -/
theorem int64Wrap_add (x y : Int) : int64Wrap (int64Wrap x + y) = int64Wrap (x + y) :=
  Int.bmod_add_bmod

/-! ## Properties and ecosystems -/

/-- `OMNI_PROPERTY_BTC`. -/
def omniPropertyBtc : PropertyId := 0

/-- `OMNI_PROPERTY_WHC`, the native token. -/
def omniPropertyWhc : PropertyId := 1

/-- `OMNI_PROPERTY_TWHC`, the test-ecosystem native token. -/
def omniPropertyTwhc : PropertyId := 2

/-- `TEST_ECO_PROPERTY_1`, the first test-ecosystem smart property. -/
def testEcoProperty1 : PropertyId := 0x80000003

/-- `mastercore::isTestEcosystemProperty`. -/
def isTestEcosystemProperty (propertyId : PropertyId) : Bool :=
  propertyId == omniPropertyTwhc || testEcoProperty1 ≤ propertyId

/-- `mastercore::isMainEcosystemProperty`. -/
def isMainEcosystemProperty (propertyId : PropertyId) : Bool :=
  propertyId != omniPropertyBtc && !isTestEcosystemProperty propertyId

/-! ## Transaction types and versions (`enum TransactionType`) -/

def mscTypeSimpleSend : Nat := 0
def mscTypeBuyToken : Nat := 1
def mscTypeSendToOwners : Nat := 3
def mscTypeSendAll : Nat := 4
def whcTypeErc721 : Nat := 9
def mscTypeCreatePropertyFixed : Nat := 50
def mscTypeCreatePropertyVariable : Nat := 51
def mscTypeCloseCrowdsale : Nat := 53
def mscTypeCreatePropertyManual : Nat := 54
def mscTypeGrantPropertyTokens : Nat := 55
def mscTypeRevokePropertyTokens : Nat := 56
def whcTypeGetBaseProperty : Nat := 68
def mscTypeChangeIssuerAddress : Nat := 70
def mscTypeFreezePropertyTokens : Nat := 185
def mscTypeUnfreezePropertyTokens : Nat := 186

/-- `MP_TX_PKT_V0`. -/
def mpTxPktV0 : Nat := 0

/-- `MP_TX_PKT_V1`. -/
def mpTxPktV1 : Nat := 1

/-! ## Error-code bases -/

def pktError : Int := -9000
def pktErrorSp : Int := -40000
def pktErrorCrowd : Int := -45000
def pktErrorSto : Int := -50000
def pktErrorSend : Int := -60000
def pktErrorTokens : Int := -82000
def pktErrorSendAll : Int := -83000
def pktErrorBurn : Int := -90000
def pktErrorErc721 : Int := -92000

/-! ## Fees and windows -/

/-- `WHC`, one token in its smallest unit. -/
def whc : Int := 100000000

/-- `CREATE_TOKEN_FEE`, paid in WHC for every property creation. -/
def createTokenFee : Int := 1 * whc

/-- `TRANSFER_FEE_PER_OWNER`, the version-0 send-to-owners fee per receiver. -/
def transferFeePerOwner : Int := 1

/-- `TRANSFER_FEE_PER_OWNER_V1`, the version-1 send-to-owners fee per receiver. -/
def transferFeePerOwnerV1 : Int := 1000

/-- `MAX_STATE_HISTORY`, the depth of the rollback window. -/
def maxStateHistory : Int := 50

/-- `OMNI_FEE_THRESHOLD`, the divisor of the fee distribution threshold. -/
def omniFeeThreshold : Int := 100000

/-! ## Consensus parameters -/

/-- The heights and rates of `CConsensusParams` that the modelled handlers read. -/
structure CConsensusParams where
  exodusReward : Int
  genesisBlock : Int
  lastExodusBlock : Int
  whcFreezenactivateBlock : Int
  erc721Block : Int
  mscCheckVariableToken : Int
deriving DecidableEq, Repr

/-- `CMainConsensusParams`. -/
def mainConsensusParams : CConsensusParams where
  exodusReward := 100
  genesisBlock := 540336
  lastExodusBlock := 2147483647
  whcFreezenactivateBlock := 554007
  erc721Block := 555655
  mscCheckVariableToken := 552850

/-- `CTestNetConsensusParams`. -/
def testNetConsensusParams : CConsensusParams where
  exodusReward := 100
  genesisBlock := 1249116
  lastExodusBlock := 2147483647
  whcFreezenactivateBlock := 1264795
  erc721Block := 1267112
  mscCheckVariableToken := 1263180

/-- `CRegTestConsensusParams`. -/
def regTestConsensusParams : CConsensusParams where
  exodusReward := 100
  genesisBlock := 101
  lastExodusBlock := 2147483647
  whcFreezenactivateBlock := 101
  erc721Block := 110
  mscCheckVariableToken := 100

/-- `burnwhc_mainnet`, the burn address of the main network. -/
def burnwhcMainnet : Address := "bitcoincash:qqqqqqqqqqqqqqqqqqqqqqqqqqqqqu08dsyxz98whc"

end WormholeCore
