/-
# `WormholeCore.Payload` — transaction payloads byte by byte (createpayload.cpp, tx.cpp).

A payload is the run of bytes a transaction carries. The `CreatePayload_*` functions write one:
the version and the type, then the fields of the message, each number with `swapByteOrder` and
`PUSH_BACK_BYTES` (most significant byte first), each string with its bytes and a NUL byte, each
`uint256` as its 32 raw bytes. `parseTransaction` copies the payload into the zero-initialised
buffer `pkt` of `CMPTransaction`, and `interpret_Transaction` reads it back: `memcpy` from fixed
offsets, `std::string(p)` for the strings, with a size check before and an overrun check after.

This module writes both sides as the source does, with the buffer as the byte list of the
payload (`Lib.Bytes.window` reads past its end as zeros) and the decoded fields as the fields of
`CMPTransaction` (a `char[256]` field is the text of its first 255 bytes, one character a byte).
It proves:

* the round trip for each message kind: decoding what `CreatePayload_*` wrote gives the type, the
  version and the fields back, each string as the encoder's own truncation of it
  (`interpretTransaction_createPayloadSimpleSend`, ...), gathered over the requests a wallet can
  make as `PayloadRequest.interpretTransaction_payload`;
* where the round trip fails: `CreatePayload_IssueERC721Property` writes, for an over-long url,
  the start of `data` in its place (`issueERC721Property_url_from_data`), and a crowdsale with an
  issuer percentage is written but refused (`interpretTransaction_createPayloadIssuanceVariable`);
* that the byte-level parser refines the field-level `CMPTransaction.interpretTransaction` the
  handlers run (`interpretTransaction_refines`).
-/
import WormholeCore.Tx
import WormholeCore.Lib.Bytes

namespace WormholeCore

open Lib Bytes

namespace Packet

/-! ## The buffer -/

/-- `MAX_PACKETS * PACKET_SIZE`: the most payload bytes a transaction carries. -/
def maxPayloadBytes : Nat := 255 * 31

/-- `sizeof(pkt)`: one byte more than the largest payload. -/
def pktBufferSize : Nat := 1 + maxPayloadBytes

/-- `SP_STRING_FIELD_LEN`: the string fields are `char[256]`. -/
def spStringFieldLen : Nat := 256

/-- A `char[]` field as text, one character a byte. -/
def text (bs : List UInt8) : String := String.ofList (bs.map fun b => Char.ofNat b.toNat)

/-- `memcpy(field, s.c_str(), std::min(s.length(), sizeof(field) - 1))` into a zeroed
`char[SP_STRING_FIELD_LEN]`: the first 255 bytes of the string. -/
def field (s : List UInt8) : String := text (s.take (spStringFieldLen - 1))

/-- `memcpy(&v, &pkt[off], 1)`. -/
def u8At (pkt : List UInt8) (off : Nat) : UInt8 := (beValue (window pkt off 1)).toUInt8

/-- `memcpy(&v, &pkt[off], 2); swapByteOrder16(v)`. -/
def u16At (pkt : List UInt8) (off : Nat) : UInt16 := (beValue (window pkt off 2)).toUInt16

/-- `memcpy(&v, &pkt[off], 4); swapByteOrder32(v)`. -/
def u32At (pkt : List UInt8) (off : Nat) : UInt32 := (beValue (window pkt off 4)).toUInt32

/-- `memcpy(&v, &pkt[off], 8); swapByteOrder64(v)`. -/
def u64At (pkt : List UInt8) (off : Nat) : UInt64 := (beValue (window pkt off 8)).toUInt64

/-- `uint256(std::vector<uint8_t>(p, p + 32))`: the 32 raw bytes, least significant first. -/
def uint256At (pkt : List UInt8) (off : Nat) : Uint256 := leValue (window pkt off 32)

/-- `std::string(p)` for `p = &pkt[off]`. -/
def stringAt (pkt : List UInt8) (off : Nat) : List UInt8 := cString (pkt.drop off)

/-- `isOverrun(p)`: `p` is past the end of the payload. -/
def isOverrun (pkt : List UInt8) (p : Nat) : Bool := decide (pkt.length < p)

/-! ## Writing: `PUSH_BACK_BYTES` after `swapByteOrder` -/

def pushU16 (v : UInt16) : List UInt8 := beBytes 2 v.toNat

def pushU32 (v : UInt32) : List UInt8 := beBytes 4 v.toNat

def pushU64 (v : UInt64) : List UInt8 := beBytes 8 v.toNat

/-- `payload.insert(payload.end(), s.begin(), s.end())`, then the NUL byte. -/
def pushString (s : List UInt8) : List UInt8 := s ++ [0]

/-- `payload.insert(payload.end(), id.begin(), id.end())` for a `uint256`. -/
def pushUint256 (n : Uint256) : List UInt8 := leBytes 32 n

/-- `if (s.size() > limit) s = s.substr(0, keep)`. -/
def truncate (limit keep : Nat) (s : List UInt8) : List UInt8 :=
  if limit < s.length then s.take keep else s

/-! ## The encoders -/

/-- The messages of a property and an amount: version `0`, the type, the property, the amount. -/
def propertyAmountPayload (messageType : UInt16) (propertyId : UInt32) (amount : UInt64) :
    List UInt8 :=
  pushU16 0 ++ pushU16 messageType ++ pushU32 propertyId ++ pushU64 amount

/-- `CreatePayload_SimpleSend`. -/
def createPayloadSimpleSend (propertyId : UInt32) (amount : UInt64) : List UInt8 :=
  propertyAmountPayload 0 propertyId amount

/-- `CreatePayload_PartiCrowsale`: `MSC_TYPE_BUY_TOKEN`. -/
def createPayloadPartiCrowsale (propertyId : UInt32) (amount : UInt64) : List UInt8 :=
  propertyAmountPayload 1 propertyId amount

/-- `CreatePayload_SendToOwners`. -/
def createPayloadSendToOwners (propertyId : UInt32) (amount : UInt64)
    (distributionProperty : UInt32) : List UInt8 :=
  propertyAmountPayload 3 propertyId amount ++ pushU32 distributionProperty

/-- `CreatePayload_SendAll`. -/
def createPayloadSendAll (ecosystem : UInt8) : List UInt8 :=
  pushU16 0 ++ pushU16 4 ++ [ecosystem]

/-- `CreatePayload_Grant`: the memo, cut to 255 bytes, follows the amount. -/
def createPayloadGrant (propertyId : UInt32) (amount : UInt64) (memo : List UInt8) :
    List UInt8 :=
  propertyAmountPayload 55 propertyId amount ++ pushString (truncate 255 255 memo)

/-- `CreatePayload_Revoke`. -/
def createPayloadRevoke (propertyId : UInt32) (amount : UInt64) (memo : List UInt8) :
    List UInt8 :=
  propertyAmountPayload 56 propertyId amount ++ pushString (truncate 255 255 memo)

/-- The messages of a property alone. -/
def propertyPayload (messageType : UInt16) (propertyId : UInt32) : List UInt8 :=
  pushU16 0 ++ pushU16 messageType ++ pushU32 propertyId

/-- `CreatePayload_CloseCrowdsale`. -/
def createPayloadCloseCrowdsale (propertyId : UInt32) : List UInt8 := propertyPayload 53 propertyId

/-- `CreatePayload_ChangeIssuer`. -/
def createPayloadChangeIssuer (propertyId : UInt32) : List UInt8 := propertyPayload 70 propertyId

/-- The head the three issuance encoders share: ecosystem, property type, previous property, and
the five strings, each cut to 255 bytes. -/
def issuanceHead (messageType : UInt16) (ecosystem : UInt8) (propertyType : UInt16)
    (previousPropertyId : UInt32) (category subcategory name url data : List UInt8) :
    List UInt8 :=
  pushU16 0 ++ pushU16 messageType ++ [ecosystem] ++ pushU16 propertyType ++
    pushU32 previousPropertyId ++ pushString (truncate 255 255 category) ++
    pushString (truncate 255 255 subcategory) ++ pushString (truncate 255 255 name) ++
    pushString (truncate 255 255 url) ++ pushString (truncate 255 255 data)

/-- `CreatePayload_IssuanceFixed`. -/
def createPayloadIssuanceFixed (ecosystem : UInt8) (propertyType : UInt16)
    (previousPropertyId : UInt32) (category subcategory name url data : List UInt8)
    (amount : UInt64) : List UInt8 :=
  issuanceHead 50 ecosystem propertyType previousPropertyId category subcategory name url data ++
    pushU64 amount

/-- `CreatePayload_IssuanceVariable`. -/
def createPayloadIssuanceVariable (ecosystem : UInt8) (propertyType : UInt16)
    (previousPropertyId : UInt32) (category subcategory name url data : List UInt8)
    (propertyIdDesired : UInt32) (amountPerUnit deadline : UInt64)
    (earlyBonus issuerPercentage : UInt8) (amount : UInt64) : List UInt8 :=
  issuanceHead 51 ecosystem propertyType previousPropertyId category subcategory name url data ++
    pushU32 propertyIdDesired ++ pushU64 amountPerUnit ++ pushU64 deadline ++ [earlyBonus] ++
    [issuerPercentage] ++ pushU64 amount

/-- `CreatePayload_IssuanceManaged`. -/
def createPayloadIssuanceManaged (ecosystem : UInt8) (propertyType : UInt16)
    (previousPropertyId : UInt32) (category subcategory name url data : List UInt8) :
    List UInt8 :=
  issuanceHead 54 ecosystem propertyType previousPropertyId category subcategory name url data

/-- `CreatePayload_IssueERC721Property`: each string over 255 bytes is cut to 100, except the url,
which is then replaced by the first 100 bytes of `data`. -/
def createPayloadIssueERC721Property (name symbol data url : List UInt8) (totalToken : UInt64) :
    List UInt8 :=
  let name := truncate 255 100 name
  let symbol := truncate 255 100 symbol
  let data := truncate 255 100 data
  let url := if 255 < url.length then data.take 100 else url
  pushU16 0 ++ pushU16 9 ++ [issueErc721Property] ++ pushString name ++ pushString symbol ++
    pushString data ++ pushString url ++ pushU64 totalToken

/-- `CreatePayload_IssueERC721Token`. -/
def createPayloadIssueERC721Token (propertyID tokenID tokenAttributes : Uint256)
    (tokenURL : List UInt8) : List UInt8 :=
  pushU16 0 ++ pushU16 9 ++ [issueErc721Token] ++ pushUint256 propertyID ++
    pushUint256 tokenID ++ pushUint256 tokenAttributes ++ pushString (truncate 255 100 tokenURL)

/-- The ERC721 messages of a property and a token. -/
def erc721TokenPayload (action : UInt8) (propertyID tokenID : Uint256) : List UInt8 :=
  pushU16 0 ++ pushU16 9 ++ [action] ++ pushUint256 propertyID ++ pushUint256 tokenID

/-- `CreatePayload_TransferERC721Token`. -/
def createPayloadTransferERC721Token (propertyID tokenID : Uint256) : List UInt8 :=
  erc721TokenPayload transferRec721Token propertyID tokenID

/-- `CreatePayload_DestroyERC721Token`. -/
def createPayloadDestroyERC721Token (propertyID tokenID : Uint256) : List UInt8 :=
  erc721TokenPayload destroyErc721Token propertyID tokenID

/-! ## The parsers -/

/-- `interpret_TransactionType`: the version and the type. -/
def interpretTransactionType (pkt : List UInt8) (tx : CMPTransaction) : Option CMPTransaction :=
  if pkt.length < 4 then none else some { tx with version := u16At pkt 0, type := u16At pkt 2 }

/-- The parsers of a property at 4 and an amount at 8. -/
def interpretPropertyAmount (pkt : List UInt8) (tx : CMPTransaction) : Option CMPTransaction :=
  if pkt.length < 16 then none else some { tx with property := u32At pkt 4, nValue := u64At pkt 8 }

/-- `interpret_SimpleSend`. -/
def interpretSimpleSend (pkt : List UInt8) (tx : CMPTransaction) : Option CMPTransaction :=
  interpretPropertyAmount pkt tx

/-- `interpret_BuyToken`. -/
def interpretBuyToken (pkt : List UInt8) (tx : CMPTransaction) : Option CMPTransaction :=
  interpretPropertyAmount pkt tx

/-- `interpret_GrantTokens`: the memo is not read. -/
def interpretGrantTokens (pkt : List UInt8) (tx : CMPTransaction) : Option CMPTransaction :=
  interpretPropertyAmount pkt tx

/-- `interpret_RevokeTokens`. -/
def interpretRevokeTokens (pkt : List UInt8) (tx : CMPTransaction) : Option CMPTransaction :=
  interpretPropertyAmount pkt tx

/-- `interpret_SendToOwners`. -/
def interpretSendToOwners (pkt : List UInt8) (tx : CMPTransaction) : Option CMPTransaction :=
  if pkt.length < 20 then none
  else some { tx with
    property := u32At pkt 4, nValue := u64At pkt 8, distributionProperty := u32At pkt 16 }

/-- `interpret_SendAll`: the ecosystem, copied to `property`. -/
def interpretSendAll (pkt : List UInt8) (tx : CMPTransaction) : Option CMPTransaction :=
  if pkt.length < 5 then none
  else some { tx with ecosystem := u8At pkt 4, property := (u8At pkt 4).toUInt32 }

/-- The parsers of a property at 4. -/
def interpretProperty (pkt : List UInt8) (tx : CMPTransaction) : Option CMPTransaction :=
  if pkt.length < 8 then none else some { tx with property := u32At pkt 4 }

/-- `interpret_CloseCrowdsale`. -/
def interpretCloseCrowdsale (pkt : List UInt8) (tx : CMPTransaction) : Option CMPTransaction :=
  interpretProperty pkt tx

/-- `interpret_ChangeIssuer`. -/
def interpretChangeIssuer (pkt : List UInt8) (tx : CMPTransaction) : Option CMPTransaction :=
  interpretProperty pkt tx

/-- The string loops: `n` times `spstr.push_back(std::string(p)); p += spstr.back().size() + 1`,
stopping the parse when `guard p` fails after a step. -/
def readStrings (guard : Nat → Bool) (pkt : List UInt8) : Nat → Nat →
    Option (List (List UInt8) × Nat)
  | 0, p => some ([], p)
  | n + 1, p =>
    let s := stringAt pkt p
    if guard (p + s.length + 1) then
      (readStrings guard pkt n (p + s.length + 1)).map fun r => (s :: r.1, r.2)
    else none

/-- The head of the three issuance parsers: ecosystem, property type and previous property, then
the five strings from offset 11, and the offset after them. -/
def interpretIssuanceHead (pkt : List UInt8) (tx : CMPTransaction) :
    Option (CMPTransaction × Nat) :=
  match readStrings (fun _ => true) pkt 5 11 with
  | some ([category, subcategory, name, url, data], p) =>
    some ({ tx with
      ecosystem := u8At pkt 4, propType := u16At pkt 5, prevPropId := u32At pkt 7,
      category := field category, subcategory := field subcategory, name := field name,
      url := field url, data := field data }, p)
  | _ => none

/-- `interpret_CreatePropertyFixed`. -/
def interpretCreatePropertyFixed (pkt : List UInt8) (tx : CMPTransaction) :
    Option CMPTransaction :=
  if pkt.length < 25 then none
  else match interpretIssuanceHead pkt tx with
    | none => none
    | some (tx, p) =>
      if isOverrun pkt (p + 8) then none else some { tx with nValue := u64At pkt p }

/-- `interpret_CreatePropertyVariable`: a non-zero issuer percentage is refused. -/
def interpretCreatePropertyVariable (pkt : List UInt8) (tx : CMPTransaction) :
    Option CMPTransaction :=
  if pkt.length < 47 then none
  else match interpretIssuanceHead pkt tx with
    | none => none
    | some (tx, p) =>
      if u8At pkt (p + 21) ≠ 0 then none
      else if isOverrun pkt (p + 22) then none
      else some { tx with
        property := u32At pkt p, nValue := u64At pkt (p + 4), deadline := u64At pkt (p + 12),
        earlyBird := u8At pkt (p + 20), percentage := u8At pkt (p + 21),
        totalCrowsToken := u64At pkt (p + 22) }

/-- `interpret_CreatePropertyManaged`. -/
def interpretCreatePropertyManaged (pkt : List UInt8) (tx : CMPTransaction) :
    Option CMPTransaction :=
  if pkt.length < 17 then none
  else match interpretIssuanceHead pkt tx with
    | none => none
    | some (tx, p) => if isOverrun pkt p then none else some tx

/-- `interpret_ERC721_issueproperty`: four strings from offset 5, each step refused once
`sizeof(pkt) - 1 - p <= 0`, then the token count, refused when `sizeof(pkt) - 1 - p <= 8`. -/
def interpretERC721IssueProperty (pkt : List UInt8) (tx : CMPTransaction) :
    Option CMPTransaction :=
  if pkt.length < 17 then none
  else match readStrings (fun p => decide (p < pktBufferSize - 1)) pkt 4 5 with
    | some ([name, symbol, data, url], p) =>
      if pktBufferSize - 1 ≤ p + 8 then none
      else if isOverrun pkt p then none
      else some { tx with
        erc721PropertyName := field name, erc721PropertySymbol := field symbol,
        erc721PropertyData := field data, erc721PropertyUrl := field url,
        maxErc721number := u64At pkt p }
    | _ => none

/-- `interpret_ERC721_issuetoken`: property, token and attributes at 5, 37 and 69, then the url. -/
def interpretERC721IssueToken (pkt : List UInt8) (tx : CMPTransaction) :
    Option CMPTransaction :=
  if pkt.length < 102 then none
  else if isOverrun pkt (101 + (stringAt pkt 101).length + 1) then none
  else some { tx with
    erc721PropertyId := uint256At pkt 5, erc721TokenId := uint256At pkt 37,
    erc721TokenAttribute := uint256At pkt 69, erc721TokenUrl := field (stringAt pkt 101) }

/-- The ERC721 parsers of a property and a token. -/
def interpretERC721Token (pkt : List UInt8) (tx : CMPTransaction) : Option CMPTransaction :=
  if pkt.length < 69 then none
  else some { tx with erc721PropertyId := uint256At pkt 5, erc721TokenId := uint256At pkt 37 }

/-- `interpret_ERC721_transfertoken`. -/
def interpretERC721TransferToken (pkt : List UInt8) (tx : CMPTransaction) :
    Option CMPTransaction :=
  interpretERC721Token pkt tx

/-- `interpret_ERC721_destroytoken`. -/
def interpretERC721DestroyToken (pkt : List UInt8) (tx : CMPTransaction) :
    Option CMPTransaction :=
  interpretERC721Token pkt tx

/-- `interpret_ERC721`: the action at 4, then its parser. -/
def interpretERC721 (pkt : List UInt8) (tx : CMPTransaction) : Option CMPTransaction :=
  if pkt.length < 5 then none
  else
    let tx := { tx with erc721Action := u8At pkt 4 }
    match tx.erc721Action.toNat with
    | 1 => interpretERC721IssueProperty pkt tx
    | 2 => interpretERC721IssueToken pkt tx
    | 3 => interpretERC721TransferToken pkt tx
    | 4 => interpretERC721DestroyToken pkt tx
    | _ => none

/-- The freezing parsers: a property and an amount, then the address at 16, which
`DecodeCashAddr` and `EncodeCashAddr` turn into the receiver (`decodeAddress`, `none` for
`CNoDestination`); an empty receiver is refused. -/
def interpretFreezing (minSize : Nat) (decodeAddress : List UInt8 → Option Address)
    (pkt : List UInt8) (tx : CMPTransaction) : Option CMPTransaction :=
  if pkt.length < minSize then none
  else match decodeAddress (stringAt pkt 16) with
    | none => none
    | some receiver =>
      if receiver = "" then none
      else some { tx with property := u32At pkt 4, nValue := u64At pkt 8, receiver := receiver }

/-- `interpret_FreezeTokens`. -/
def interpretFreezeTokens (decodeAddress : List UInt8 → Option Address) (pkt : List UInt8)
    (tx : CMPTransaction) : Option CMPTransaction :=
  interpretFreezing 17 decodeAddress pkt tx

/-- `interpret_UnfreezeTokens`: the same, from 37 bytes. -/
def interpretUnfreezeTokens (decodeAddress : List UInt8 → Option Address) (pkt : List UInt8)
    (tx : CMPTransaction) : Option CMPTransaction :=
  interpretFreezing 37 decodeAddress pkt tx

/-- **`interpret_Transaction`**: the version and type, then the parser of the type. -/
def interpretTransaction (decodeAddress : List UInt8 → Option Address) (pkt : List UInt8)
    (tx : CMPTransaction) : Option CMPTransaction :=
  match interpretTransactionType pkt tx with
  | none => none
  | some tx =>
    match tx.type.toNat with
    | 0 => interpretSimpleSend pkt tx
    | 1 => interpretBuyToken pkt tx
    | 3 => interpretSendToOwners pkt tx
    | 4 => interpretSendAll pkt tx
    | 9 => interpretERC721 pkt tx
    | 50 => interpretCreatePropertyFixed pkt tx
    | 51 => interpretCreatePropertyVariable pkt tx
    | 53 => interpretCloseCrowdsale pkt tx
    | 54 => interpretCreatePropertyManaged pkt tx
    | 55 => interpretGrantTokens pkt tx
    | 56 => interpretRevokeTokens pkt tx
    | 70 => interpretChangeIssuer pkt tx
    | 185 => interpretFreezeTokens decodeAddress pkt tx
    | 186 => interpretUnfreezeTokens decodeAddress pkt tx
    | 68 => some tx
    | _ => none

/-! ## Reading back what was written -/

section Reads

variable {pkt : List UInt8} {off : Nat}

@[simp] theorem length_pushU16 (v : UInt16) : (pushU16 v).length = 2 := length_beBytes 2 _

@[simp] theorem length_pushU32 (v : UInt32) : (pushU32 v).length = 4 := length_beBytes 4 _

@[simp] theorem length_pushU64 (v : UInt64) : (pushU64 v).length = 8 := length_beBytes 8 _

@[simp] theorem length_pushUint256 (n : Uint256) : (pushUint256 n).length = 32 :=
  length_leBytes 32 _

@[simp] theorem length_pushString (s : List UInt8) : (pushString s).length = s.length + 1 := by
  simp [pushString]

theorem u8At_of_eq_append (pre post : List UInt8) {v : UInt8} (h : pkt = pre ++ [v] ++ post)
    (hoff : pre.length = off) : u8At pkt off = v := by
  rw [u8At, show 1 = [v].length from rfl, window_of_eq_append pre [v] post h hoff]
  simp [beValue, Nat.toUInt8_eq]

theorem u16At_of_eq_append (pre post : List UInt8) {v : UInt16}
    (h : pkt = pre ++ pushU16 v ++ post) (hoff : pre.length = off) : u16At pkt off = v := by
  rw [u16At, ← length_pushU16 v, window_of_eq_append pre _ post h hoff, pushU16, beValue_beBytes,
    Nat.mod_eq_of_lt (by simpa using v.toNat_lt), Nat.toUInt16_eq, UInt16.ofNat_toNat]

theorem u32At_of_eq_append (pre post : List UInt8) {v : UInt32}
    (h : pkt = pre ++ pushU32 v ++ post) (hoff : pre.length = off) : u32At pkt off = v := by
  rw [u32At, ← length_pushU32 v, window_of_eq_append pre _ post h hoff, pushU32, beValue_beBytes,
    Nat.mod_eq_of_lt (by simpa using v.toNat_lt), Nat.toUInt32_eq, UInt32.ofNat_toNat]

theorem u64At_of_eq_append (pre post : List UInt8) {v : UInt64}
    (h : pkt = pre ++ pushU64 v ++ post) (hoff : pre.length = off) : u64At pkt off = v := by
  rw [u64At, ← length_pushU64 v, window_of_eq_append pre _ post h hoff, pushU64, beValue_beBytes,
    Nat.mod_eq_of_lt (by simpa using v.toNat_lt), Nat.toUInt64_eq, UInt64.ofNat_toNat]

theorem uint256At_of_eq_append (pre post : List UInt8) {n : Uint256} (hn : n < 2 ^ 256)
    (h : pkt = pre ++ pushUint256 n ++ post) (hoff : pre.length = off) : uint256At pkt off = n := by
  rw [uint256At, ← length_pushUint256 n, window_of_eq_append pre _ post h hoff, pushUint256,
    leValue_leBytes, Nat.mod_eq_of_lt (by simpa using hn)]

theorem stringAt_of_eq_append (pre post : List UInt8) {s : List UInt8} (hs : (0 : UInt8) ∉ s)
    (h : pkt = pre ++ pushString s ++ post) (hoff : pre.length = off) : stringAt pkt off = s :=
  cString_of_eq_append pre s post h hs hoff

end Reads

/-! ## Strings cut to fit -/

theorem length_truncate_le {limit keep : Nat} (hk : keep ≤ limit) (s : List UInt8) :
    (truncate limit keep s).length ≤ limit := by
  unfold truncate
  split
  · exact le_trans (List.length_take_le _ _) hk
  · omega

theorem not_mem_truncate {s : List UInt8} (hs : (0 : UInt8) ∉ s) (limit keep : Nat) :
    (0 : UInt8) ∉ truncate limit keep s := by
  unfold truncate
  split
  · exact fun h => hs (List.mem_of_mem_take h)
  · exact hs

/-- A string of at most 255 bytes fills its field whole. -/
theorem field_of_length_le {s : List UInt8} (h : s.length ≤ 255) : field s = text s := by
  rw [field, List.take_of_length_le (by simpa [spStringFieldLen] using h)]

/-! ## The messages of a property and an amount -/

/-- Where `propertyAmountPayload` puts its fields, whatever follows it. -/
theorem propertyAmountPayload_reads (t : UInt16) (p : UInt32) (a : UInt64) (post : List UInt8) :
    u16At (propertyAmountPayload t p a ++ post) 0 = 0 ∧
      u16At (propertyAmountPayload t p a ++ post) 2 = t ∧
      u32At (propertyAmountPayload t p a ++ post) 4 = p ∧
      u64At (propertyAmountPayload t p a ++ post) 8 = a ∧
      (propertyAmountPayload t p a ++ post).length = 16 + post.length := by
  refine ⟨u16At_of_eq_append [] (pushU16 t ++ pushU32 p ++ pushU64 a ++ post)
      (by simp [propertyAmountPayload]) rfl,
    u16At_of_eq_append (pushU16 0) (pushU32 p ++ pushU64 a ++ post)
      (by simp [propertyAmountPayload]) rfl,
    u32At_of_eq_append (pushU16 0 ++ pushU16 t) (pushU64 a ++ post)
      (by simp [propertyAmountPayload]) rfl,
    u64At_of_eq_append (pushU16 0 ++ pushU16 t ++ pushU32 p) post
      (by simp [propertyAmountPayload]) rfl, ?_⟩
  simp [propertyAmountPayload]
  omega

/-- A payload of the property-and-amount layout passes the header and `interpretPropertyAmount`. -/
theorem interpretPropertyAmount_of_layout (t : UInt16) (p : UInt32) (a : UInt64)
    (post : List UInt8) (tx : CMPTransaction) :
    interpretTransactionType (propertyAmountPayload t p a ++ post) tx =
        some { tx with version := 0, type := t } ∧
      interpretPropertyAmount (propertyAmountPayload t p a ++ post)
          { tx with version := 0, type := t } =
        some { tx with version := 0, type := t, property := p, nValue := a } := by
  obtain ⟨hv, ht, hp, ha, hlen⟩ := propertyAmountPayload_reads t p a post
  refine ⟨?_, ?_⟩
  · rw [interpretTransactionType, if_neg (by omega), hv, ht]
  · rw [interpretPropertyAmount, if_neg (by omega), hp, ha]

/-- **`CreatePayload_SimpleSend` round trip.** -/
theorem interpretTransaction_createPayloadSimpleSend (decodeAddress : List UInt8 → Option Address)
    (tx : CMPTransaction) (propertyId : UInt32) (amount : UInt64) :
    interpretTransaction decodeAddress (createPayloadSimpleSend propertyId amount) tx =
      some { tx with version := 0, type := 0, property := propertyId, nValue := amount } := by
  obtain ⟨hhead, hbody⟩ := interpretPropertyAmount_of_layout 0 propertyId amount [] tx
  rw [List.append_nil] at hhead hbody
  rw [createPayloadSimpleSend, interpretTransaction, hhead]
  exact hbody

/-- **`CreatePayload_PartiCrowsale` round trip.** -/
theorem interpretTransaction_createPayloadPartiCrowsale
    (decodeAddress : List UInt8 → Option Address) (tx : CMPTransaction) (propertyId : UInt32)
    (amount : UInt64) :
    interpretTransaction decodeAddress (createPayloadPartiCrowsale propertyId amount) tx =
      some { tx with version := 0, type := 1, property := propertyId, nValue := amount } := by
  obtain ⟨hhead, hbody⟩ := interpretPropertyAmount_of_layout 1 propertyId amount [] tx
  rw [List.append_nil] at hhead hbody
  rw [createPayloadPartiCrowsale, interpretTransaction, hhead]
  exact hbody

/-- **`CreatePayload_Grant` round trip**: the memo is written, and not read back. -/
theorem interpretTransaction_createPayloadGrant (decodeAddress : List UInt8 → Option Address)
    (tx : CMPTransaction) (propertyId : UInt32) (amount : UInt64) (memo : List UInt8) :
    interpretTransaction decodeAddress (createPayloadGrant propertyId amount memo) tx =
      some { tx with version := 0, type := 55, property := propertyId, nValue := amount } := by
  obtain ⟨hhead, hbody⟩ :=
    interpretPropertyAmount_of_layout 55 propertyId amount (pushString (truncate 255 255 memo)) tx
  rw [createPayloadGrant, interpretTransaction, hhead]
  exact hbody

/-- **`CreatePayload_Revoke` round trip.** -/
theorem interpretTransaction_createPayloadRevoke (decodeAddress : List UInt8 → Option Address)
    (tx : CMPTransaction) (propertyId : UInt32) (amount : UInt64) (memo : List UInt8) :
    interpretTransaction decodeAddress (createPayloadRevoke propertyId amount memo) tx =
      some { tx with version := 0, type := 56, property := propertyId, nValue := amount } := by
  obtain ⟨hhead, hbody⟩ :=
    interpretPropertyAmount_of_layout 56 propertyId amount (pushString (truncate 255 255 memo)) tx
  rw [createPayloadRevoke, interpretTransaction, hhead]
  exact hbody

@[simp] theorem length_propertyAmountPayload (t : UInt16) (p : UInt32) (a : UInt64) :
    (propertyAmountPayload t p a).length = 16 := by
  simp [propertyAmountPayload]

/-- **`CreatePayload_SendToOwners` round trip**: the distribution property follows at 16. -/
theorem interpretTransaction_createPayloadSendToOwners
    (decodeAddress : List UInt8 → Option Address) (tx : CMPTransaction) (propertyId : UInt32)
    (amount : UInt64) (distributionProperty : UInt32) :
    interpretTransaction decodeAddress
        (createPayloadSendToOwners propertyId amount distributionProperty) tx =
      some { tx with
        version := 0, type := 3, property := propertyId, nValue := amount,
        distributionProperty := distributionProperty } := by
  obtain ⟨hv, ht, hp, ha, -⟩ :=
    propertyAmountPayload_reads 3 propertyId amount (pushU32 distributionProperty)
  have hlen : (propertyAmountPayload 3 propertyId amount ++ pushU32 distributionProperty).length =
      20 := by simp
  have hd : u32At (propertyAmountPayload 3 propertyId amount ++ pushU32 distributionProperty) 16 =
      distributionProperty :=
    u32At_of_eq_append (propertyAmountPayload 3 propertyId amount) [] (List.append_nil _).symm
      (length_propertyAmountPayload _ _ _)
  rw [createPayloadSendToOwners, interpretTransaction, interpretTransactionType,
    if_neg (by omega), hv, ht]
  show interpretSendToOwners _ _ = _
  rw [interpretSendToOwners, if_neg (by omega), hp, ha, hd]

/-- **`CreatePayload_SendAll` round trip**: the ecosystem, and `property` set to it. -/
theorem interpretTransaction_createPayloadSendAll (decodeAddress : List UInt8 → Option Address)
    (tx : CMPTransaction) (ecosystem : UInt8) :
    interpretTransaction decodeAddress (createPayloadSendAll ecosystem) tx =
      some { tx with
        version := 0, type := 4, ecosystem := ecosystem, property := ecosystem.toUInt32 } := by
  have hv : u16At (createPayloadSendAll ecosystem) 0 = 0 :=
    u16At_of_eq_append [] (pushU16 4 ++ [ecosystem]) (by simp [createPayloadSendAll]) rfl
  have ht : u16At (createPayloadSendAll ecosystem) 2 = 4 :=
    u16At_of_eq_append (pushU16 0) [ecosystem] (by simp [createPayloadSendAll]) rfl
  have he : u8At (createPayloadSendAll ecosystem) 4 = ecosystem :=
    u8At_of_eq_append (pushU16 0 ++ pushU16 4) [] (by simp [createPayloadSendAll]) rfl
  have hlen : (createPayloadSendAll ecosystem).length = 5 := by simp [createPayloadSendAll]
  rw [interpretTransaction, interpretTransactionType, if_neg (by omega), hv, ht]
  show interpretSendAll _ _ = _
  rw [interpretSendAll, if_neg (by omega), he]

/-- Where `propertyPayload` puts its fields. -/
theorem interpretProperty_of_layout (t : UInt16) (p : UInt32) (tx : CMPTransaction) :
    interpretTransactionType (propertyPayload t p) tx =
        some { tx with version := 0, type := t } ∧
      interpretProperty (propertyPayload t p) { tx with version := 0, type := t } =
        some { tx with version := 0, type := t, property := p } := by
  have hv : u16At (propertyPayload t p) 0 = 0 :=
    u16At_of_eq_append [] (pushU16 t ++ pushU32 p) (by simp [propertyPayload]) rfl
  have ht : u16At (propertyPayload t p) 2 = t :=
    u16At_of_eq_append (pushU16 0) (pushU32 p) (by simp [propertyPayload]) rfl
  have hp : u32At (propertyPayload t p) 4 = p :=
    u32At_of_eq_append (pushU16 0 ++ pushU16 t) [] (by simp [propertyPayload]) rfl
  have hlen : (propertyPayload t p).length = 8 := by simp [propertyPayload]
  refine ⟨?_, ?_⟩
  · rw [interpretTransactionType, if_neg (by omega), hv, ht]
  · rw [interpretProperty, if_neg (by omega), hp]

/-- **`CreatePayload_CloseCrowdsale` round trip.** -/
theorem interpretTransaction_createPayloadCloseCrowdsale
    (decodeAddress : List UInt8 → Option Address) (tx : CMPTransaction) (propertyId : UInt32) :
    interpretTransaction decodeAddress (createPayloadCloseCrowdsale propertyId) tx =
      some { tx with version := 0, type := 53, property := propertyId } := by
  obtain ⟨hhead, hbody⟩ := interpretProperty_of_layout 53 propertyId tx
  rw [createPayloadCloseCrowdsale, interpretTransaction, hhead]
  exact hbody

/-- **`CreatePayload_ChangeIssuer` round trip.** -/
theorem interpretTransaction_createPayloadChangeIssuer
    (decodeAddress : List UInt8 → Option Address) (tx : CMPTransaction) (propertyId : UInt32) :
    interpretTransaction decodeAddress (createPayloadChangeIssuer propertyId) tx =
      some { tx with version := 0, type := 70, property := propertyId } := by
  obtain ⟨hhead, hbody⟩ := interpretProperty_of_layout 70 propertyId tx
  rw [createPayloadChangeIssuer, interpretTransaction, hhead]
  exact hbody

/-! ## The string loops -/

/-- **The string loop reads back strings written one after another**, each with its NUL, as long
as its guard holds up to the end of the last of them. -/
theorem readStrings_of_eq_append {guard : Nat → Bool} {pkt : List UInt8} :
    ∀ (ss : List (List UInt8)) (pre post : List UInt8),
      pkt = pre ++ ss.flatMap pushString ++ post → (∀ s ∈ ss, (0 : UInt8) ∉ s) →
      (∀ q, q ≤ pre.length + (ss.flatMap pushString).length → guard q = true) →
      readStrings guard pkt ss.length pre.length =
        some (ss, pre.length + (ss.flatMap pushString).length)
  | [], _, _, _, _, _ => by simp [readStrings]
  | s :: ss, pre, post, h, hnul, hguard => by
    -- read `s`, then the rest from just past its NUL
    have h' : pkt = pre ++ pushString s ++ (ss.flatMap pushString ++ post) := by simp [h]
    have hs : stringAt pkt pre.length = s :=
      stringAt_of_eq_append pre (ss.flatMap pushString ++ post) (hnul s List.mem_cons_self) h' rfl
    have hnext : pre.length + s.length + 1 = (pre ++ pushString s).length := by simp; omega
    have h'' : pkt = pre ++ pushString s ++ ss.flatMap pushString ++ post := by simp [h]
    have ih := readStrings_of_eq_append ss (pre ++ pushString s) post h''
      (fun t ht => hnul t (List.mem_cons_of_mem s ht))
      (fun q hq => hguard q (by simp at hq ⊢; omega))
    rw [List.length_cons, readStrings, hs, if_pos (hguard _ (by simp; omega)), hnext, ih]
    simp
    omega

/-! ## The issuance messages -/

/-- The head of `issuanceHead` before its strings. -/
theorem issuanceHead_eq (t : UInt16) (e : UInt8) (pt : UInt16) (prev : UInt32)
    (category subcategory name url data : List UInt8) :
    issuanceHead t e pt prev category subcategory name url data =
      pushU16 0 ++ pushU16 t ++ [e] ++ pushU16 pt ++ pushU32 prev ++
        [truncate 255 255 category, truncate 255 255 subcategory, truncate 255 255 name,
          truncate 255 255 url, truncate 255 255 data].flatMap pushString := by
  simp [issuanceHead]

/-- **Where the issuance head puts its fields**, whatever follows it: the header, and
`interpretIssuanceHead` decodes every field, the strings as their cut to 255 bytes, ending at the
length of the head. -/
theorem interpretIssuanceHead_of_layout (t : UInt16) (e : UInt8) (pt : UInt16) (prev : UInt32)
    (category subcategory name url data post : List UInt8)
    (hnul : ∀ s ∈ [category, subcategory, name, url, data], (0 : UInt8) ∉ s)
    (tx : CMPTransaction) :
    let pkt := issuanceHead t e pt prev category subcategory name url data ++ post
    interpretTransactionType pkt tx = some { tx with version := 0, type := t } ∧
      interpretIssuanceHead pkt { tx with version := 0, type := t } =
        some ({ tx with
          version := 0, type := t, ecosystem := e, propType := pt, prevPropId := prev,
          category := text (truncate 255 255 category),
          subcategory := text (truncate 255 255 subcategory),
          name := text (truncate 255 255 name), url := text (truncate 255 255 url),
          data := text (truncate 255 255 data) },
          (issuanceHead t e pt prev category subcategory name url data).length) := by
  intro pkt
  have hpkt : pkt = pushU16 0 ++ pushU16 t ++ [e] ++ pushU16 pt ++ pushU32 prev ++
      [truncate 255 255 category, truncate 255 255 subcategory, truncate 255 255 name,
        truncate 255 255 url, truncate 255 255 data].flatMap pushString ++ post := by
    simp only [pkt, issuanceHead_eq]
  have hlen : 4 ≤ pkt.length := by simp [hpkt]; omega
  -- the strings and what follows them, after the fixed fields
  set rest := [truncate 255 255 category, truncate 255 255 subcategory, truncate 255 255 name,
    truncate 255 255 url, truncate 255 255 data].flatMap pushString ++ post with hrest
  have hv : u16At pkt 0 = 0 :=
    u16At_of_eq_append [] (pushU16 t ++ [e] ++ pushU16 pt ++ pushU32 prev ++ rest)
      (by simp [hpkt, hrest]) rfl
  have ht : u16At pkt 2 = t :=
    u16At_of_eq_append (pushU16 0) ([e] ++ pushU16 pt ++ pushU32 prev ++ rest)
      (by simp [hpkt, hrest]) rfl
  have he : u8At pkt 4 = e :=
    u8At_of_eq_append (pushU16 0 ++ pushU16 t) (pushU16 pt ++ pushU32 prev ++ rest)
      (by simp [hpkt, hrest]) rfl
  have hpt : u16At pkt 5 = pt :=
    u16At_of_eq_append (pushU16 0 ++ pushU16 t ++ [e]) (pushU32 prev ++ rest)
      (by simp [hpkt, hrest]) rfl
  have hprev : u32At pkt 7 = prev :=
    u32At_of_eq_append (pushU16 0 ++ pushU16 t ++ [e] ++ pushU16 pt) rest
      (by simp [hpkt, hrest]) rfl
  -- the five strings, each without NUL after the cut
  have hstrings := @readStrings_of_eq_append (fun _ => true) pkt
    [truncate 255 255 category, truncate 255 255 subcategory, truncate 255 255 name,
      truncate 255 255 url, truncate 255 255 data]
    (pushU16 0 ++ pushU16 t ++ [e] ++ pushU16 pt ++ pushU32 prev) post hpkt
    (by simpa using fun s hs => not_mem_truncate (hnul s hs) 255 255) (fun _ _ => rfl)
  simp only [List.length_cons, List.length_nil] at hstrings
  have hfield : ∀ s : List UInt8, field (truncate 255 255 s) = text (truncate 255 255 s) :=
    fun s => field_of_length_le (length_truncate_le (Nat.le_refl _) s)
  refine ⟨?_, ?_⟩
  · rw [interpretTransactionType, if_neg (by omega), hv, ht]
  · simp only [interpretIssuanceHead] at hstrings ⊢
    rw [show (11 : Nat) = (pushU16 0 ++ pushU16 t ++ [e] ++ pushU16 pt ++ pushU32 prev).length
      by simp, hstrings, he, hpt, hprev]
    dsimp only
    rw [hfield, hfield, hfield, hfield, hfield, issuanceHead_eq]
    simp only [List.length_append]

/-- A non-empty name makes the issuance head at least 17 bytes: 11 fixed, five NULs, a name
byte. -/
theorem le_length_issuanceHead (t : UInt16) (e : UInt8) (pt : UInt16) (prev : UInt32)
    (category subcategory url data : List UInt8) {name : List UInt8} (hname : name ≠ []) :
    17 ≤ (issuanceHead t e pt prev category subcategory name url data).length := by
  have hcut : truncate 255 255 name ≠ [] := by
    unfold truncate
    split
    · simpa using hname
    · exact hname
  have hpos := List.length_pos_of_ne_nil hcut
  simp [issuanceHead]
  omega

/-- **`CreatePayload_IssuanceFixed` round trip**: every field back, each string as its cut to
255 bytes, for strings without NUL and a non-empty name. -/
theorem interpretTransaction_createPayloadIssuanceFixed
    (decodeAddress : List UInt8 → Option Address) (tx : CMPTransaction) (ecosystem : UInt8)
    (propertyType : UInt16) (previousPropertyId : UInt32)
    (category subcategory name url data : List UInt8) (amount : UInt64)
    (hnul : ∀ s ∈ [category, subcategory, name, url, data], (0 : UInt8) ∉ s) (hname : name ≠ []) :
    interpretTransaction decodeAddress (createPayloadIssuanceFixed ecosystem propertyType
        previousPropertyId category subcategory name url data amount) tx =
      some { tx with
        version := 0, type := 50, ecosystem := ecosystem, propType := propertyType,
        prevPropId := previousPropertyId, category := text (truncate 255 255 category),
        subcategory := text (truncate 255 255 subcategory), name := text (truncate 255 255 name),
        url := text (truncate 255 255 url), data := text (truncate 255 255 data),
        nValue := amount } := by
  obtain ⟨htype, hfields⟩ := interpretIssuanceHead_of_layout 50 ecosystem propertyType
    previousPropertyId category subcategory name url data (pushU64 amount) hnul tx
  have hle := le_length_issuanceHead 50 ecosystem propertyType previousPropertyId category
    subcategory url data hname
  set head := issuanceHead 50 ecosystem propertyType previousPropertyId category subcategory name
    url data with hhead
  have hamount : u64At (head ++ pushU64 amount) head.length = amount :=
    u64At_of_eq_append head [] (List.append_nil _).symm rfl
  have hlen : (head ++ pushU64 amount).length = head.length + 8 := by simp
  rw [createPayloadIssuanceFixed, ← hhead, interpretTransaction, htype]
  show interpretCreatePropertyFixed _ _ = _
  rw [interpretCreatePropertyFixed, if_neg (by omega), hfields]
  dsimp only
  rw [isOverrun, decide_eq_false (by omega), if_neg (by simp), hamount]

/-- **`CreatePayload_IssuanceVariable` round trip, and its one refusal**: the fields come back
when the issuer percentage is zero, and the parser refuses the payload otherwise, though the
encoder writes any percentage. -/
theorem interpretTransaction_createPayloadIssuanceVariable
    (decodeAddress : List UInt8 → Option Address) (tx : CMPTransaction) (ecosystem : UInt8)
    (propertyType : UInt16) (previousPropertyId : UInt32)
    (category subcategory name url data : List UInt8) (propertyIdDesired : UInt32)
    (amountPerUnit deadline : UInt64) (earlyBonus issuerPercentage : UInt8) (amount : UInt64)
    (hnul : ∀ s ∈ [category, subcategory, name, url, data], (0 : UInt8) ∉ s) (hname : name ≠ []) :
    interpretTransaction decodeAddress (createPayloadIssuanceVariable ecosystem propertyType
        previousPropertyId category subcategory name url data propertyIdDesired amountPerUnit
        deadline earlyBonus issuerPercentage amount) tx =
      if issuerPercentage = 0 then
        some { tx with
          version := 0, type := 51, ecosystem := ecosystem, propType := propertyType,
          prevPropId := previousPropertyId, category := text (truncate 255 255 category),
          subcategory := text (truncate 255 255 subcategory), name := text (truncate 255 255 name),
          url := text (truncate 255 255 url), data := text (truncate 255 255 data),
          property := propertyIdDesired, nValue := amountPerUnit, deadline := deadline,
          earlyBird := earlyBonus, percentage := issuerPercentage, totalCrowsToken := amount }
      else none := by
  set tail := pushU32 propertyIdDesired ++ pushU64 amountPerUnit ++ pushU64 deadline ++
    [earlyBonus] ++ [issuerPercentage] ++ pushU64 amount with htail
  obtain ⟨htype, hfields⟩ := interpretIssuanceHead_of_layout 51 ecosystem propertyType
    previousPropertyId category subcategory name url data tail hnul tx
  have hle := le_length_issuanceHead 51 ecosystem propertyType previousPropertyId category
    subcategory url data hname
  set head := issuanceHead 51 ecosystem propertyType previousPropertyId category subcategory name
    url data with hhead
  have hpkt : createPayloadIssuanceVariable ecosystem propertyType previousPropertyId category
      subcategory name url data propertyIdDesired amountPerUnit deadline earlyBonus
      issuerPercentage amount = head ++ tail := by
    simp [createPayloadIssuanceVariable, hhead, htail]
  have hlen : (head ++ tail).length = head.length + 30 := by simp [htail]
  -- the fields after the strings, at their offsets from the end of the head
  have hp : u32At (head ++ tail) head.length = propertyIdDesired :=
    u32At_of_eq_append head (pushU64 amountPerUnit ++ pushU64 deadline ++ [earlyBonus] ++
      [issuerPercentage] ++ pushU64 amount) (by simp [htail]) rfl
  have hrate : u64At (head ++ tail) (head.length + 4) = amountPerUnit :=
    u64At_of_eq_append (head ++ pushU32 propertyIdDesired) (pushU64 deadline ++ [earlyBonus] ++
      [issuerPercentage] ++ pushU64 amount) (by simp [htail]) (by simp)
  have hdead : u64At (head ++ tail) (head.length + 12) = deadline :=
    u64At_of_eq_append (head ++ pushU32 propertyIdDesired ++ pushU64 amountPerUnit)
      ([earlyBonus] ++ [issuerPercentage] ++ pushU64 amount) (by simp [htail]) (by simp)
  have hearly : u8At (head ++ tail) (head.length + 20) = earlyBonus :=
    u8At_of_eq_append (head ++ pushU32 propertyIdDesired ++ pushU64 amountPerUnit ++
      pushU64 deadline) ([issuerPercentage] ++ pushU64 amount) (by simp [htail]) (by simp)
  have hpct : u8At (head ++ tail) (head.length + 21) = issuerPercentage :=
    u8At_of_eq_append (head ++ pushU32 propertyIdDesired ++ pushU64 amountPerUnit ++
      pushU64 deadline ++ [earlyBonus]) (pushU64 amount) (by simp [htail]) (by simp)
  have hamount : u64At (head ++ tail) (head.length + 22) = amount :=
    u64At_of_eq_append (head ++ pushU32 propertyIdDesired ++ pushU64 amountPerUnit ++
      pushU64 deadline ++ [earlyBonus] ++ [issuerPercentage]) [] (by simp [htail])
      (by simp)
  rw [hpkt, interpretTransaction, htype]
  show interpretCreatePropertyVariable _ _ = _
  rw [interpretCreatePropertyVariable, if_neg (by omega), hfields]
  dsimp only
  rw [hpct]
  by_cases h0 : issuerPercentage = 0
  · rw [if_neg (not_not.2 h0), if_pos h0, isOverrun, decide_eq_false (by omega), if_neg (by simp),
      hp, hrate, hdead, hearly, hamount]
  · rw [if_pos h0, if_neg h0]

/-- **`CreatePayload_IssuanceManaged` round trip.** -/
theorem interpretTransaction_createPayloadIssuanceManaged
    (decodeAddress : List UInt8 → Option Address) (tx : CMPTransaction) (ecosystem : UInt8)
    (propertyType : UInt16) (previousPropertyId : UInt32)
    (category subcategory name url data : List UInt8)
    (hnul : ∀ s ∈ [category, subcategory, name, url, data], (0 : UInt8) ∉ s) (hname : name ≠ []) :
    interpretTransaction decodeAddress (createPayloadIssuanceManaged ecosystem propertyType
        previousPropertyId category subcategory name url data) tx =
      some { tx with
        version := 0, type := 54, ecosystem := ecosystem, propType := propertyType,
        prevPropId := previousPropertyId, category := text (truncate 255 255 category),
        subcategory := text (truncate 255 255 subcategory), name := text (truncate 255 255 name),
        url := text (truncate 255 255 url), data := text (truncate 255 255 data) } := by
  obtain ⟨htype, hfields⟩ := interpretIssuanceHead_of_layout 54 ecosystem propertyType
    previousPropertyId category subcategory name url data [] hnul tx
  rw [List.append_nil] at htype hfields
  have hle := le_length_issuanceHead 54 ecosystem propertyType previousPropertyId category
    subcategory url data hname
  set head := issuanceHead 54 ecosystem propertyType previousPropertyId category subcategory name
    url data with hhead
  rw [createPayloadIssuanceManaged, ← hhead, interpretTransaction, htype]
  show interpretCreatePropertyManaged _ _ = _
  rw [interpretCreatePropertyManaged, if_neg (by omega), hfields]
  dsimp only
  rw [isOverrun, decide_eq_false (by omega), if_neg (by simp)]

/-! ## The ERC721 messages -/

/-- Strings of at most 255 bytes take at most 256 bytes each with their NUL. -/
theorem length_flatMap_pushString_le {ss : List (List UInt8)} (h : ∀ s ∈ ss, s.length ≤ 255) :
    (ss.flatMap pushString).length ≤ 256 * ss.length := by
  induction ss with
  | nil => simp
  | cons s ss ih =>
    have hs := h s List.mem_cons_self
    have hrest := ih fun t ht => h t (List.mem_cons_of_mem s ht)
    simp only [List.flatMap_cons, List.length_append, length_pushString, List.length_cons]
    omega

/-- The header of an ERC721 payload: version `0`, type `9`, the action at 4. -/
theorem erc721Header_reads {pkt : List UInt8} {action : UInt8} {post : List UInt8}
    (h : pkt = pushU16 0 ++ pushU16 9 ++ [action] ++ post) (tx : CMPTransaction) :
    interpretTransactionType pkt tx = some { tx with version := 0, type := 9 } ∧
      u8At pkt 4 = action ∧ pkt.length = 5 + post.length := by
  have hv : u16At pkt 0 = 0 :=
    u16At_of_eq_append [] (pushU16 9 ++ [action] ++ post) (by simp [h]) rfl
  have ht : u16At pkt 2 = 9 := u16At_of_eq_append (pushU16 0) ([action] ++ post) (by simp [h]) rfl
  have ha : u8At pkt 4 = action := u8At_of_eq_append (pushU16 0 ++ pushU16 9) post (by simp [h]) rfl
  have hlen : pkt.length = 5 + post.length := by simp [h]; omega
  refine ⟨?_, ha, hlen⟩
  rw [interpretTransactionType, if_neg (by omega), hv, ht]

/-- **`interpret_ERC721_issueproperty` on its layout**: four strings that fit their fields, each
with its NUL, and the token count after them, come back whole. -/
theorem interpretERC721IssueProperty_of_layout (name symbol data url : List UInt8)
    (totalToken : UInt64)
    (hfits : ∀ s ∈ [name, symbol, data, url], s.length ≤ 255 ∧ (0 : UInt8) ∉ s)
    (tx : CMPTransaction) :
    interpretERC721IssueProperty (pushU16 0 ++ pushU16 9 ++ [issueErc721Property] ++
        ([name, symbol, data, url].flatMap pushString ++ pushU64 totalToken)) tx =
      some { tx with
        erc721PropertyName := text name, erc721PropertySymbol := text symbol,
        erc721PropertyData := text data, erc721PropertyUrl := text url,
        maxErc721number := totalToken } := by
  set pre := pushU16 0 ++ pushU16 9 ++ [issueErc721Property] with hpre
  have h5 : pre.length = 5 := by simp [hpre]
  have hsum : ([name, symbol, data, url].flatMap pushString).length ≤ 256 * 4 :=
    length_flatMap_pushString_le (fun s hs => (hfits s hs).1)
  -- the loop's guard holds up to the end of the strings, far below the buffer's end
  have hstrings := @readStrings_of_eq_append (fun p => decide (p < pktBufferSize - 1))
    (pre ++ ([name, symbol, data, url].flatMap pushString ++ pushU64 totalToken))
    [name, symbol, data, url] pre (pushU64 totalToken) (by simp)
    (fun s hs => (hfits s hs).2)
    (fun q hq => by
      have : q < pktBufferSize - 1 := by simp only [pktBufferSize, maxPayloadBytes]; omega
      simpa using this)
  have hfield : ∀ s ∈ [name, symbol, data, url], field s = text s :=
    fun s hs => field_of_length_le (hfits s hs).1
  -- each string brings at least its NUL
  have hnuls : 4 ≤ ([name, symbol, data, url].flatMap pushString).length := by simp; omega
  rw [h5] at hstrings
  generalize hP : ([name, symbol, data, url].flatMap pushString).length = P at hsum hnuls hstrings
  have htotal : u64At (pre ++ ([name, symbol, data, url].flatMap pushString ++ pushU64 totalToken))
      (5 + P) = totalToken :=
    u64At_of_eq_append (pre ++ [name, symbol, data, url].flatMap pushString) [] (by simp)
      (by rw [List.length_append, h5, hP])
  have hlen : (pre ++ ([name, symbol, data, url].flatMap pushString ++ pushU64 totalToken)).length =
      5 + P + 8 := by
    simp only [List.length_append, h5, hP, length_pushU64]
    omega
  rw [interpretERC721IssueProperty, hlen, if_neg (by omega)]
  simp only [List.length_cons, List.length_nil] at hstrings
  rw [hstrings]
  dsimp only
  rw [if_neg (by simp only [pktBufferSize, maxPayloadBytes]; omega), isOverrun,
    decide_eq_false (by omega), if_neg (by simp), htotal, hfield name (by simp),
    hfield symbol (by simp), hfield data (by simp), hfield url (by simp)]

/-- **`CreatePayload_IssueERC721Property` as it decodes**: name, symbol and data come back as the
encoder cut them, and the url as what the encoder wrote in its place: the url itself when it fits,
the first 100 bytes of the cut data when it is over 255 bytes. -/
theorem interpretTransaction_createPayloadIssueERC721Property
    (decodeAddress : List UInt8 → Option Address) (tx : CMPTransaction)
    (name symbol data url : List UInt8) (totalToken : UInt64)
    (hnul : ∀ s ∈ [name, symbol, data, url], (0 : UInt8) ∉ s) :
    interpretTransaction decodeAddress
        (createPayloadIssueERC721Property name symbol data url totalToken) tx =
      some { tx with
        version := 0, type := 9, erc721Action := issueErc721Property,
        erc721PropertyName := text (truncate 255 100 name),
        erc721PropertySymbol := text (truncate 255 100 symbol),
        erc721PropertyData := text (truncate 255 100 data),
        erc721PropertyUrl :=
          text (if 255 < url.length then (truncate 255 100 data).take 100 else url),
        maxErc721number := totalToken } := by
  set url' := if 255 < url.length then (truncate 255 100 data).take 100 else url with hurl'
  have hpkt : createPayloadIssueERC721Property name symbol data url totalToken =
      pushU16 0 ++ pushU16 9 ++ [issueErc721Property] ++
        ([truncate 255 100 name, truncate 255 100 symbol, truncate 255 100 data, url'].flatMap
          pushString ++ pushU64 totalToken) := by
    simp [createPayloadIssueERC721Property, hurl']
  -- every string written fits its field and has no NUL
  have hcut : ∀ s, (0 : UInt8) ∉ s → (truncate 255 100 s).length ≤ 255 ∧
      (0 : UInt8) ∉ truncate 255 100 s :=
    fun s hs => ⟨length_truncate_le (by omega) s, not_mem_truncate hs 255 100⟩
  have hu : url'.length ≤ 255 ∧ (0 : UInt8) ∉ url' := by
    rw [hurl']
    split
    · exact ⟨le_trans (List.length_take_le _ _) (by omega),
        fun h => (hcut data (hnul data (by simp))).2 (List.mem_of_mem_take h)⟩
    · exact ⟨by omega, hnul url (by simp)⟩
  have hfits : ∀ s ∈ [truncate 255 100 name, truncate 255 100 symbol, truncate 255 100 data,
      url'], s.length ≤ 255 ∧ (0 : UInt8) ∉ s := by
    simp only [List.mem_cons, List.not_mem_nil, or_false]
    rintro s (rfl | rfl | rfl | rfl)
    · exact hcut name (hnul name (by simp))
    · exact hcut symbol (hnul symbol (by simp))
    · exact hcut data (hnul data (by simp))
    · exact hu
  obtain ⟨htype, haction, hlen⟩ := erc721Header_reads hpkt tx
  rw [interpretTransaction, htype]
  show interpretERC721 _ _ = _
  rw [interpretERC721, if_neg (by omega), haction]
  show interpretERC721IssueProperty _ _ = _
  rw [hpkt, interpretERC721IssueProperty_of_layout _ _ _ _ totalToken hfits]

/-- **The over-long url of `CreatePayload_IssueERC721Property` comes back as data**: for every
url over 255 bytes, the url decoded is the first 100 bytes of the (cut) data, whatever the url
held. -/
theorem issueERC721Property_url_from_data (decodeAddress : List UInt8 → Option Address)
    (tx : CMPTransaction) (name symbol data url : List UInt8) (totalToken : UInt64)
    (hnul : ∀ s ∈ [name, symbol, data, url], (0 : UInt8) ∉ s) (hurl : 255 < url.length) :
    (interpretTransaction decodeAddress
        (createPayloadIssueERC721Property name symbol data url totalToken) tx).map
        CMPTransaction.erc721PropertyUrl =
      some (text ((truncate 255 100 data).take 100)) := by
  rw [interpretTransaction_createPayloadIssueERC721Property decodeAddress tx name symbol data url
    totalToken hnul, if_pos hurl]
  rfl

/-- The failing input: beside the data `d`, a url of 256 bytes `u` decodes as the url `d`, not as
its own first 100 bytes. -/
theorem issueERC721Property_long_url_reads_data :
    (interpretTransaction (fun _ => none)
        (createPayloadIssueERC721Property [110] [115] [100] (List.replicate 256 117) 1)
        { txid := 0, block := 0, blockHash := none, blockTime := 0, sender := "", receiver := "",
          type := 0, version := 0 }).map CMPTransaction.erc721PropertyUrl = some "d" ∧
      "d" ≠ text (truncate 255 100 (List.replicate 256 117)) := by
  have h := issueERC721Property_url_from_data (fun _ => none)
    { txid := 0, block := 0, blockHash := none, blockTime := 0, sender := "", receiver := "",
      type := 0, version := 0 } [110] [115] [100] (List.replicate 256 117) 1
    (by
      intro s hs
      simp only [List.mem_cons, List.not_mem_nil, or_false] at hs
      rcases hs with rfl | rfl | rfl | rfl <;>
        simp only [List.mem_singleton, List.mem_replicate] <;> decide)
    (by rw [List.length_replicate]; decide)
  refine ⟨h.trans rfl, fun heq => ?_⟩
  -- the url's own first 100 bytes are 100 characters long, the decoded url one
  have hlen := congrArg String.length heq
  rw [text, truncate, if_pos (by rw [List.length_replicate]; decide)] at hlen
  simp only [String.length_ofList, List.length_map, List.length_take, List.length_replicate] at hlen
  have hd : "d".length = 1 := rfl
  omega

/-- **`CreatePayload_IssueERC721Token` round trip**: the three `uint256`s and the url, cut to 100
bytes when over 255. -/
theorem interpretTransaction_createPayloadIssueERC721Token
    (decodeAddress : List UInt8 → Option Address) (tx : CMPTransaction)
    (propertyID tokenID tokenAttributes : Uint256) (tokenURL : List UInt8)
    (hid : propertyID < 2 ^ 256) (htoken : tokenID < 2 ^ 256) (hattr : tokenAttributes < 2 ^ 256)
    (hnul : (0 : UInt8) ∉ tokenURL) :
    interpretTransaction decodeAddress
        (createPayloadIssueERC721Token propertyID tokenID tokenAttributes tokenURL) tx =
      some { tx with
        version := 0, type := 9, erc721Action := issueErc721Token, erc721PropertyId := propertyID,
        erc721TokenId := tokenID, erc721TokenAttribute := tokenAttributes,
        erc721TokenUrl := text (truncate 255 100 tokenURL) } := by
  set url := truncate 255 100 tokenURL with hurl
  set pre := pushU16 0 ++ pushU16 9 ++ [issueErc721Token] with hpre
  have hpkt : createPayloadIssueERC721Token propertyID tokenID tokenAttributes tokenURL =
      pre ++ (pushUint256 propertyID ++ pushUint256 tokenID ++ pushUint256 tokenAttributes ++
        pushString url) := by
    simp [createPayloadIssueERC721Token, hpre, hurl]
  obtain ⟨htype, haction, hlen⟩ := erc721Header_reads hpkt tx
  simp only [List.length_append, length_pushUint256, length_pushString] at hlen
  have h5 : pre.length = 5 := by simp [hpre]
  have hp : uint256At (pre ++ (pushUint256 propertyID ++ pushUint256 tokenID ++
      pushUint256 tokenAttributes ++ pushString url)) 5 = propertyID :=
    uint256At_of_eq_append pre (pushUint256 tokenID ++ pushUint256 tokenAttributes ++
      pushString url) hid (by simp) h5
  have ht : uint256At (pre ++ (pushUint256 propertyID ++ pushUint256 tokenID ++
      pushUint256 tokenAttributes ++ pushString url)) 37 = tokenID :=
    uint256At_of_eq_append (pre ++ pushUint256 propertyID) (pushUint256 tokenAttributes ++
      pushString url) htoken (by simp) (by simp [h5])
  have ha : uint256At (pre ++ (pushUint256 propertyID ++ pushUint256 tokenID ++
      pushUint256 tokenAttributes ++ pushString url)) 69 = tokenAttributes :=
    uint256At_of_eq_append (pre ++ pushUint256 propertyID ++ pushUint256 tokenID)
      (pushString url) hattr (by simp) (by simp [h5])
  have hu : stringAt (pre ++ (pushUint256 propertyID ++ pushUint256 tokenID ++
      pushUint256 tokenAttributes ++ pushString url)) 101 = url :=
    stringAt_of_eq_append (pre ++ pushUint256 propertyID ++ pushUint256 tokenID ++
      pushUint256 tokenAttributes) [] (not_mem_truncate hnul 255 100) (by simp) (by simp [h5])
  rw [interpretTransaction, htype]
  show interpretERC721 _ _ = _
  rw [interpretERC721, if_neg (by omega), haction]
  show interpretERC721IssueToken _ _ = _
  rw [hpkt, interpretERC721IssueToken, if_neg (by simp only [List.length_append, h5]; simp; omega), hu,
    isOverrun, decide_eq_false (by simp only [List.length_append, h5]; simp; omega),
    if_neg (by simp), hp, ht, ha, field_of_length_le (length_truncate_le (by omega) tokenURL)]

/-- Where `erc721TokenPayload` puts its fields. -/
theorem interpretERC721Token_of_layout (action : UInt8) (propertyID tokenID : Uint256)
    (hid : propertyID < 2 ^ 256) (htoken : tokenID < 2 ^ 256) (tx : CMPTransaction) :
    interpretTransactionType (erc721TokenPayload action propertyID tokenID) tx =
        some { tx with version := 0, type := 9 } ∧
      u8At (erc721TokenPayload action propertyID tokenID) 4 = action ∧
      interpretERC721Token (erc721TokenPayload action propertyID tokenID) tx =
        some { tx with erc721PropertyId := propertyID, erc721TokenId := tokenID } := by
  set pre := pushU16 0 ++ pushU16 9 ++ [action] with hpre
  have hpkt : erc721TokenPayload action propertyID tokenID =
      pre ++ (pushUint256 propertyID ++ pushUint256 tokenID) := by
    simp [erc721TokenPayload, hpre]
  obtain ⟨htype, haction, hlen⟩ := erc721Header_reads hpkt tx
  have h5 : pre.length = 5 := by simp [hpre]
  have hp : uint256At (erc721TokenPayload action propertyID tokenID) 5 = propertyID :=
    uint256At_of_eq_append pre (pushUint256 tokenID) hid (by simp [hpkt]) h5
  have ht : uint256At (erc721TokenPayload action propertyID tokenID) 37 = tokenID :=
    uint256At_of_eq_append (pre ++ pushUint256 propertyID) [] htoken (by simp [hpkt])
      (by simp [h5])
  refine ⟨htype, haction, ?_⟩
  rw [interpretERC721Token, if_neg (by simp at hlen; omega), hp, ht]

/-- **`CreatePayload_TransferERC721Token` round trip.** -/
theorem interpretTransaction_createPayloadTransferERC721Token
    (decodeAddress : List UInt8 → Option Address) (tx : CMPTransaction)
    (propertyID tokenID : Uint256) (hid : propertyID < 2 ^ 256) (htoken : tokenID < 2 ^ 256) :
    interpretTransaction decodeAddress (createPayloadTransferERC721Token propertyID tokenID) tx =
      some { tx with
        version := 0, type := 9, erc721Action := transferRec721Token,
        erc721PropertyId := propertyID, erc721TokenId := tokenID } := by
  obtain ⟨htype, haction, hbody⟩ :=
    interpretERC721Token_of_layout transferRec721Token propertyID tokenID hid htoken tx
  have hlen : 5 ≤ (erc721TokenPayload transferRec721Token propertyID tokenID).length := by
    simp [erc721TokenPayload]
  rw [createPayloadTransferERC721Token, interpretTransaction, htype]
  show interpretERC721 _ _ = _
  rw [interpretERC721, if_neg (by omega), haction]
  exact interpretERC721Token_of_layout transferRec721Token propertyID tokenID hid htoken _
    |>.2.2

/-- **`CreatePayload_DestroyERC721Token` round trip.** -/
theorem interpretTransaction_createPayloadDestroyERC721Token
    (decodeAddress : List UInt8 → Option Address) (tx : CMPTransaction)
    (propertyID tokenID : Uint256) (hid : propertyID < 2 ^ 256) (htoken : tokenID < 2 ^ 256) :
    interpretTransaction decodeAddress (createPayloadDestroyERC721Token propertyID tokenID) tx =
      some { tx with
        version := 0, type := 9, erc721Action := destroyErc721Token,
        erc721PropertyId := propertyID, erc721TokenId := tokenID } := by
  obtain ⟨htype, haction, -⟩ :=
    interpretERC721Token_of_layout destroyErc721Token propertyID tokenID hid htoken tx
  have hlen : 5 ≤ (erc721TokenPayload destroyErc721Token propertyID tokenID).length := by
    simp [erc721TokenPayload]
  rw [createPayloadDestroyERC721Token, interpretTransaction, htype]
  show interpretERC721 _ _ = _
  rw [interpretERC721, if_neg (by omega), haction]
  exact interpretERC721Token_of_layout destroyErc721Token propertyID tokenID hid htoken _ |>.2.2

/-! ## The payloads the wallet builds

A `PayloadRequest` is one call of a `CreatePayload_*` with the arguments the RPC hands it; its
`payload` is what the call writes, and its `message` the transaction it describes. The round trips
above then say one thing: a valid request comes back as its message. The ERC721 property issuance
is left out, since for a long url it writes the start of `data` in the url's place. -/

/-- **A call of one of the wallet's encoders**, one constructor for each `CreatePayload_*`. -/
inductive PayloadRequest where
  | simpleSend (propertyId : UInt32) (amount : UInt64)
  | partiCrowsale (propertyId : UInt32) (amount : UInt64)
  | sendToOwners (propertyId : UInt32) (amount : UInt64) (distributionProperty : UInt32)
  | sendAll (ecosystem : UInt8)
  | grant (propertyId : UInt32) (amount : UInt64) (memo : List UInt8)
  | revoke (propertyId : UInt32) (amount : UInt64) (memo : List UInt8)
  | closeCrowdsale (propertyId : UInt32)
  | changeIssuer (propertyId : UInt32)
  | issuanceFixed (ecosystem : UInt8) (propertyType : UInt16) (previousPropertyId : UInt32)
      (category subcategory name url data : List UInt8) (amount : UInt64)
  | issuanceVariable (ecosystem : UInt8) (propertyType : UInt16) (previousPropertyId : UInt32)
      (category subcategory name url data : List UInt8) (propertyIdDesired : UInt32)
      (amountPerUnit deadline : UInt64) (earlyBonus issuerPercentage : UInt8) (amount : UInt64)
  | issuanceManaged (ecosystem : UInt8) (propertyType : UInt16) (previousPropertyId : UInt32)
      (category subcategory name url data : List UInt8)
  | issueERC721Token (propertyID tokenID tokenAttributes : Uint256) (tokenURL : List UInt8)
  | transferERC721Token (propertyID tokenID : Uint256)
  | destroyERC721Token (propertyID tokenID : Uint256)

namespace PayloadRequest

/-- The bytes the request's `CreatePayload_*` writes. -/
def payload : PayloadRequest → List UInt8
  | simpleSend propertyId amount => createPayloadSimpleSend propertyId amount
  | partiCrowsale propertyId amount => createPayloadPartiCrowsale propertyId amount
  | sendToOwners propertyId amount distributionProperty =>
    createPayloadSendToOwners propertyId amount distributionProperty
  | sendAll ecosystem => createPayloadSendAll ecosystem
  | grant propertyId amount memo => createPayloadGrant propertyId amount memo
  | revoke propertyId amount memo => createPayloadRevoke propertyId amount memo
  | closeCrowdsale propertyId => createPayloadCloseCrowdsale propertyId
  | changeIssuer propertyId => createPayloadChangeIssuer propertyId
  | issuanceFixed ecosystem propertyType previousPropertyId category subcategory name url data
      amount =>
    createPayloadIssuanceFixed ecosystem propertyType previousPropertyId category subcategory name
      url data amount
  | issuanceVariable ecosystem propertyType previousPropertyId category subcategory name url data
      propertyIdDesired amountPerUnit deadline earlyBonus issuerPercentage amount =>
    createPayloadIssuanceVariable ecosystem propertyType previousPropertyId category subcategory
      name url data propertyIdDesired amountPerUnit deadline earlyBonus issuerPercentage amount
  | issuanceManaged ecosystem propertyType previousPropertyId category subcategory name url data =>
    createPayloadIssuanceManaged ecosystem propertyType previousPropertyId category subcategory name
      url data
  | issueERC721Token propertyID tokenID tokenAttributes tokenURL =>
    createPayloadIssueERC721Token propertyID tokenID tokenAttributes tokenURL
  | transferERC721Token propertyID tokenID => createPayloadTransferERC721Token propertyID tokenID
  | destroyERC721Token propertyID tokenID => createPayloadDestroyERC721Token propertyID tokenID

/-- **The transaction a request describes**: version `0`, the request's type, and each argument
in its field of `tx`, a string as the encoder cuts it. A memo is not a field. -/
def message : PayloadRequest → CMPTransaction → CMPTransaction
  | simpleSend propertyId amount, tx =>
    { tx with version := 0, type := 0, property := propertyId, nValue := amount }
  | partiCrowsale propertyId amount, tx =>
    { tx with version := 0, type := 1, property := propertyId, nValue := amount }
  | sendToOwners propertyId amount distributionProperty, tx =>
    { tx with
      version := 0, type := 3, property := propertyId, nValue := amount,
      distributionProperty := distributionProperty }
  | sendAll ecosystem, tx =>
    { tx with version := 0, type := 4, ecosystem := ecosystem, property := ecosystem.toUInt32 }
  | grant propertyId amount _, tx =>
    { tx with version := 0, type := 55, property := propertyId, nValue := amount }
  | revoke propertyId amount _, tx =>
    { tx with version := 0, type := 56, property := propertyId, nValue := amount }
  | closeCrowdsale propertyId, tx => { tx with version := 0, type := 53, property := propertyId }
  | changeIssuer propertyId, tx => { tx with version := 0, type := 70, property := propertyId }
  | issuanceFixed ecosystem propertyType previousPropertyId category subcategory name url data
      amount, tx =>
    { tx with
      version := 0, type := 50, ecosystem := ecosystem, propType := propertyType,
      prevPropId := previousPropertyId, category := text (truncate 255 255 category),
      subcategory := text (truncate 255 255 subcategory), name := text (truncate 255 255 name),
      url := text (truncate 255 255 url), data := text (truncate 255 255 data), nValue := amount }
  | issuanceVariable ecosystem propertyType previousPropertyId category subcategory name url data
      propertyIdDesired amountPerUnit deadline earlyBonus issuerPercentage amount, tx =>
    { tx with
      version := 0, type := 51, ecosystem := ecosystem, propType := propertyType,
      prevPropId := previousPropertyId, category := text (truncate 255 255 category),
      subcategory := text (truncate 255 255 subcategory), name := text (truncate 255 255 name),
      url := text (truncate 255 255 url), data := text (truncate 255 255 data),
      property := propertyIdDesired, nValue := amountPerUnit, deadline := deadline,
      earlyBird := earlyBonus, percentage := issuerPercentage, totalCrowsToken := amount }
  | issuanceManaged ecosystem propertyType previousPropertyId category subcategory name url data,
      tx =>
    { tx with
      version := 0, type := 54, ecosystem := ecosystem, propType := propertyType,
      prevPropId := previousPropertyId, category := text (truncate 255 255 category),
      subcategory := text (truncate 255 255 subcategory), name := text (truncate 255 255 name),
      url := text (truncate 255 255 url), data := text (truncate 255 255 data) }
  | issueERC721Token propertyID tokenID tokenAttributes tokenURL, tx =>
    { tx with
      version := 0, type := 9, erc721Action := issueErc721Token, erc721PropertyId := propertyID,
      erc721TokenId := tokenID, erc721TokenAttribute := tokenAttributes,
      erc721TokenUrl := text (truncate 255 100 tokenURL) }
  | transferERC721Token propertyID tokenID, tx =>
    { tx with
      version := 0, type := 9, erc721Action := transferRec721Token,
      erc721PropertyId := propertyID, erc721TokenId := tokenID }
  | destroyERC721Token propertyID tokenID, tx =>
    { tx with
      version := 0, type := 9, erc721Action := destroyErc721Token,
      erc721PropertyId := propertyID, erc721TokenId := tokenID }

/-- The strings of an issuance its parser reads back: none holds a NUL byte, and the name is not
empty (each issuance parser's size check counts a name byte). -/
def IssuanceStrings (category subcategory name url data : List UInt8) : Prop :=
  (∀ s ∈ [category, subcategory, name, url, data], (0 : UInt8) ∉ s) ∧ name ≠ []

/-- **A request that comes back**: the strings of an issuance read back, a crowdsale gives its
issuer no percentage (`interpret_CreatePropertyVariable` refuses one), each `uint256` fits its
32 bytes and an ERC721 url holds no NUL byte. -/
def Valid : PayloadRequest → Prop
  | issuanceFixed _ _ _ category subcategory name url data _ =>
    IssuanceStrings category subcategory name url data
  | issuanceVariable _ _ _ category subcategory name url data _ _ _ _ issuerPercentage _ =>
    IssuanceStrings category subcategory name url data ∧ issuerPercentage = 0
  | issuanceManaged _ _ _ category subcategory name url data =>
    IssuanceStrings category subcategory name url data
  | issueERC721Token propertyID tokenID tokenAttributes tokenURL =>
    propertyID < 2 ^ 256 ∧ tokenID < 2 ^ 256 ∧ tokenAttributes < 2 ^ 256 ∧ (0 : UInt8) ∉ tokenURL
  | transferERC721Token propertyID tokenID => propertyID < 2 ^ 256 ∧ tokenID < 2 ^ 256
  | destroyERC721Token propertyID tokenID => propertyID < 2 ^ 256 ∧ tokenID < 2 ^ 256
  | _ => True

instance : DecidablePred Valid := fun r => by
  cases r <;> dsimp only [Valid, IssuanceStrings] <;> infer_instance

/-- **Every valid request comes back**: `interpret_Transaction` decodes the payload of the request
into the transaction it describes. -/
theorem interpretTransaction_payload (decodeAddress : List UInt8 → Option Address)
    (tx : CMPTransaction) (r : PayloadRequest) (hr : r.Valid) :
    interpretTransaction decodeAddress r.payload tx = some (r.message tx) := by
  cases r with
  | simpleSend p a => exact interpretTransaction_createPayloadSimpleSend decodeAddress tx p a
  | partiCrowsale p a => exact interpretTransaction_createPayloadPartiCrowsale decodeAddress tx p a
  | sendToOwners p a d => exact interpretTransaction_createPayloadSendToOwners decodeAddress tx p a d
  | sendAll e => exact interpretTransaction_createPayloadSendAll decodeAddress tx e
  | grant p a m => exact interpretTransaction_createPayloadGrant decodeAddress tx p a m
  | revoke p a m => exact interpretTransaction_createPayloadRevoke decodeAddress tx p a m
  | closeCrowdsale p => exact interpretTransaction_createPayloadCloseCrowdsale decodeAddress tx p
  | changeIssuer p => exact interpretTransaction_createPayloadChangeIssuer decodeAddress tx p
  | issuanceFixed =>
    obtain ⟨hnul, hname⟩ := hr
    exact interpretTransaction_createPayloadIssuanceFixed decodeAddress tx _ _ _ _ _ _ _ _ _ hnul
      hname
  | issuanceVariable =>
    obtain ⟨⟨hnul, hname⟩, hpercentage⟩ := hr
    -- the parser accepts the crowdsale because its issuer percentage is zero
    rw [payload, interpretTransaction_createPayloadIssuanceVariable decodeAddress tx _ _ _ _ _ _ _
      _ _ _ _ _ _ _ hnul hname, if_pos hpercentage]
    rfl
  | issuanceManaged =>
    obtain ⟨hnul, hname⟩ := hr
    exact interpretTransaction_createPayloadIssuanceManaged decodeAddress tx _ _ _ _ _ _ _ _ hnul
      hname
  | issueERC721Token p t a u =>
    obtain ⟨hp, ht, ha, hu⟩ := hr
    exact interpretTransaction_createPayloadIssueERC721Token decodeAddress tx p t a u hp ht ha hu
  | transferERC721Token p t =>
    obtain ⟨hp, ht⟩ := hr
    exact interpretTransaction_createPayloadTransferERC721Token decodeAddress tx p t hp ht
  | destroyERC721Token p t =>
    obtain ⟨hp, ht⟩ := hr
    exact interpretTransaction_createPayloadDestroyERC721Token decodeAddress tx p t hp ht

end PayloadRequest

/-! ## What an accepting parser leaves

One lemma a parser: the transaction it accepts with is the one it was given, with the fields it
reads set. The refinement below runs the field-level check on those fields only. -/

section Accepts

variable {pkt : List UInt8} {t t' : CMPTransaction}

theorem interpretTransactionType_eq_some (h : interpretTransactionType pkt t = some t') :
    t' = { t with version := u16At pkt 0, type := u16At pkt 2 } := by
  rw [interpretTransactionType, Option.ite_none_left_eq_some, Option.some.injEq] at h
  exact h.2.symm

theorem interpretPropertyAmount_eq_some (h : interpretPropertyAmount pkt t = some t') :
    t' = { t with property := u32At pkt 4, nValue := u64At pkt 8 } := by
  rw [interpretPropertyAmount, Option.ite_none_left_eq_some, Option.some.injEq] at h
  exact h.2.symm

theorem interpretSendToOwners_eq_some (h : interpretSendToOwners pkt t = some t') :
    t' = { t with
      property := u32At pkt 4, nValue := u64At pkt 8, distributionProperty := u32At pkt 16 } := by
  rw [interpretSendToOwners, Option.ite_none_left_eq_some, Option.some.injEq] at h
  exact h.2.symm

theorem interpretSendAll_eq_some (h : interpretSendAll pkt t = some t') :
    t' = { t with ecosystem := u8At pkt 4, property := (u8At pkt 4).toUInt32 } := by
  rw [interpretSendAll, Option.ite_none_left_eq_some, Option.some.injEq] at h
  exact h.2.symm

theorem interpretProperty_eq_some (h : interpretProperty pkt t = some t') :
    t' = { t with property := u32At pkt 4 } := by
  rw [interpretProperty, Option.ite_none_left_eq_some, Option.some.injEq] at h
  exact h.2.symm

theorem interpretIssuanceHead_eq_some {p : Nat} (h : interpretIssuanceHead pkt t = some (t', p)) :
    ∃ category subcategory name url data : List UInt8, t' = { t with
      ecosystem := u8At pkt 4, propType := u16At pkt 5, prevPropId := u32At pkt 7,
      category := field category, subcategory := field subcategory, name := field name,
      url := field url, data := field data } := by
  rw [interpretIssuanceHead] at h
  split at h
  · obtain ⟨rfl, -⟩ := Prod.mk.inj (Option.some.inj h)
    exact ⟨_, _, _, _, _, rfl⟩
  · cases h

theorem interpretCreatePropertyFixed_eq_some (h : interpretCreatePropertyFixed pkt t = some t') :
    ∃ t₀ p, interpretIssuanceHead pkt t = some (t₀, p) ∧ t' = { t₀ with nValue := u64At pkt p } := by
  rw [interpretCreatePropertyFixed, Option.ite_none_left_eq_some] at h
  obtain ⟨-, h⟩ := h
  split at h
  · cases h
  · next t₀ p hhead =>
    rw [Option.ite_none_left_eq_some, Option.some.injEq] at h
    exact ⟨t₀, p, hhead, h.2.symm⟩

theorem interpretCreatePropertyVariable_eq_some
    (h : interpretCreatePropertyVariable pkt t = some t') :
    ∃ t₀ p, interpretIssuanceHead pkt t = some (t₀, p) ∧ u8At pkt (p + 21) = 0 ∧
      t' = { t₀ with
        property := u32At pkt p, nValue := u64At pkt (p + 4), deadline := u64At pkt (p + 12),
        earlyBird := u8At pkt (p + 20), percentage := u8At pkt (p + 21),
        totalCrowsToken := u64At pkt (p + 22) } := by
  rw [interpretCreatePropertyVariable, Option.ite_none_left_eq_some] at h
  obtain ⟨-, h⟩ := h
  split at h
  · cases h
  · next t₀ p hhead =>
    rw [Option.ite_none_left_eq_some, Option.ite_none_left_eq_some, Option.some.injEq] at h
    exact ⟨t₀, p, hhead, not_not.mp h.1, h.2.2.symm⟩

theorem interpretCreatePropertyManaged_eq_some
    (h : interpretCreatePropertyManaged pkt t = some t') :
    ∃ p, interpretIssuanceHead pkt t = some (t', p) := by
  rw [interpretCreatePropertyManaged, Option.ite_none_left_eq_some] at h
  obtain ⟨-, h⟩ := h
  split at h
  · cases h
  · next t₀ p hhead =>
    rw [Option.ite_none_left_eq_some, Option.some.injEq] at h
    exact ⟨p, h.2 ▸ hhead⟩

theorem interpretERC721IssueProperty_eq_some (h : interpretERC721IssueProperty pkt t = some t') :
    ∃ (name symbol data url : List UInt8) (p : Nat), t' = { t with
      erc721PropertyName := field name, erc721PropertySymbol := field symbol,
      erc721PropertyData := field data, erc721PropertyUrl := field url,
      maxErc721number := u64At pkt p } := by
  rw [interpretERC721IssueProperty, Option.ite_none_left_eq_some] at h
  obtain ⟨-, h⟩ := h
  split at h
  · rw [Option.ite_none_left_eq_some, Option.ite_none_left_eq_some, Option.some.injEq] at h
    exact ⟨_, _, _, _, _, h.2.2.symm⟩
  · cases h

theorem interpretERC721IssueToken_eq_some (h : interpretERC721IssueToken pkt t = some t') :
    t' = { t with
      erc721PropertyId := uint256At pkt 5, erc721TokenId := uint256At pkt 37,
      erc721TokenAttribute := uint256At pkt 69, erc721TokenUrl := field (stringAt pkt 101) } := by
  rw [interpretERC721IssueToken, Option.ite_none_left_eq_some, Option.ite_none_left_eq_some,
    Option.some.injEq] at h
  exact h.2.2.symm

theorem interpretERC721Token_eq_some (h : interpretERC721Token pkt t = some t') :
    t' = { t with erc721PropertyId := uint256At pkt 5, erc721TokenId := uint256At pkt 37 } := by
  rw [interpretERC721Token, Option.ite_none_left_eq_some, Option.some.injEq] at h
  exact h.2.symm

/-- What `interpret_ERC721` leaves: a known action, and of the fields the field-level check
reads, only the action set. -/
theorem interpretERC721_eq_some (h : interpretERC721 pkt t = some t') :
    (1 ≤ t'.erc721Action.toNat ∧ t'.erc721Action.toNat ≤ 4) ∧ t'.type = t.type ∧
      t'.wellSized = t.wellSized ∧ t'.property = t.property := by
  rw [interpretERC721, Option.ite_none_left_eq_some] at h
  obtain ⟨-, h⟩ := h
  dsimp only at h
  -- one case an action; each parser keeps the action it was handed
  split at h
  · next hk =>
    obtain ⟨_, _, _, _, _, rfl⟩ := interpretERC721IssueProperty_eq_some h
    simp_all
  · next hk =>
    obtain rfl := interpretERC721IssueToken_eq_some h
    simp_all
  · next hk =>
    obtain rfl := interpretERC721Token_eq_some h
    simp_all
  · next hk =>
    obtain rfl := interpretERC721Token_eq_some h
    simp_all
  · cases h

theorem interpretFreezing_eq_some {minSize : Nat} {decodeAddress : List UInt8 → Option Address}
    (h : interpretFreezing minSize decodeAddress pkt t = some t') :
    ∃ receiver, t' = { t with property := u32At pkt 4, nValue := u64At pkt 8, receiver := receiver } := by
  rw [interpretFreezing, Option.ite_none_left_eq_some] at h
  obtain ⟨-, h⟩ := h
  split at h
  · cases h
  · rw [Option.ite_none_left_eq_some, Option.some.injEq] at h
    exact ⟨_, h.2.symm⟩

end Accepts

/-- **The byte-level parser refines the field-level one**: from a well-sized transaction with no
property yet, every transaction `interpret_Transaction` decodes from a packet is one the
field-level `CMPTransaction.interpretTransaction` accepts unchanged, so the handlers run on it as
decoded. -/
theorem interpretTransaction_refines {decodeAddress : List UInt8 → Option Address}
    {pkt : List UInt8} {tx tx' : CMPTransaction} (hw : tx.wellSized = true) (hp : tx.property = 0)
    (h : interpretTransaction decodeAddress pkt tx = some tx') :
    tx'.interpretTransaction = some tx' := by
  rw [interpretTransaction] at h
  split at h
  · cases h
  next t ht =>
  obtain rfl := interpretTransactionType_eq_some ht
  -- one case a type the dispatcher knows; the field-level check then reads the fields its parser
  -- set, and the type, the size flag and the property the parser was handed
  split at h <;> rename_i hk <;> dsimp only at hk
  · obtain rfl := interpretPropertyAmount_eq_some h
    simp [CMPTransaction.interpretTransaction, hw, hk]
  · obtain rfl := interpretPropertyAmount_eq_some h
    simp [CMPTransaction.interpretTransaction, hw, hk]
  · obtain rfl := interpretSendToOwners_eq_some h
    simp [CMPTransaction.interpretTransaction, hw, hk]
  · obtain rfl := interpretSendAll_eq_some h
    simp [CMPTransaction.interpretTransaction, hw, hk]
  · obtain ⟨⟨h1, h4⟩, htype, hsize, hprop⟩ := interpretERC721_eq_some h
    -- the check sets the property to 0, which it already is
    have hself : { tx' with property := 0 } = tx' := by rw [← hprop.trans hp]
    rw [← hself]
    simp [CMPTransaction.interpretTransaction, hw, hk, htype, hsize, h1, h4]
  · obtain ⟨t₀, p, hhead, rfl⟩ := interpretCreatePropertyFixed_eq_some h
    obtain ⟨_, _, _, _, _, rfl⟩ := interpretIssuanceHead_eq_some hhead
    simp [CMPTransaction.interpretTransaction, hw, hk, hp]
  · obtain ⟨t₀, p, hhead, hpct, rfl⟩ := interpretCreatePropertyVariable_eq_some h
    obtain ⟨_, _, _, _, _, rfl⟩ := interpretIssuanceHead_eq_some hhead
    simp [CMPTransaction.interpretTransaction, hw, hk, hpct]
  · obtain rfl := interpretProperty_eq_some h
    simp [CMPTransaction.interpretTransaction, hw, hk]
  · obtain ⟨p, hhead⟩ := interpretCreatePropertyManaged_eq_some h
    obtain ⟨_, _, _, _, _, rfl⟩ := interpretIssuanceHead_eq_some hhead
    simp [CMPTransaction.interpretTransaction, hw, hk, hp]
  · obtain rfl := interpretPropertyAmount_eq_some h
    simp [CMPTransaction.interpretTransaction, hw, hk]
  · obtain rfl := interpretPropertyAmount_eq_some h
    simp [CMPTransaction.interpretTransaction, hw, hk]
  · obtain rfl := interpretProperty_eq_some h
    simp [CMPTransaction.interpretTransaction, hw, hk]
  · obtain ⟨_, rfl⟩ := interpretFreezing_eq_some h
    simp [CMPTransaction.interpretTransaction, hw, hk]
  · obtain ⟨_, rfl⟩ := interpretFreezing_eq_some h
    simp [CMPTransaction.interpretTransaction, hw, hk]
  · cases h
    simp [CMPTransaction.interpretTransaction, hw, hk, hp]
  · cases h

/-- A send-all of the main ecosystem, decoded from its payload, passes the field-level check as it
is: the check copies the ecosystem to the property, where the parser already put it. -/
theorem sendAll_payload_passes_check :
    CMPTransaction.interpretTransaction
        { txid := 0, block := 0, blockHash := none, blockTime := 0, sender := "", receiver := "",
          type := 4, version := 0, ecosystem := 1, property := 1 } =
      some
        { txid := 0, block := 0, blockHash := none, blockTime := 0, sender := "", receiver := "",
          type := 4, version := 0, ecosystem := 1, property := 1 } :=
  interpretTransaction_refines rfl rfl
    (interpretTransaction_createPayloadSendAll (fun _ => none)
      { txid := 0, block := 0, blockHash := none, blockTime := 0, sender := "", receiver := "",
        type := 0, version := 0 } 1)

end Packet

end WormholeCore
