/-
# `WormholeCore.ClassC` — finding and reading a class C payload (omnicore.cpp, encoding.cpp,
rules.cpp).

A class C transaction carries its payload in `OP_RETURN` outputs: `OmniCore_Encode_ClassC`
writes `OP_RETURN` and one push of the marker `08 77 68 63` followed by the payload.
`GetEncodingClass` recognises one in two scans: a search over the hex of each script for the
marker's digits (on the main network, from block 395000 on; every transaction passes it on the
other networks), then a walk over the outputs that types each one (`GetOutputType`) and, for an
allowed null-data output, reads the first of its pushes (`GetScriptPushes`, `ParseHex`) and
compares it with the marker. `parseTransaction` then collects the pushes of every such output in
`op_return_script_data`, the first without the marker's digits, and copies their bytes into a
buffer of `MAX_PACKETS * PACKET_SIZE` bytes, stopping once it is full.

The model follows that code, hex strings included. Over it, `classCData` says at the byte level
what an output carries: for a push-only `OP_RETURN` output whose first data push starts with
the marker, that push without the marker and the data pushes after it. The results:

* `getEncodingClass_eq_classC_iff`: where null-data outputs count, the class is C exactly when
  some output carries class C data, and the hex search never turns such a transaction away
  (`markerSearch_of_classCData`);
* `parseTransaction_classC`: the payload handed to `CMPTransaction::Set` is the first
  `MAX_PACKETS * PACKET_SIZE` bytes of what the outputs carry, in output order;
* `encodeClassC_round_trip`: a transaction whose only `OP_RETURN` output is the one
  `OmniCore_Encode_ClassC(p)` builds is read back as `p`;
* `createPayload_classC_read_back`: for the payload of a valid wallet request, what is read back
  decodes into the transaction the request describes.

The Bitcoin side the scans call into (the key matchers of `SafeSolver`, `ExtractDestination`)
and the sender lookup over the coins view are taken as given.
-/
import WormholeCore.Script
import WormholeCore.Payload

namespace WormholeCore

open Lib Bytes Hex Script

namespace ClassC

/-- `GetOmMarker()`: `08 77 68 63` ("8whc"). -/
def omMarker : List UInt8 := [0x08, 0x77, 0x68, 0x63]

/-! ## The rules and the chain -/

/-- The heights from which `IsAllowedOutputType` admits each output type: `PUBKEYHASH_BLOCK`,
`SCRIPTHASH_BLOCK`, `MULTISIG_BLOCK` and `NULLDATA_BLOCK` of `CConsensusParams`. -/
structure OutputTypeBlocks where
  pubkeyhashBlock : Nat
  scripthashBlock : Nat
  multisigBlock : Nat
  nulldataBlock : Nat
deriving DecidableEq, Repr

/-- The heights of `CMainConsensusParams`. -/
def mainOutputTypeBlocks : OutputTypeBlocks := ⟨0, 322000, 0, 395000⟩

/-- The heights of `CTestNetConsensusParams` and `CRegTestConsensusParams`. -/
def testOutputTypeBlocks : OutputTypeBlocks := ⟨0, 0, 0, 0⟩

/-- `IsAllowedOutputType`. -/
def isAllowedOutputType (blocks : OutputTypeBlocks) : TxnOutType → Nat → Bool
  | .pubkeyhash, nBlock => blocks.pubkeyhashBlock ≤ nBlock
  | .scripthash, nBlock => blocks.scripthashBlock ≤ nBlock
  | .multisig, nBlock => blocks.multisigBlock ≤ nBlock
  | .nullData, nBlock => blocks.nulldataBlock ≤ nBlock
  | _, _ => false

/-- `MONEYMAN_REGTEST_BLOCK`. -/
def moneymanRegtestBlock : Nat := 101

/-- `ExodusCrowdsaleAddress(nBlock)`: the regtest burn address from `MONEYMAN_REGTEST_BLOCK` on,
else the Exodus address. -/
def exodusCrowdsaleAddress (cfg : NodeConfig) (nBlock : Nat) : Address :=
  if moneymanRegtestBlock ≤ nBlock ∧ cfg.network = .regTest then burnwhcRegnet
  else cfg.exodusAddress

/-- What the model takes from the Bitcoin side as given: the key matchers of `SafeSolver`
(`MatchPayToPubkey`, `MatchPayToPubkeyHash`, `MatchMultisig`) and `ExtractDestination`, read as
the address `EncodeCashAddr` gives the destination. -/
structure ChainView where
  matchKeys : CScript → Option KeyType
  extractDestination : CScript → Option Address

/-! ## `GetEncodingClass` -/

/-- The classes `GetEncodingClass` returns. -/
inductive EncodingClass where
  | noMarker
  | classA
  | classB
  | classC
deriving DecidableEq, Repr

/-- The flags `GetEncodingClass` collects over the outputs. -/
structure EncodingFlags where
  hasExodus : Bool := false
  hasMultisig : Bool := false
  hasOpReturn : Bool := false
  hasMoney : Bool := false
deriving DecidableEq, Repr

/-- The marker test both scans run on the first push: `ParseHex` of it is at least as long as the
marker, and starts with it. -/
def startsWithMarker (push : List Char) : Bool :=
  let vchPushed := parseHex push
  !(vchPushed.length < omMarker.length) && vchPushed.take omMarker.length == omMarker

/-- `strClassC`, the marker's digits. -/
def strClassC : List Char := ['0', '8', '7', '7', '6', '8', '6', '3']

/-- `strClassAB`, the hex of the pay-to-pubkey-hash script to the Exodus address. -/
def strClassAB : List Char := "76a914946cb2e08075bcbaf157e47bcb67eb2b2339d24288ac".toList

/-- The fast search of `GetEncodingClass`: an output whose hex is `strClassAB`, or, from block
395000 on, whose hex holds the marker's digits (`find` on the hex text). -/
def markerSearch (vout : List CScript) (nBlock : Nat) : Bool :=
  vout.any fun script =>
    let strSPB := hexStr script
    if strSPB ≠ strClassAB then
      if nBlock < 395000 then false else decide (strClassC <:+: strSPB)
    else true

section Scans

variable (cfg : NodeConfig) (blocks : OutputTypeBlocks) (chain : ChainView)

/-- One turn of `GetEncodingClass`'s second loop. -/
def examineOutput (nBlock : Nat) (f : EncodingFlags) (script : CScript) : EncodingFlags :=
  match getOutputType chain.matchKeys script with
  | none => f
  | some outType =>
    if !isAllowedOutputType blocks outType nBlock then f
    else
      let f :=
        if outType = .pubkeyhash then
          match chain.extractDestination script with
          | some dest =>
            { f with
              hasExodus := f.hasExodus || dest == cfg.exodusAddress
              hasMoney := f.hasMoney || dest == exodusCrowdsaleAddress cfg nBlock }
          | none => f
        else f
      let f := if outType = .multisig then { f with hasMultisig := true } else f
      if outType = .nullData then
        -- a payload, and the first push equals or starts with the marker
        match getScriptPushes script with
        | some (push :: _) => if startsWithMarker push then { f with hasOpReturn := true } else f
        | _ => f
      else f

/-- **`GetEncodingClass`**: `NO_MARKER` unless the fast search (or a network other than the main
one) asks for a close look; then class C for a marked `OP_RETURN`, B for the Exodus address and a
multisig output, A for the Exodus or the crowdsale address. -/
def getEncodingClass (vout : List CScript) (nBlock : Nat) : EncodingClass :=
  let examineClosely := markerSearch vout nBlock || cfg.network != .main
  if !examineClosely then .noMarker
  else
    let f := vout.foldl (examineOutput cfg blocks chain nBlock) {}
    if f.hasOpReturn then .classC
    else if f.hasExodus && f.hasMultisig then .classB
    else if f.hasExodus || f.hasMoney then .classA
    else .noMarker

/-! ## The class C part of `parseTransaction` -/

/-- The pushes one output adds to `op_return_script_data`: for an allowed null-data output whose
first push starts with the marker, all its pushes, the first without the marker's digits. -/
def opReturnPushes (nBlock : Nat) (script : CScript) : List (List Char) :=
  match getOutputType chain.matchKeys script with
  | none => []
  | some whichType =>
    if !isAllowedOutputType blocks whichType nBlock then []
    else if whichType = .nullData then
      match getScriptPushes script with
      | some (push :: pushes) =>
        if startsWithMarker push then push.drop (omMarker.length * 2) :: pushes else []
      | _ => []
    else []

/-- `op_return_script_data`, filled output after output. -/
def opReturnScriptData (nBlock : Nat) (vout : List CScript) : List (List Char) :=
  vout.foldl (fun acc script => acc ++ opReturnPushes blocks chain nBlock script) []

/-- `address_data`: the address of each allowed output that has a destination other than the
Exodus address. -/
def addressData (nBlock : Nat) (vout : List CScript) : List Address :=
  vout.filterMap fun script =>
    match getOutputType chain.matchKeys script with
    | none => none
    | some whichType =>
      if !isAllowedOutputType blocks whichType nBlock then none
      else
        match chain.extractDestination script with
        | some dest => if dest = cfg.exodusAddress then none else some dest
        | none => none

end Scans

/-- The payload loop of `parseTransaction`: each non-empty string (asserted hex), parsed, cut to
what is left of the `MAX_PACKETS * PACKET_SIZE` bytes and appended; the loop stops once the
buffer is full. -/
def extractPayload : List (List Char) → List UInt8 → Except String (List UInt8)
  | [], singlePkt => .ok singlePkt
  | data :: rest, singlePkt =>
    if data.isEmpty then extractPayload rest singlePkt
    else if !isHex data then throw "parseTransaction: assert(IsHex(op_return_script_data[n]))"
    else
      let vch := parseHex data
      let payloadSize :=
        if singlePkt.length + vch.length > Packet.maxPayloadBytes then
          Packet.maxPayloadBytes - singlePkt.length
        else vch.length
      let singlePkt := if payloadSize > 0 then singlePkt ++ vch.take payloadSize else singlePkt
      if Packet.maxPayloadBytes = singlePkt.length then .ok singlePkt
      else extractPayload rest singlePkt

/-- The reference search of `parseTransaction`, first loop: the one candidate other than the burn
address, blanked again as soon as a second one turns up. -/
structure ReferenceSearch where
  strReference : Address := ""
  referenceFound : Bool := false
  potentialReferenceOutputs : Nat := 0

def referenceStep (burnwhcAddress : Address) (r : ReferenceSearch) (addr : Address) :
    ReferenceSearch :=
  if addr ≠ burnwhcAddress then
    let n := r.potentialReferenceOutputs + 1
    if n = 1 then { strReference := addr, referenceFound := true, potentialReferenceOutputs := n }
    else { strReference := "", referenceFound := false, potentialReferenceOutputs := n }
  else r

/-- The reference: the single candidate, or, when there is none or more than one, the last
address other than the burn address ("going fishing"). -/
def referenceOf (burnwhcAddress : Address) (addressData : List Address) : Address :=
  let r := addressData.foldl (referenceStep burnwhcAddress) {}
  if r.referenceFound then r.strReference
  else addressData.foldl (fun ref addr => if addr ≠ burnwhcAddress then addr else ref) r.strReference

/-- What `parseTransaction` hands `CMPTransaction::Set`: sender, reference, and the payload, whose
length is `packet_size`. -/
structure ParsedPacket where
  sender : Address
  reference : Address
  pkt : List UInt8
deriving DecidableEq, Repr

/-- **`parseTransaction`** up to `CMPTransaction::Set`: `-1` for a transaction that is not of
class C; the sender lookup over the coins view (`senderLookup`: its return code, `-101` or
`-108` to `-110`, or the sender) and `-5` for an empty sender; then the reference and the
class C payload. The return code `0` comes with what `Set` receives. -/
def parseTransaction (cfg : NodeConfig) (blocks : OutputTypeBlocks) (chain : ChainView)
    (senderLookup : Except Int Address) (vout : List CScript) (nBlock : Nat) :
    Except String (Int × Option ParsedPacket) :=
  let omniClass := getEncodingClass cfg blocks chain vout nBlock
  if omniClass = .noMarker then .ok (-1, none)
  else if omniClass ≠ .classC then .ok (-1, none)
  else
    match senderLookup with
    | .error code => .ok (code, none)
    | .ok strSender =>
      if strSender = "" then .ok (-5, none)
      else
        let strReference := referenceOf cfg.burnwhcAddress (addressData cfg blocks chain nBlock vout)
        (extractPayload (opReturnScriptData blocks chain nBlock vout) []).map fun singlePkt =>
          (0, some { sender := strSender, reference := strReference, pkt := singlePkt })

/-! ## `OmniCore_Encode_ClassC` -/

/-- `MAX_OP_RETURN_RELAY`. -/
def maxOpReturnRelay : Nat := 223

/-- `OmniCore_Encode_ClassC`: `OP_RETURN`, then one push of the marker and the payload; refused
when the two are longer than `MAX_OP_RETURN_RELAY`. -/
def encodeClassC (vchPayload : List UInt8) : Option CScript :=
  let vchData := omMarker ++ vchPayload
  if vchData.length > maxOpReturnRelay then none else some (opReturn :: pushData vchData)

/-! ## What an output carries -/

/-- The class C data read from the data pushes of a push-only `OP_RETURN` output: the first push
without the marker, then the others; `none` when there is no push or the first does not start
with the marker. -/
def markedData : List (List UInt8) → Option (List UInt8)
  | d :: ds => if omMarker <+: d then some (d.drop omMarker.length ++ ds.flatten) else none
  | [] => none

/-- **The class C data of an output**, at the byte level: for a push-only `OP_RETURN` output of
two bytes at least, what `markedData` reads from its data pushes; `none` for any other output. -/
def classCData : CScript → Option (List UInt8)
  | [] => none
  | opcode :: rest =>
    if opcode = opReturn ∧ rest ≠ [] then
      match ops rest with
      | some os => if os.all (fun o => o.1 ≤ op16) then markedData (dataPushes os) else none
      | none => none
    else none

/-! ## Reading an output -/

/-- The marker test on the hex of a push is the prefix test on its bytes. -/
theorem startsWithMarker_hexStr (d : List UInt8) :
    startsWithMarker (hexStr d) = decide (omMarker <+: d) := by
  rw [startsWithMarker, parseHex_hexStr, Bool.eq_iff_iff, decide_eq_true_iff,
    List.prefix_iff_eq_take]
  simp only [Bool.and_eq_true, Bool.not_eq_true', decide_eq_false_iff_not, Nat.not_lt,
    beq_iff_eq]
  constructor
  · exact fun h => h.2.symm
  · -- the take is as long as the marker only when the push is
    intro h
    refine ⟨?_, h.symm⟩
    have hlen := congrArg List.length h
    simp only [List.length_take] at hlen
    omega

/-- Dropping the marker's digits is dropping the marker's bytes. -/
theorem drop_marker_hexStr (d : List UInt8) :
    (hexStr d).drop (omMarker.length * 2) = hexStr (d.drop omMarker.length) := by
  rw [Nat.mul_comm, drop_hexStr]

/-- The data pushes after an `OP_RETURN` are those of the rest. -/
theorem dataPushes_opReturn (os : List (UInt8 × List UInt8)) :
    dataPushes ((opReturn, []) :: os) = dataPushes os := by
  simp [dataPushes, opReturn, opPushdata4]

theorem classCData_cons {rest : CScript} {os : List (UInt8 × List UInt8)} (hrest : rest ≠ [])
    (hos : ops rest = some os) (hpush : ∀ o ∈ os, o.1 ≤ op16) :
    classCData (opReturn :: rest) = markedData (dataPushes os) := by
  have hall : os.all (fun o => o.1 ≤ op16) = true := by simpa using hpush
  rw [classCData, if_pos ⟨rfl, hrest⟩, hos]
  simp only [hall, if_true]

/-- **What an output that carries class C data is**: `OP_RETURN` and a non-empty rest that parses
into pushes, the first data push starting with the marker. -/
theorem classCData_isSome {s : CScript} (h : (classCData s).isSome) :
    ∃ rest os d ds, s = opReturn :: rest ∧ rest ≠ [] ∧ ops rest = some os ∧
      (∀ o ∈ os, o.1 ≤ op16) ∧ dataPushes os = d :: ds ∧ omMarker <+: d := by
  match s, h with
  | c :: rest, h =>
    rw [classCData] at h
    by_cases hret : c = opReturn ∧ rest ≠ []
    · rw [if_pos hret] at h
      cases hos : ops rest with
      | none => simp [hos] at h
      | some os =>
        by_cases hall : os.all (fun o => o.1 ≤ op16) = true
        · simp only [hos, hall, if_true] at h
          -- `markedData` reads data only from a first push that starts with the marker
          cases hpushes : dataPushes os with
          | nil => simp [hpushes, markedData] at h
          | cons d ds =>
            by_cases hm : omMarker <+: d
            · exact ⟨rest, os, d, ds, by rw [hret.1], hret.2, hos, by simpa using hall, hpushes, hm⟩
            · simp [hpushes, markedData, hm] at h
        · simp [hos, hall] at h
    · simp [hret] at h

section Outputs

variable (chain : ChainView)

/-- **What the scans see of one output**: an output that is not of the null-data type carries no
class C data; a null-data output's pushes are the hex of its data pushes, from which its class C
data is read. -/
theorem output_cases (s : CScript) :
    (getOutputType chain.matchKeys s ≠ some .nullData ∧ classCData s = none) ∨
      ∃ ds : List (List UInt8), getOutputType chain.matchKeys s = some .nullData ∧
        getScriptPushes s = some (ds.map hexStr) ∧ classCData s = markedData ds := by
  by_cases hnull : getOutputType chain.matchKeys s = some .nullData
  · -- a push-only `OP_RETURN` output: its ops are `OP_RETURN`, then those of the rest
    right
    obtain ⟨hlen, hhead, hpush⟩ := (getOutputType_eq_nullData_iff chain.matchKeys s).mp hnull
    obtain ⟨os, hos, hall⟩ := isPushOnly_iff.mp hpush
    match s, hlen, hhead, hos with
    | c :: rest, hlen, hhead, hos =>
      obtain rfl : c = opReturn := by simpa using hhead
      have hrest : rest ≠ [] := by
        rintro rfl
        simp at hlen
      refine ⟨dataPushes os, hnull, ?_, classCData_cons hrest hos hall⟩
      rw [getScriptPushes_eq, ops_cons_of_pushdata4_lt (by decide) rest]
      simp only [List.tail_cons] at hos
      simp [hos, dataPushes_opReturn]
  · -- class C data needs a push-only `OP_RETURN` output
    left
    refine ⟨hnull, Option.not_isSome_iff_eq_none.mp fun hdata => hnull ?_⟩
    obtain ⟨rest, os, -, -, rfl, hrest, hos, hall, -⟩ := classCData_isSome hdata
    rw [getOutputType_eq_nullData_iff]
    refine ⟨?_, rfl, isPushOnly_iff.mpr ⟨os, hos, hall⟩⟩
    have : rest.length ≠ 0 := by simpa using hrest
    simp only [List.length_cons]
    omega

end Outputs

/-! ## `GetEncodingClass` against the outputs' data -/

section Recognition

variable (cfg : NodeConfig) (blocks : OutputTypeBlocks) (chain : ChainView) {nBlock : Nat}

/-- **One turn of the second loop sets `hasOpReturn` exactly for an output that carries class C
data**, where null-data outputs count. -/
theorem hasOpReturn_examineOutput (hallow : isAllowedOutputType blocks .nullData nBlock = true)
    (f : EncodingFlags) (s : CScript) :
    (examineOutput cfg blocks chain nBlock f s).hasOpReturn =
      (f.hasOpReturn || (classCData s).isSome) := by
  rcases output_cases chain s with ⟨hnull, hdata⟩ | ⟨ds, hnull, hpushes, hdata⟩
  · rw [hdata, Option.isSome_none, Bool.or_false]
    unfold examineOutput
    split
    · rfl
    · next outType hout =>
      have hne : outType ≠ .nullData := fun h => hnull (h ▸ hout)
      simp only [hne, if_false]
      -- the pay-to-pubkey-hash and multisig turns set other flags
      split_ifs <;> (try split) <;> rfl
  · rw [hdata]
    simp only [examineOutput, hnull, hallow, Bool.not_true, Bool.false_eq_true, if_false, if_true,
      hpushes]
    cases ds with
    | nil => simp [markedData]
    | cons d ds =>
      simp only [List.map_cons, startsWithMarker_hexStr, markedData]
      by_cases hm : omMarker <+: d <;> simp [hm]

/-- Over the whole loop: `hasOpReturn` is set exactly when some output carries class C data. -/
theorem hasOpReturn_foldl (hallow : isAllowedOutputType blocks .nullData nBlock = true)
    (vout : List CScript) (f : EncodingFlags) :
    (vout.foldl (examineOutput cfg blocks chain nBlock) f).hasOpReturn =
      (f.hasOpReturn || vout.any fun s => (classCData s).isSome) := by
  induction vout generalizing f with
  | nil => simp
  | cons s vout ih =>
    rw [List.foldl_cons, ih, hasOpReturn_examineOutput cfg blocks chain hallow, List.any_cons,
      Bool.or_assoc]

/-- A class C output's first data push is a run of bytes of its script. -/
theorem marker_infix_of_classCData {s : CScript} (hs : (classCData s).isSome) :
    omMarker <:+: s := by
  obtain ⟨rest, os, d, ds, rfl, -, hos, -, hpushes, hm⟩ := classCData_isSome hs
  -- the marker starts the data of an op of the rest, which lies in the script
  have hd : d ∈ dataPushes os := by rw [hpushes]; exact List.mem_cons_self
  obtain ⟨o, ho, rfl⟩ := List.mem_map.mp hd
  have hinfix := infix_of_mem_opsAux hos o (List.mem_filter.mp ho).1
  exact (hm.isInfix.trans hinfix).trans (List.suffix_cons opReturn rest).isInfix

/-- **The hex search never turns a class C transaction away** from block 395000 on: the marker's
digits stand in the hex of the output that carries it. -/
theorem markerSearch_of_classCData {vout : List CScript} {s : CScript} (hs : s ∈ vout)
    (hdata : (classCData s).isSome) (hblock : 395000 ≤ nBlock) : markerSearch vout nBlock = true := by
  have hdigits : strClassC <:+: hexStr s := by
    have hmarker : strClassC = hexStr omMarker := by decide
    rw [hmarker]
    exact hexStr_infix (marker_infix_of_classCData hdata)
  refine List.any_eq_true.mpr ⟨s, hs, ?_⟩
  by_cases hab : hexStr s = strClassAB
  · simp [hab]
  · simp only [hab, ne_eq, not_false_eq_true, if_true, if_neg (show ¬nBlock < 395000 by omega)]
    exact decide_eq_true hdigits

/-- **`GetEncodingClass` returns class C exactly when an output carries class C data**, at a
height where null-data outputs count, on a network other than the main one or from block 395000
on. -/
theorem getEncodingClass_eq_classC_iff (vout : List CScript)
    (hallow : isAllowedOutputType blocks .nullData nBlock = true)
    (hnet : cfg.network ≠ .main ∨ 395000 ≤ nBlock) :
    getEncodingClass cfg blocks chain vout nBlock = .classC ↔
      ∃ s ∈ vout, (classCData s).isSome := by
  have hflag := hasOpReturn_foldl cfg blocks chain hallow vout {}
  simp only [Bool.false_or] at hflag
  unfold getEncodingClass
  simp only
  constructor
  · intro hclass
    -- a close look that did not set `hasOpReturn` returns another class
    split_ifs at hclass with hlook hret
    · exact List.any_eq_true.mp (hflag ▸ hret)
  · rintro ⟨s, hs, hdata⟩
    have hlook : (markerSearch vout nBlock || cfg.network != .main) = true := by
      rcases hnet with hnet | hblock
      · simp [hnet]
      · simp [markerSearch_of_classCData hs hdata hblock]
    have hret : (vout.foldl (examineOutput cfg blocks chain nBlock) {}).hasOpReturn = true := by
      rw [hflag]
      exact List.any_eq_true.mpr ⟨s, hs, hdata⟩
    simp [hlook, hret]

end Recognition

/-! ## The payload `parseTransaction` reads -/

section Extraction

variable (blocks : OutputTypeBlocks) (chain : ChainView) {nBlock : Nat}

/-- **One output's pushes**, where null-data outputs count: the hex of byte strings that together
are the class C data the output carries. -/
theorem opReturnPushes_spec (hallow : isAllowedOutputType blocks .nullData nBlock = true)
    (s : CScript) :
    ∃ bss : List (List UInt8), opReturnPushes blocks chain nBlock s = bss.map hexStr ∧
      bss.flatten = (classCData s).getD [] := by
  rcases output_cases chain s with ⟨hnull, hdata⟩ | ⟨ds, hnull, hpushes, hdata⟩
  · -- another type adds nothing
    refine ⟨[], ?_, by simp [hdata]⟩
    unfold opReturnPushes
    split
    · rfl
    · next whichType hout =>
      have hne : whichType ≠ .nullData := fun h => hnull (h ▸ hout)
      simp [hne]
  · rw [hdata]
    simp only [opReturnPushes, hnull, hallow, Bool.not_true, Bool.false_eq_true, if_false, if_true,
      hpushes]
    cases ds with
    | nil => exact ⟨[], rfl, rfl⟩
    | cons d ds =>
      simp only [List.map_cons, startsWithMarker_hexStr, markedData]
      by_cases hm : omMarker <+: d
      · -- the first push without the marker's digits, then the others
        refine ⟨d.drop omMarker.length :: ds, ?_, by simp [hm]⟩
        simp [hm, drop_marker_hexStr]
      · exact ⟨[], by simp [hm], by simp [hm]⟩

/-- `op_return_script_data` is the outputs' pushes one after another. -/
theorem opReturnScriptData_eq (vout : List CScript) :
    opReturnScriptData blocks chain nBlock vout = vout.flatMap (opReturnPushes blocks chain nBlock) := by
  -- the loop appends each output's pushes to what it holds
  have hfold : ∀ (acc : List (List Char)) (vout : List CScript),
      vout.foldl (fun acc script => acc ++ opReturnPushes blocks chain nBlock script) acc =
        acc ++ vout.flatMap (opReturnPushes blocks chain nBlock) := by
    intro acc vout
    induction vout generalizing acc with
    | nil => simp
    | cons s vout ih => simp [ih, List.append_assoc]
  rw [opReturnScriptData, hfold, List.nil_append]

/-- **`op_return_script_data` holds, in hex, the class C data of the outputs in output order.** -/
theorem opReturnScriptData_spec (hallow : isAllowedOutputType blocks .nullData nBlock = true)
    (vout : List CScript) :
    ∃ bss : List (List UInt8), opReturnScriptData blocks chain nBlock vout = bss.map hexStr ∧
      bss.flatten = (vout.filterMap classCData).flatten := by
  rw [opReturnScriptData_eq]
  induction vout with
  | nil => exact ⟨[], rfl, rfl⟩
  | cons s vout ih =>
    obtain ⟨bss, hbss, hflat⟩ := ih
    obtain ⟨bs, hbs, hflat₀⟩ := opReturnPushes_spec blocks chain hallow s
    refine ⟨bs ++ bss, by rw [List.flatMap_cons, hbs, hbss, List.map_append], ?_⟩
    rw [List.flatten_append, hflat, hflat₀, List.filterMap_cons]
    cases classCData s <;> simp

end Extraction

/-- The bytes a push adds: all of them when they fit, else what fills the buffer. -/
theorem append_take_payloadSize (singlePkt b : List UInt8) (n : Nat) :
    (if n > 0 then singlePkt ++ b.take n else singlePkt) = singlePkt ++ b.take n := by
  split_ifs with hn
  · rfl
  · simp [Nat.eq_zero_of_not_pos hn]

/-- **The payload loop keeps the first `MAX_PACKETS * PACKET_SIZE` bytes** of the buffer followed
by the bytes of the strings, for strings `HexStr` wrote: it stops once the buffer is full and
skips the empty ones. -/
theorem extractPayload_hexStr (bss : List (List UInt8)) {singlePkt : List UInt8}
    (hpkt : singlePkt.length ≤ Packet.maxPayloadBytes) :
    extractPayload (bss.map hexStr) singlePkt =
      .ok ((singlePkt ++ bss.flatten).take Packet.maxPayloadBytes) := by
  induction bss generalizing singlePkt with
  | nil => simp [extractPayload, List.take_of_length_le hpkt]
  | cons b bss ih =>
    rw [List.map_cons, extractPayload]
    by_cases hb : b = []
    · -- an empty push is skipped
      subst hb
      simp [ih hpkt]
    · rw [if_neg (by simpa using hb), if_neg (by simp [isHex_hexStr hb])]
      simp only [parseHex_hexStr, append_take_payloadSize, List.flatten_cons]
      split_ifs with hfull hstop hstop
      · -- the push fills the buffer: the loop stops on the buffer's first bytes
        rw [List.take_append, List.take_of_length_le hpkt,
          List.take_append_of_le_length (by omega)]
      · simp only [List.length_append, List.length_take] at hstop
        omega
      · -- the push fits whole and fills the buffer
        have hlen : (singlePkt ++ b).length = Packet.maxPayloadBytes := by simpa using hstop.symm
        rw [List.take_length, ← List.append_assoc, List.take_append_of_le_length hlen.ge,
          List.take_of_length_le hlen.le]
      · -- the push fits whole: the loop goes on
        have hlen : (singlePkt ++ b).length ≤ Packet.maxPayloadBytes := by simp; omega
        rw [List.take_length, ih hlen, List.append_assoc]

/-! ## The reference -/

/-- Where the first reference loop stands after the candidates `cands` (the addresses other than
the burn address, in output order): none, the one, or more than one. -/
def referenceSearchAfter (cands : List Address) : ReferenceSearch :=
  match cands with
  | [] => {}
  | [a] => { strReference := a, referenceFound := true, potentialReferenceOutputs := 1 }
  | _ => { strReference := "", referenceFound := false, potentialReferenceOutputs := cands.length }

theorem potentialReferenceOutputs_after (cands : List Address) :
    (referenceSearchAfter cands).potentialReferenceOutputs = cands.length := by
  match cands with
  | [] => rfl
  | [_] => rfl
  | _ :: _ :: _ => rfl

/-- One turn of the first loop adds a candidate, or passes over the burn address. -/
theorem referenceStep_after (burnwhcAddress : Address) (cands : List Address) (addr : Address) :
    referenceStep burnwhcAddress (referenceSearchAfter cands) addr =
      referenceSearchAfter (if addr ≠ burnwhcAddress then cands ++ [addr] else cands) := by
  unfold referenceStep
  split_ifs with hne
  · rw [potentialReferenceOutputs_after]
    match cands with
    | [] => rfl
    | [_] => rfl
    | _ :: _ :: _ => simp [referenceSearchAfter]
  · rfl

/-- The first loop, run over the outputs' addresses: it stands after their candidates. -/
theorem foldl_referenceStep (burnwhcAddress : Address) (pre addrs : List Address) :
    addrs.foldl (referenceStep burnwhcAddress) (referenceSearchAfter pre) =
      referenceSearchAfter (pre ++ addrs.filter (· ≠ burnwhcAddress)) := by
  induction addrs generalizing pre with
  | nil => simp
  | cons addr addrs ih =>
    rw [List.foldl_cons, referenceStep_after, ih]
    by_cases hne : addr ≠ burnwhcAddress <;> simp [hne]

/-- The second loop: the last candidate, if there is one. -/
theorem foldl_lastReference (burnwhcAddress : Address) (addrs : List Address) (ref : Address) :
    addrs.foldl (fun ref addr => if addr ≠ burnwhcAddress then addr else ref) ref =
      ((addrs.filter (· ≠ burnwhcAddress)).getLast?).getD ref := by
  induction addrs generalizing ref with
  | nil => rfl
  | cons addr addrs ih =>
    rw [List.foldl_cons, ih]
    by_cases hne : addr ≠ burnwhcAddress
    · -- a later candidate replaces this one
      rw [if_pos hne, List.filter_cons_of_pos (by simpa using hne), List.getLast?_cons,
        Option.getD_some]
    · rw [if_neg hne, List.filter_cons_of_neg (by simpa using hne)]

/-- **The reference is the last address other than the burn address**, or none (the empty
address): a single candidate is found by the first loop, and when there are several the second
loop keeps the last. -/
theorem referenceOf_eq_last (burnwhcAddress : Address) (addressData : List Address) :
    referenceOf burnwhcAddress addressData =
      ((addressData.filter (· ≠ burnwhcAddress)).getLast?).getD "" := by
  have hfirst := foldl_referenceStep burnwhcAddress [] addressData
  rw [List.nil_append] at hfirst
  rw [referenceOf, show ({} : ReferenceSearch) = referenceSearchAfter [] from rfl, hfirst,
    foldl_lastReference]
  -- found only for a single candidate, which is the last; otherwise the second loop decides
  match addressData.filter (· ≠ burnwhcAddress) with
  | [] => rfl
  | [_] => rfl
  | _ :: _ :: _ => simp [referenceSearchAfter]

/-! ## `parseTransaction` and `OmniCore_Encode_ClassC` -/

section Parse

variable (cfg : NodeConfig) (blocks : OutputTypeBlocks) (chain : ChainView) {nBlock : Nat}

/-- **What `parseTransaction` hands `CMPTransaction::Set`** for a class C transaction with a
sender: the reference, and the first `MAX_PACKETS * PACKET_SIZE` bytes of the class C data of the
outputs, in output order. -/
theorem parseTransaction_classC (hallow : isAllowedOutputType blocks .nullData nBlock = true)
    {vout : List CScript} (hclass : getEncodingClass cfg blocks chain vout nBlock = .classC)
    {sender : Address} (hsender : sender ≠ "") :
    parseTransaction cfg blocks chain (.ok sender) vout nBlock =
      .ok (0, some
        { sender := sender
          reference := referenceOf cfg.burnwhcAddress (addressData cfg blocks chain nBlock vout)
          pkt := (vout.filterMap classCData).flatten.take Packet.maxPayloadBytes }) := by
  obtain ⟨bss, hdata, hflat⟩ := opReturnScriptData_spec blocks chain hallow vout
  have hrun := extractPayload_hexStr bss
    (show ([] : List UInt8).length ≤ Packet.maxPayloadBytes from Nat.zero_le _)
  rw [List.nil_append, hflat] at hrun
  simp only [parseTransaction, hclass, reduceCtorEq, if_false, ne_eq, not_true_eq_false,
    if_neg hsender, hdata, hrun]
  rfl

/-- A push the encoder wrote is never empty. -/
theorem pushData_ne_nil (b : List UInt8) : pushData b ≠ [] := by
  unfold pushData
  split_ifs <;> simp

/-- **The output `OmniCore_Encode_ClassC` builds carries the payload.** -/
theorem classCData_encodeClassC {p : List UInt8} (hp : (omMarker ++ p).length < 2 ^ 32) :
    classCData (opReturn :: pushData (omMarker ++ p)) = some p := by
  obtain ⟨opcode, hop, hops⟩ := ops_pushData hp
  have hpush : ∀ o ∈ [(opcode, omMarker ++ p)], o.1 ≤ op16 := by
    intro o ho
    rw [List.mem_singleton.mp ho]
    exact UInt8.le_trans hop (by decide)
  rw [classCData_cons (pushData_ne_nil _) hops hpush]
  simp [dataPushes, hop, markedData, omMarker]

/-- Only `OP_RETURN` outputs carry class C data. -/
theorem filterMap_classCData_filter (vout : List CScript) :
    (vout.filter fun s => s.head? == some opReturn).filterMap classCData =
      vout.filterMap classCData := by
  induction vout with
  | nil => rfl
  | cons s vout ih =>
    by_cases hs : s.head? = some opReturn
    · rw [List.filter_cons_of_pos (by simpa using hs), List.filterMap_cons, List.filterMap_cons, ih]
    · have hnone : classCData s = none := by
        refine Option.not_isSome_iff_eq_none.mp fun hdata => hs ?_
        obtain ⟨rest, -, -, -, rfl, -⟩ := classCData_isSome hdata
        rfl
      rw [List.filter_cons_of_neg (by simpa using hs), ih, List.filterMap_cons, hnone]

/-- **A transaction whose only `OP_RETURN` output is the one `OmniCore_Encode_ClassC(p)` builds
is read back as `p`**, for every payload that fits `MAX_OP_RETURN_RELAY` with the marker. -/
theorem encodeClassC_round_trip (hallow : isAllowedOutputType blocks .nullData nBlock = true)
    (hnet : cfg.network ≠ .main ∨ 395000 ≤ nBlock) {p : List UInt8}
    (hp : omMarker.length + p.length ≤ maxOpReturnRelay) {vout : List CScript}
    (hone : vout.filter (fun s => s.head? == some opReturn) = [opReturn :: pushData (omMarker ++ p)])
    {sender : Address} (hsender : sender ≠ "") :
    encodeClassC p = some (opReturn :: pushData (omMarker ++ p)) ∧
      getEncodingClass cfg blocks chain vout nBlock = .classC ∧
      parseTransaction cfg blocks chain (.ok sender) vout nBlock =
        .ok (0, some
          { sender := sender
            reference := referenceOf cfg.burnwhcAddress (addressData cfg blocks chain nBlock vout)
            pkt := p }) := by
  have hlen : (omMarker ++ p).length ≤ maxOpReturnRelay := by simpa using hp
  have hdata : classCData (opReturn :: pushData (omMarker ++ p)) = some p :=
    classCData_encodeClassC (by simp only [maxOpReturnRelay] at hlen; omega)
  have hmem : opReturn :: pushData (omMarker ++ p) ∈ vout :=
    (List.mem_filter.mp (hone ▸ List.mem_singleton_self _)).1
  have hclass : getEncodingClass cfg blocks chain vout nBlock = .classC :=
    (getEncodingClass_eq_classC_iff cfg blocks chain vout hallow hnet).mpr
      ⟨_, hmem, by simp [hdata]⟩
  -- the encoded output is the only one that carries data
  have hall : vout.filterMap classCData = [p] := by
    rw [← filterMap_classCData_filter, hone, List.filterMap_cons, hdata, List.filterMap_nil]
  refine ⟨?_, hclass, ?_⟩
  · rw [encodeClassC, if_neg (by omega)]
  · rw [parseTransaction_classC cfg blocks chain hallow hclass hsender, hall, List.flatten_singleton,
      List.take_of_length_le (by simp only [maxOpReturnRelay, Packet.maxPayloadBytes] at hp ⊢; omega)]

/-- **What the wallet builds, the node reads.** The output `OmniCore_Encode_ClassC` builds around
the payload of a valid request, alone among the `OP_RETURN` outputs and within
`MAX_OP_RETURN_RELAY` with the marker, is read by `parseTransaction` and decoded by
`interpret_Transaction` into the transaction the request describes. -/
theorem createPayload_classC_read_back (hallow : isAllowedOutputType blocks .nullData nBlock = true)
    (hnet : cfg.network ≠ .main ∨ 395000 ≤ nBlock) (r : Packet.PayloadRequest) (hr : r.Valid)
    (hfits : omMarker.length + r.payload.length ≤ maxOpReturnRelay) {vout : List CScript}
    (hone : vout.filter (fun s => s.head? == some opReturn) = [opReturn :: pushData (omMarker ++ r.payload)])
    {sender : Address} (hsender : sender ≠ "") (decodeAddress : List UInt8 → Option Address)
    (tx : CMPTransaction) :
    ∃ parsed : ParsedPacket,
      parseTransaction cfg blocks chain (.ok sender) vout nBlock = .ok (0, some parsed) ∧
        Packet.interpretTransaction decodeAddress parsed.pkt tx = some (r.message tx) := by
  obtain ⟨-, -, hparse⟩ := encodeClassC_round_trip cfg blocks chain hallow hnet hfits hone hsender
  exact ⟨_, hparse, Packet.PayloadRequest.interpretTransaction_payload decodeAddress tx r hr⟩

end Parse

/-- **Class C payload extraction.** At a height where null-data outputs count, on a network other
than the main one or from block 395000 on: `GetEncodingClass` returns class C exactly when an
output is a push-only `OP_RETURN` whose first data push starts with the marker; the hex search
lets every such transaction through; `parseTransaction` hands `CMPTransaction::Set` the first
`MAX_PACKETS * PACKET_SIZE` bytes of the outputs' data, in output order, the marker taken off
each first push; and the output `OmniCore_Encode_ClassC(p)` builds, alone among the `OP_RETURN`
outputs, is read back as `p`. -/
theorem classC_payload_extraction (cfg : NodeConfig) (blocks : OutputTypeBlocks)
    (chain : ChainView) (nBlock : Nat) (hallow : isAllowedOutputType blocks .nullData nBlock = true)
    (hnet : cfg.network ≠ .main ∨ 395000 ≤ nBlock) (vout : List CScript) :
    (getEncodingClass cfg blocks chain vout nBlock = .classC ↔
        ∃ s ∈ vout, (classCData s).isSome) ∧
      (∀ s ∈ vout, (classCData s).isSome → 395000 ≤ nBlock → markerSearch vout nBlock = true) ∧
      (getEncodingClass cfg blocks chain vout nBlock = .classC → ∀ sender : Address, sender ≠ "" →
        parseTransaction cfg blocks chain (.ok sender) vout nBlock =
          .ok (0, some
            { sender := sender
              reference := referenceOf cfg.burnwhcAddress (addressData cfg blocks chain nBlock vout)
              pkt := (vout.filterMap classCData).flatten.take Packet.maxPayloadBytes })) ∧
      (∀ p : List UInt8, omMarker.length + p.length ≤ maxOpReturnRelay →
        vout.filter (fun s => s.head? == some opReturn) = [opReturn :: pushData (omMarker ++ p)] →
        encodeClassC p = some (opReturn :: pushData (omMarker ++ p)) ∧
          getEncodingClass cfg blocks chain vout nBlock = .classC ∧
          ∀ sender : Address, sender ≠ "" →
            parseTransaction cfg blocks chain (.ok sender) vout nBlock =
              .ok (0, some
                { sender := sender
                  reference := referenceOf cfg.burnwhcAddress (addressData cfg blocks chain nBlock vout)
                  pkt := p })) := by
  refine ⟨getEncodingClass_eq_classC_iff cfg blocks chain vout hallow hnet,
    fun s hs hdata hblock => markerSearch_of_classCData hs hdata hblock,
    fun hclass sender hsender => parseTransaction_classC cfg blocks chain hallow hclass hsender, ?_⟩
  intro p hp hone
  obtain ⟨hencode, hclass, -⟩ := encodeClassC_round_trip cfg blocks chain hallow hnet hp hone
    (show ("x" : Address) ≠ "" by decide)
  exact ⟨hencode, hclass, fun sender hsender =>
    (encodeClassC_round_trip cfg blocks chain hallow hnet hp hone hsender).2.2⟩

/-- A simple send carried by class C on the main network at block 600000, beside an output that is
not `OP_RETURN`: the node reads back the payload `CreatePayload_SimpleSend` wrote. -/
theorem classC_simpleSend_read_back :
    (isAllowedOutputType mainOutputTypeBlocks .nullData 600000 = true ∧ 395000 ≤ 600000) ∧
      parseTransaction { network := .main } mainOutputTypeBlocks ⟨fun _ => none, fun _ => none⟩
          (.ok "bitcoincash:qsender")
          [[0x21, 0x02, 0xac], opReturn :: pushData (omMarker ++ Packet.createPayloadSimpleSend 3 100)]
          600000 =
        .ok (0, some
          { sender := "bitcoincash:qsender"
            reference := referenceOf burnwhcMainnet []
            pkt := Packet.createPayloadSimpleSend 3 100 }) :=
  ⟨⟨by decide, by decide⟩,
    ((classC_payload_extraction { network := .main } mainOutputTypeBlocks ⟨fun _ => none, fun _ => none⟩
      600000 (by decide) (Or.inr (by decide))
      [[0x21, 0x02, 0xac], opReturn :: pushData (omMarker ++ Packet.createPayloadSimpleSend 3 100)]).2.2.2
        (Packet.createPayloadSimpleSend 3 100) (by decide) (by decide)).2.2 _ (by decide)⟩


/-- A managed property named `Gold`, asked of the wallet on mainnet. -/
def goldIssuance : Packet.PayloadRequest :=
  .issuanceManaged 1 1 0 [] [] [0x47, 0x6f, 0x6c, 0x64] [] []

/-- The transaction of the `Gold` issuance before its payload is read. -/
def goldTx : CMPTransaction :=
  { txid := 9, block := 600000, blockHash := none, blockTime := 0, sender := "", receiver := "",
    type := 0, version := 0 }

/-- The class C output of the `Gold` issuance, mined at block `600000` after a change output, is
decoded into the issuance. -/
theorem goldIssuance_read_back :
    ∃ parsed : ParsedPacket,
      parseTransaction { network := .main } mainOutputTypeBlocks ⟨fun _ => none, fun _ => none⟩
          (.ok "bitcoincash:qsender")
          [[0x21, 0x02, 0xac], opReturn :: pushData (omMarker ++ goldIssuance.payload)] 600000 =
        .ok (0, some parsed) ∧
      Packet.interpretTransaction (fun _ => none) parsed.pkt goldTx = some (goldIssuance.message goldTx) :=
  createPayload_classC_read_back { network := .main } mainOutputTypeBlocks ⟨fun _ => none, fun _ => none⟩
    (by decide) (Or.inr (by decide)) goldIssuance (by decide) (by decide) (by decide) (by decide)
    (fun _ => none) _

end ClassC

end WormholeCore
