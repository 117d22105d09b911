/-
# `WormholeCore.StateFiles` — the state files of a block, written and read back (omnicore.cpp).

At the end of a block near the tip `mastercore_save_state` writes one file per `FILETYPE` with
`write_state_file`: its lines, then `!` and the double SHA-256 of the lines. After a
reorganisation `load_most_relevant_state` reads the files of a block of the active chain back with
`msc_file_load(…, true)`, one type after another in `statePrefix`'s order, stopping at the first
file that fails; the node then resumes from that block. Each file type has a writer and a line
reader:

* balances — `write_msc_balances` writes `address=` and `id:balance,sell,accept,metadex;` for every
  property `CMPTally::next` reaches with a non-zero counter; `input_msc_balances_string` credits
  each non-zero balance with `update_tally_map` (the reserves are written but read by nobody);
* burn — the pending burns (`Persist`);
* globals — `write_globals_state` writes `exodus_prev`, the two property counters and the next
  ERC721 property (`GetHex`); `input_globals_state_string` casts them back and calls the stores'
  `init`;
* crowdsales — `CMPCrowd::saveCrowdSale` writes nine fields and `,txid=value;value;…` per
  purchase; `input_mp_crowdsale_string` casts them back and inserts the purchases;
* frozen — `write_mp_frozenstate` writes `address,property` per frozen pair;
  `input_frozen_state_string` inserts it.

Every reader splits with `boost::split` and `token_compress_on` and casts with
`boost::lexical_cast`, which throws on what it cannot read; the model takes both from a `Boost`,
and the theorems hold for every one with the documented behaviour (`Lib.Split.TokenCompress`,
`Boost.CastDocumented`). `uint256S` reads a hash with `SetHex` (`Lib.Hex`). The hash is a parameter `hashOf`, the text of the double SHA-256 of the lines, as in
`Persist`.

## What is proved here

* `lexicalCastInt64_printD`, `lexicalCastUnsigned_printD`, `uint256S_uint256ToString` — a number
  or a hash written with `%d` or `GetHex` casts back to itself within the cast's width;
* `loadLinesInto_lines` — a file of content lines and its hash loads line by line;
* `inputMscBalancesString_balancesText`, `inputFrozenStateString_frozenLine`,
  `inputGlobalsStateString_globalsLine`, `inputMpCrowdsaleString_crowdLine` — each reader reads
  back the line its writer wrote;
* `money_loadedTally` — the balances file credits every address its balance, and nothing else;
* `loadStateFiles_writeStateFile` — **the state files of a block round trip**: loaded into any
  state, the files written at a state the files can hold (`Storable`) succeed, and restore its
  balances, crowdsales, frozen pairs and property counters; the reserves come back as zero.
-/
import WormholeCore.Persist
import WormholeCore.Amount
import WormholeCore.Lib.Hex

namespace WormholeCore

open Lib Lib.Decimal

/-! ## Numbers and hashes as text -/

section Reading

variable (boost : Boost)

/-- `boost::lexical_cast<uint32_t>`, and `<unsigned int>`. -/
def lexicalCastUInt32 : List Char → Option Nat := boost.lexicalCastUnsigned 32

/-- `boost::lexical_cast<uint64_t>`. -/
def lexicalCastUInt64 : List Char → Option Nat := boost.lexicalCastUnsigned 64

end Reading

/-- A cast that throws `boost::bad_lexical_cast`, which nothing on the way catches. -/
def castOrThrow {α : Type} : Option α → Except String α
  | some a => pure a
  | none => throw "boost::bad_lexical_cast"

/-- `uint256S(str)`: `SetHex` into the 32 bytes of a `uint256`, whose value reads them least
significant first. -/
def uint256S (str : String) : Uint256 := Bytes.leValue (Hex.setHex 32 str.toList)

section Reading

variable (boost : Boost)

/-- `boost::split(out, s, boost::is_any_of(seps), boost::token_compress_on)`. -/
def splitOnAny (seps : List Char) (s : String) : List String :=
  (boost.split (fun x => seps.contains x) s.toList).map String.ofList

end Reading

/-! ## The balances file -/

/-- A record `write_msc_balances` skips: the four counters it writes are zero ("we don't allow 0
balances to read in, so if we don't write them it makes things match up better"). -/
def zeroRecord (t : CMPTally) (propertyId : PropertyId) : Bool :=
  t.getMoney propertyId .balance == 0 && t.getMoney propertyId .sellofferReserve == 0 &&
    t.getMoney propertyId .acceptReserve == 0 && t.getMoney propertyId .metadexReserve == 0

/-- The properties `write_msc_balances` writes for a tally: `init()`/`next()` walk the keys in
order up to the first `0`, and zero records are skipped. -/
def writtenProperties (t : CMPTally) : List PropertyId :=
  (t.mpToken.keys.takeWhile (· ≠ 0)).filter fun p => !zeroRecord t p

/-- The piece of one property, `"%d:%d,%d,%d,%d;"`. -/
def balancePiece (t : CMPTally) (propertyId : PropertyId) : String :=
  printD propertyId ++ ":" ++ printD (t.getMoney propertyId .balance) ++ "," ++
    printD (t.getMoney propertyId .sellofferReserve) ++ "," ++
    printD (t.getMoney propertyId .acceptReserve) ++ "," ++
    printD (t.getMoney propertyId .metadexReserve) ++ ";"

/-- The text of the line of one address: `address=` and its pieces. -/
def balancesText (address : Address) (t : CMPTally) : String :=
  address ++ "=" ++ String.join ((writtenProperties t).map (balancePiece t))

/-- The line of one address; none for an `emptyWallet`, one without a written property. -/
def balancesLine (address : Address) (t : CMPTally) : Option String :=
  if writtenProperties t = [] then none else some (balancesText address t)

/-- **`write_msc_balances`**: one line per address with a written property. The source walks an
`unordered_map`; the model walks the map in its order, on which no reader depends. -/
def writeMscBalances (m : TallyMap) : List String := m.entries.filterMap fun e => balancesLine e.1 e.2

section Reading

variable (boost : Boost)

/-- The loop of `input_msc_balances_string` over the pieces after `=`: an empty piece is skipped;
a piece that does not split into an identifier and four counters refuses the line; a non-zero
balance is credited with `update_tally_map`, whose result is not looked at. The reserves are
read by nobody ("change_001"). -/
def inputBalancePieces (strAddress : Address) :
    List String → OmniState → Except String (Int × OmniState)
  | [], s => pure (0, s)
  | piece :: rest, s =>
    if piece.isEmpty then inputBalancePieces strAddress rest s
    else
      let curProperty := splitOn boost ':' piece
      if curProperty.length ≠ 2 then pure (-1, s)
      else
        let curBalance := splitOn boost ',' (curProperty.getD 1 "")
        if curBalance.length ≠ 4 then pure (-1, s)
        else do
          let propertyId ← castOrThrow (lexicalCastUInt32 boost (curProperty.getD 0 "").toList)
          let balance ← castOrThrow (boost.lexicalCastInt64 (curBalance.getD 0 "").toList)
          if balance ≠ 0 then
            let (_, tally) ← updateTallyMap s.frozen s.tally strAddress propertyId balance .balance
            inputBalancePieces strAddress rest { s with tally := tally }
          else inputBalancePieces strAddress rest s

/-- **`input_msc_balances_string(line)`**: `address=pieces`. -/
def inputMscBalancesString (line : String) (s : OmniState) : Except String (Int × OmniState) :=
  let addrData := splitOn boost '=' line
  if addrData.length ≠ 2 then pure (-1, s)
  else inputBalancePieces boost (addrData.getD 0 "") (splitOn boost ';' (addrData.getD 1 "")) s

end Reading

/-! ## The globals file -/

/-- **`write_globals_state`**: `exodus_prev`, the two property counters and the next ERC721
property, `"%d,%d,%d,%s"`. Nothing in this fork sets `exodus_prev` but `clear_all_state`, to `0`,
and this file's reader (the vesting that moved it is compiled out), so the model writes `0`. -/
def globalsLine (s : OmniState) : String :=
  printD 0 ++ "," ++ printD (s.sps.peekNextSPID omniPropertyWhc) ++ "," ++
    printD (s.sps.peekNextSPID omniPropertyTwhc) ++ "," ++ uint256ToString s.erc721sps.nextErc721spid

/-- **`input_globals_state_string(line)`**: four fields split at blanks, `,` and `=`; the counters
go to `CMPSPInfo::init` and the ERC721 property to `CMPSPERC721Info::init`. -/
def inputGlobalsStateString (boost : Boost) (line : String) (s : OmniState) :
    Except String (Int × OmniState) :=
  let vstr := splitOnAny boost [' ', ',', '='] line
  if vstr.length ≠ 4 then pure (-1, s)
  else do
    -- `exodus_prev`, which the model does not keep
    let _ ← castOrThrow (lexicalCastUInt64 boost (vstr.getD 0 "").toList)
    let nextSPID ← castOrThrow (lexicalCastUInt32 boost (vstr.getD 1 "").toList)
    let nextTestSPID ← castOrThrow (lexicalCastUInt32 boost (vstr.getD 2 "").toList)
    let propertyID := uint256S (vstr.getD 3 "")
    pure (0, { s with sps := s.sps.init nextSPID nextTestSPID,
                      erc721sps := s.erc721sps.init propertyID })

/-! ## The crowdsales file -/

/-- The values of one purchase, `%d` each, separated by `;`. -/
def joinValues (vals : List Int) : String := String.intercalate ";" (vals.map printD)

/-- **`CMPCrowd::saveCrowdSale`**: `"%s,%d,%d,%d,%d,%d,%d,%d,%d"` of the address and the crowdsale's
fields, then `,txid=values` per purchase, the txid by `GetHex`. -/
def crowdLine (addr : Address) (c : CMPCrowd) : String :=
  addr ++ "," ++ printD c.propertyId ++ "," ++ printD c.nValue ++ "," ++ printD c.propertyDesired ++
    "," ++ printD c.deadline ++ "," ++ printD c.earlyBird ++ "," ++ printD c.percentage ++ "," ++
    printD c.uCreated ++ "," ++ printD c.iCreated ++
    String.join (c.txFundraiserData.entries.map fun e =>
      "," ++ uint256ToString e.1 ++ "=" ++ joinValues e.2)

/-- **`write_mp_crowdsales`**: one line per crowdsale, in the map's order. -/
def writeMpCrowdsales (crowds : CrowdMap) : List String := crowds.entries.map fun e => crowdLine e.1 e.2

section Reading

variable (boost : Boost)

/-- The purchases of `input_mp_crowdsale_string`, after the nine fields: each `txid=values` is
inserted with `insertDatabase`; a pair that does not split at `=` in two refuses the line. -/
def inputCrowdEntries : List String → CMPCrowd → Except String (Int × CMPCrowd)
  | [], c => pure (0, c)
  | entry :: rest, c =>
    let entryData := splitOn boost '=' entry
    if entryData.length ≠ 2 then pure (-1, c)
    else do
      let vals ← (splitOn boost ';' (entryData.getD 1 "")).mapM fun v =>
        castOrThrow (boost.lexicalCastInt64 v.toList)
      inputCrowdEntries rest (c.insertDatabase (uint256S (entryData.getD 0 "")) vals)

/-- **`input_mp_crowdsale_string(line)`**: fields split at blanks and `,`, at least nine; the
`uint8_t` fields are read through `unsigned int`. -/
def inputMpCrowdsaleString (line : String) (s : OmniState) : Except String (Int × OmniState) :=
  let vstr := splitOnAny boost [' ', ','] line
  if vstr.length < 9 then pure (-1, s)
  else do
    let propertyId ← castOrThrow (lexicalCastUInt32 boost (vstr.getD 1 "").toList)
    let nValue ← castOrThrow (boost.lexicalCastInt64 (vstr.getD 2 "").toList)
    let propertyDesired ← castOrThrow (lexicalCastUInt32 boost (vstr.getD 3 "").toList)
    let deadline ← castOrThrow (boost.lexicalCastInt64 (vstr.getD 4 "").toList)
    let earlyBird ← castOrThrow (lexicalCastUInt32 boost (vstr.getD 5 "").toList)
    let percentage ← castOrThrow (lexicalCastUInt32 boost (vstr.getD 6 "").toList)
    let uCreated ← castOrThrow (boost.lexicalCastInt64 (vstr.getD 7 "").toList)
    let iCreated ← castOrThrow (boost.lexicalCastInt64 (vstr.getD 8 "").toList)
    let newCrowdsale : CMPCrowd := ⟨propertyId, nValue, propertyDesired, deadline, earlyBird % 256,
      percentage % 256, uCreated, iCreated, OrdMap.empty⟩
    let (r, newCrowdsale) ← inputCrowdEntries boost (vstr.drop 9) newCrowdsale
    if r < 0 then pure (-1, s)
    -- `my_crowds.insert` keeps a crowdsale the address already has, and says so
    else if s.crowds.contains (vstr.getD 0 "") then pure (-1, s)
    else pure (0, { s with crowds := s.crowds.insert (vstr.getD 0 "") newCrowdsale })

end Reading

/-! ## The frozen pairs file -/

/-- The line of one frozen pair, `"%s,%d"`. -/
def frozenLine (k : Address ×ₗ PropertyId) : String := (ofLex k).1 ++ "," ++ printD (ofLex k).2

/-- **`write_mp_frozenstate`**: one line per pair, in the set's order. -/
def writeMpFrozenstate (frozen : FrozenSet) : List String := frozen.keys.map frozenLine

/-- **`input_frozen_state_string(line)`**: `address,property`, inserted into the set. -/
def inputFrozenStateString (boost : Boost) (line : String) (s : OmniState) :
    Except String (Int × OmniState) :=
  let vstr := splitOn boost ',' line
  if vstr.length ≠ 2 then pure (-1, s)
  else do
    let tokenId ← castOrThrow (lexicalCastUInt32 boost (vstr.getD 1 "").toList)
    pure (0, { s with frozen := freezeAddress s.frozen (vstr.getD 0 "") tokenId })

/-! ## Writing and loading the files of a block -/

/-- The file types of `statePrefix`, in the order `mastercore_save_state` writes them and
`load_most_relevant_state` reads them. -/
inductive FileType
  | balances
  | burnBch
  | globals
  | crowdsales
  | frozenState
deriving DecidableEq, Repr

/-- `statePrefix`'s order. -/
def fileTypes : List FileType := [.balances, .burnBch, .globals, .crowdsales, .frozenState]

namespace FileType

/-- What `msc_file_load` clears before reading a file of the type. -/
def clear : FileType → OmniState → OmniState
  | balances, s => { s with tally := OrdMap.empty }
  | burnBch, s => { s with pendingCreateWHC := [] }
  | globals, s => s
  | crowdsales, s => { s with crowds := OrdMap.empty }
  | frozenState, s => { s with frozen := OrdMap.empty }

/-- The line reader of the type; `input_mp_burn_bch` never inserts an entry (`Persist`). -/
def input (boost : Boost) : FileType → String → OmniState → Except String (Int × OmniState)
  | balances => inputMscBalancesString boost
  | burnBch => fun line s => (fun r => (r, s)) <$> inputMpBurnBch boost line
  | globals => inputGlobalsStateString boost
  | crowdsales => inputMpCrowdsaleString boost
  | frozenState => inputFrozenStateString boost

/-- The lines `write_state_file` writes for the type, before the hash. -/
def write (s : OmniState) : FileType → List String
  | balances => writeMscBalances s.tally
  | burnBch => writeWHCBurnBCH s.pendingCreateWHC
  | globals => [globalsLine s]
  | crowdsales => writeMpCrowdsales s.crowds
  | frozenState => writeMpFrozenstate s.frozen

end FileType

/-- **`write_state_file(block, what)`**: the lines, then `!` and their hash. -/
def writeStateFile (hashOf : List String → String) (s : OmniState) (what : FileType) : List String :=
  what.write s ++ ["!" ++ hashOf (what.write s)]

/-- The line loop of `msc_file_load` with `verifyHash`, for a reader that changes the state: as
`loadLines`, with the state threaded through the reader. -/
def loadLinesInto {σ : Type} (input : String → σ → Except String (Int × σ)) :
    List String → String → List String → σ → Except String (Int × String × List String × σ)
  | [], fileHash, hashed, s => pure (0, fileHash, hashed, s)
  | line :: rest, fileHash, hashed, s =>
    match line.toList with
    | [] => loadLinesInto input rest fileHash hashed s
    | '#' :: _ => loadLinesInto input rest fileHash hashed s
    | cs =>
      let line := String.ofList (cs.filter fun c => c != '\r')
      match line.toList with
      | '!' :: h => loadLinesInto input rest (String.ofList h) hashed s
      | _ => do
        let (r, s) ← input line s
        if r < 0 then pure (-1, fileHash, hashed ++ [line], s)
        else loadLinesInto input rest fileHash (hashed ++ [line]) s

/-- **`msc_file_load(filename, what, true)`**: clear what the type holds, read the lines, and check
the hash of the lines read against the one the file records (`iequals` of the text `ToString`
wrote with the text it reads back). What the lines loaded stays when the check fails. -/
def mscFileLoadInto (boost : Boost) (hashOf : List String → String) (what : FileType)
    (lines : List String) (s : OmniState) : Except String (Int × OmniState) := do
  let (res, fileHash, hashed, s) ← loadLinesInto (what.input boost) lines "" [] (what.clear s)
  if res = 0 ∧ hashOf hashed ≠ fileHash then pure (-1, s) else pure (res, s)

/-- **The files of one block in `load_most_relevant_state`**: `success` is the result of the last
file loaded, and the loop stops at the first file that fails. -/
def loadStateFiles (boost : Boost) (hashOf : List String → String) (files : FileType → List String) :
    List FileType → Int → OmniState → Except String (Int × OmniState)
  | [], success, s => pure (success, s)
  | what :: rest, _, s => do
    let (success, s) ← mscFileLoadInto boost hashOf what (files what) s
    if success < 0 then pure (success, s) else loadStateFiles boost hashOf files rest success s

/-! ## Reading numbers and hashes back -/

/-- `%d` of a natural number is its decimal digits. -/
theorem toList_printD_ofNat (n : Nat) : (printD n).toList = Nat.toDigits 10 n := by
  simp [printD, toString, Int.repr, Nat.repr]

/-- **A natural number written with `%d` casts back** to an unsigned type it fits. -/
theorem lexicalCastUnsigned_printD {boost : Boost} (hcast : boost.CastDocumented) (bits : Nat)
    {n : Nat} (h : n < 2 ^ bits) : boost.lexicalCastUnsigned bits (printD n).toList = some n := by
  rw [toList_printD_ofNat, hcast.unsigned_numeral bits _ (isNumeral_toDigits n)
    (by rw [value_toDigits]; exact h), value_toDigits]

/-- **An integer written with `%d` casts back** to `int64_t` within its range. -/
theorem lexicalCastInt64_printD {boost : Boost} (hcast : boost.CastDocumented) {n : Int}
    (hlo : int64Min ≤ n) (hhi : n ≤ int64Max) : boost.lexicalCastInt64 (printD n).toList = some n := by
  cases n with
  | ofNat m =>
    have hm : ((value (Nat.toDigits 10 m) : Nat) : Int) ≤ int64Max := by
      rw [value_toDigits]
      exact hhi
    rw [Int.ofNat_eq_natCast, toList_printD_ofNat, hcast.int64_numeral _ (isNumeral_toDigits m) hm,
      value_toDigits]
  | negSucc m =>
    -- a minus sign, then the digits of `m + 1`
    have hm : value (Nat.toDigits 10 (m + 1)) ≤ 2 ^ 63 := by
      rw [value_toDigits]
      unfold int64Min at hlo
      omega
    have hchars : (printD (Int.negSucc m)).toList = '-' :: Nat.toDigits 10 (m + 1) := by
      simp [printD, toString, Int.repr, Nat.repr]
    rw [hchars, hcast.int64_neg _ (isNumeral_toDigits _) hm, value_toDigits]
    rfl

/-- The sixteen digits `GetHex` writes: none is a blank or an `x` of either case, and each reads
back as its value. -/
theorem digitChar_hex : ∀ d < 16, Hex.isSpace (Nat.digitChar d) = false ∧
    (Nat.digitChar d).toLower ≠ 'x' ∧ Hex.hexDigit (Nat.digitChar d) = some d := by
  decide

@[simp] theorem length_hexDigits (width n : Nat) : (hexDigits width n).length = width := by
  induction width generalizing n with
  | zero => rfl
  | succ w ih => simp [hexDigits, ih]

/-- The digits `GetHex` writes are the low digits, most significant first. -/
theorem filterMap_hexDigit_hexDigits (width n : Nat) :
    (hexDigits width n).filterMap Hex.hexDigit = (Hex.lowDigits width n).reverse := by
  induction width generalizing n with
  | zero => rfl
  | succ w ih =>
    rw [hexDigits, List.filterMap_append, ih, Hex.lowDigits, List.reverse_cons,
      List.filterMap_cons, (digitChar_hex _ (Nat.mod_lt n (by decide))).2.2, List.filterMap_nil]

/-- **A hash written with `GetHex` reads back with `uint256S`.** -/
theorem uint256S_uint256ToString {n : Uint256} (h : n < 2 ^ 256) :
    uint256S (uint256ToString n) = n := by
  -- the text starts with two digits, the second of which is no `x`
  obtain ⟨c₀, c₁, rest, hcs⟩ : ∃ c₀ c₁ rest, hexDigits 64 n = c₀ :: c₁ :: rest := by
    have hlen := length_hexDigits 64 n
    rcases hd : hexDigits 64 n with _ | ⟨c₀, _ | ⟨c₁, rest⟩⟩
    · rw [hd] at hlen
      cases hlen
    · rw [hd] at hlen
      cases hlen
    · exact ⟨c₀, c₁, rest, rfl⟩
  have hdigit : ∀ c ∈ hexDigits 64 n, ∃ d < 16, c = Nat.digitChar d := fun _ hc => mem_hexDigits hc
  obtain ⟨d₀, hd₀, rfl⟩ := hdigit c₀ (by rw [hcs]; exact List.mem_cons_self)
  obtain ⟨d₁, hd₁, rfl⟩ := hdigit c₁ (by rw [hcs]; exact List.mem_cons_of_mem _ List.mem_cons_self)
  have htake : (hexDigits 64 n).takeWhile (fun c => (Hex.hexDigit c).isSome) = hexDigits 64 n := by
    rw [List.takeWhile_eq_self_iff]
    intro c hc
    obtain ⟨d, hd, rfl⟩ := hdigit c hc
    rw [(digitChar_hex d hd).2.2]
    rfl
  -- the digits fill the 32 bytes with the little-endian bytes of `n`
  have hread : Bytes.leValue (Hex.setHexBytes 32 (((hexDigits 64 n).takeWhile
      fun c => (Hex.hexDigit c).isSome).filterMap Hex.hexDigit).reverse) = n := by
    rw [htake, filterMap_hexDigit_hexDigits, List.reverse_reverse,
      show (64 : Nat) = 2 * 32 from rfl, Hex.setHexBytes_lowDigits, Bytes.leValue_leBytes]
    exact Nat.mod_eq_of_lt (by simpa using h)
  unfold uint256S Hex.setHex
  rw [uint256ToString, String.toList_ofList, hcs,
    List.dropWhile_cons_of_neg (by rw [(digitChar_hex d₀ hd₀).1]; exact Bool.false_ne_true)]
  dsimp only
  -- a leading `0x` would be skipped; the second digit is no `x`
  split
  next x rest' heq =>
    obtain ⟨-, rfl, -⟩ : Nat.digitChar d₀ = '0' ∧ Nat.digitChar d₁ = x ∧ rest = rest' := by
      simpa using heq
    rw [if_neg (digitChar_hex d₁ hd₁).2.1, ← hcs]
    exact hread
  next =>
    rw [← hcs]
    exact hread

/-! ## Loading a file line by line -/

/-- A line `msc_file_load` hands to its reader as it is: not empty, not a comment, not the hash,
and without `\r`. -/
def ContentLine (line : String) : Prop :=
  (∃ c cs, line.toList = c :: cs ∧ c ≠ '#' ∧ c ≠ '!') ∧ ∀ x ∈ line.toList, x ≠ '\r'

section Loading

variable {σ : Type} {input : String → σ → Except String (Int × σ)}

/-- A content line goes to the reader. -/
theorem loadLinesInto_content {line : String} (hline : ContentLine line) (rest : List String)
    (fileHash : String) (hashed : List String) (s : σ) :
    loadLinesInto input (line :: rest) fileHash hashed s = (do
      let (r, s) ← input line s
      if r < 0 then pure (-1, fileHash, hashed ++ [line], s)
      else loadLinesInto input rest fileHash (hashed ++ [line]) s) := by
  obtain ⟨⟨c, cs, hcs, hhash, hbang⟩, hcr⟩ := hline
  have hfilter : line.toList.filter (fun x => x != '\r') = line.toList := by
    rw [List.filter_eq_self]
    intro x hx
    simpa using hcr x hx
  rw [loadLinesInto]
  split
  next h =>
    rw [hcs] at h
    cases h
  next h =>
    rw [hcs] at h
    cases h
    exact absurd rfl hhash
  next =>
    simp only [hfilter, String.ofList_toList]
    split
    next h =>
      rw [hcs] at h
      cases h
      exact absurd rfl hbang
    next => rfl

/-- The hash line records the hash, without its `\r`s. -/
theorem loadLinesInto_hash {h : String} (hh : ∀ x ∈ h.toList, x ≠ '\r') (fileHash : String)
    (hashed : List String) (s : σ) :
    loadLinesInto input ["!" ++ h] fileHash hashed s = .ok (0, h, hashed, s) := by
  have hfilter : ('!' :: h.toList).filter (fun x => x != '\r') = '!' :: h.toList := by
    rw [List.filter_eq_self]
    intro x hx
    rcases List.mem_cons.mp hx with rfl | hx
    · rfl
    · simpa using hh x hx
  have hchars : ("!" ++ h).toList = '!' :: h.toList := by simp
  rw [loadLinesInto, hchars]
  split
  next heq => exact absurd heq (List.cons_ne_nil _ _)
  next heq => exact absurd (List.cons.inj heq).1 (by decide)
  next =>
    rw [hfilter]
    dsimp only
    rw [String.toList_ofList]
    split
    next h' heq =>
      rw [← (List.cons.inj heq).2, String.ofList_toList, loadLinesInto]
      rfl
    next hne => exact absurd rfl (hne h.toList)

/-- **A file of content lines and its hash loads line by line**: when every line is a content line
and the reader reads each one, in the state the lines before it left, with result `0`, the file
loads with result `0`, records its hash, and hashes every line. -/
theorem loadLinesInto_lines {β : Type} (line : β → String) (step : σ → β → σ) {h : String}
    (hh : ∀ x ∈ h.toList, x ≠ '\r') :
    ∀ (xs : List β) (s : σ) (fileHash : String) (hashed : List String),
      (∀ x ∈ xs, ContentLine (line x)) →
      (∀ pre x post, xs = pre ++ x :: post →
        input (line x) (pre.foldl step s) = .ok (0, step (pre.foldl step s) x)) →
      loadLinesInto input (xs.map line ++ ["!" ++ h]) fileHash hashed s =
        .ok (0, h, hashed ++ xs.map line, xs.foldl step s)
  | [], s, fileHash, hashed, _, _ => by
    rw [List.map_nil, List.nil_append, loadLinesInto_hash hh, List.append_nil]
    rfl
  | x :: xs, s, fileHash, hashed, hc, hin => by
    -- the first line is read in the start state, the rest from the state it left
    have hfirst : input (line x) s = .ok (0, step s x) := hin [] x xs rfl
    have hrest : ∀ pre y post, xs = pre ++ y :: post →
        input (line y) (pre.foldl step (step s x)) = .ok (0, step (pre.foldl step (step s x)) y) :=
      fun pre y post hxs => hin (x :: pre) y post (by rw [hxs, List.cons_append])
    rw [List.map_cons, List.cons_append, loadLinesInto_content (hc x List.mem_cons_self), hfirst]
    rw [Except.ok_bind]
    dsimp only
    rw [if_neg (Int.lt_irrefl 0), loadLinesInto_lines line step hh xs (step s x) fileHash (hashed ++ [line x])
      (fun y hy => hc y (List.mem_cons_of_mem x hy)) hrest, List.append_assoc, List.singleton_append,
      List.foldl_cons]

end Loading

/-- **A written file loads**: a file of content lines with their hash, each read with result `0`,
loads with result `0` into the state the lines leave, from the one its type clears. -/
theorem mscFileLoadInto_lines (boost : Boost) (hashOf : List String → String) (what : FileType)
    {β : Type}
    (line : β → String) (step : OmniState → β → OmniState) (xs : List β) (s : OmniState)
    (hh : ∀ x ∈ (hashOf (xs.map line)).toList, x ≠ '\r') (hc : ∀ x ∈ xs, ContentLine (line x))
    (hin : ∀ pre x post, xs = pre ++ x :: post →
      what.input boost (line x) (pre.foldl step (what.clear s)) =
        .ok (0, step (pre.foldl step (what.clear s)) x)) :
    mscFileLoadInto boost hashOf what (xs.map line ++ ["!" ++ hashOf (xs.map line)]) s =
      .ok (0, xs.foldl step (what.clear s)) := by
  rw [mscFileLoadInto, loadLinesInto_lines line step hh xs _ "" [] hc hin, List.nil_append]
  simp

/-! ## The characters of the files -/

/-- An address as the node encodes it, a CashAddr (a prefix, `:` and the payload, all letters and
digits): it holds no separator of the files and no `\r`, and a line that starts with it is
neither a comment nor a hash. -/
def cashAddrText (a : Address) : Bool := a.toList.all fun c => c.isAlphanum || c == ':'

theorem addrChar {a : Address} (ha : cashAddrText a = true) {c : Char} (hc : c ∈ a.toList) :
    c.isAlphanum = true ∨ c = ':' := by
  have h := List.all_eq_true.mp ha c hc
  simpa using h

/-- A character of a number `%d` writes: a digit or a minus sign. -/
theorem numChar_printD {i : Int} {c : Char} (hc : c ∈ (printD i).toList) :
    c.isAlphanum = true ∨ c = '-' := by
  rcases mem_printD hc with h | h
  · exact .inr h
  · left
    simp [Char.isAlphanum, h]

/-- A character of a hash `GetHex` writes: a digit or a letter. -/
theorem numChar_hexDigits {width n : Nat} {c : Char} (hc : c ∈ hexDigits width n) :
    c.isAlphanum = true ∨ c = '-' := by
  obtain ⟨d, hd, rfl⟩ := mem_hexDigits hc
  have hall : ∀ d < 16, (Nat.digitChar d).isAlphanum = true := by decide
  exact .inl (hall d hd)

/-- No separator of the files is a letter, a digit or a minus sign. -/
theorem num_ne_sep {c : Char} (hc : c.isAlphanum = true ∨ c = '-') {x : Char}
    (hx : x.isAlphanum = false) (hx' : x ≠ '-') : c ≠ x := by
  rintro rfl
  rcases hc with h | rfl
  · rw [hx] at h
    cases h
  · exact hx' rfl

/-- No separator of the files but `:` is a letter or a digit. -/
theorem addr_ne_sep {c : Char} (hc : c.isAlphanum = true ∨ c = ':') {x : Char}
    (hx : x.isAlphanum = false) (hx' : x ≠ ':') : c ≠ x := by
  rintro rfl
  rcases hc with h | rfl
  · rw [hx] at h
    cases h
  · exact hx' rfl

/-- Splitting at one separator, stretch by stretch. -/
theorem beq_false_of_ne {l : List Char} {x : Char} (h : ∀ c ∈ l, c ≠ x) :
    ∀ c ∈ l, (c == x) = false :=
  fun c hc => beq_eq_false_iff_ne.mpr (h c hc)

/-- Splitting at any of several separators, stretch by stretch. -/
theorem contains_false_of_ne {l seps : List Char} (h : ∀ c ∈ l, ∀ x ∈ seps, c ≠ x) :
    ∀ c ∈ l, seps.contains c = false := by
  intro c hc
  cases hcon : seps.contains c with
  | false => rfl
  | true => exact absurd rfl (h c hc c (List.contains_iff_mem.mp hcon))

/-- The first character of a non-empty stretch. -/
theorem head_of_all {l : List Char} {sep : Char → Bool} (h : ∀ c ∈ l, sep c = false) :
    ∀ y ∈ l.head?, sep y = false :=
  fun y hy => h y (List.mem_of_mem_head? hy)

/-! ## Reading back the frozen pairs and the globals -/

/-- **`input_frozen_state_string` reads back the line of a pair.** -/
theorem inputFrozenStateString_frozenLine {boost : Boost} (hsplit : Split.TokenCompress boost.split) (hcast : boost.CastDocumented)
    {a : Address} (ha : cashAddrText a = true) {p : PropertyId} (hp : p < 2 ^ 32) (s : OmniState) :
    inputFrozenStateString boost (frozenLine (toLex (a, p))) s =
      .ok (0, { s with frozen := freezeAddress s.frozen a p }) := by
  have hchars : (frozenLine (toLex (a, p))).toList = a.toList ++ ',' :: (printD p).toList := by
    simp [frozenLine]
  have haddr : ∀ c ∈ a.toList, (c == ',') = false :=
    beq_false_of_ne fun c hc => addr_ne_sep (addrChar ha hc) (by decide) (by decide)
  have hnum : ∀ c ∈ (printD p).toList, (c == ',') = false :=
    beq_false_of_ne fun c hc => num_ne_sep (numChar_printD hc) (by decide) (by decide)
  unfold inputFrozenStateString splitOn
  rw [hchars, hsplit.append_sep haddr (by decide) (head_of_all hnum),
    hsplit.of_forall_not hnum]
  simp only [List.map_cons, List.map_nil, List.length_cons, List.length_nil, String.ofList_toList,
    List.getD_cons_succ, List.getD_cons_zero]
  rw [if_neg (by decide)]
  show (castOrThrow (boost.lexicalCastUnsigned 32 (printD p).toList) >>= _) = _
  rw [lexicalCastUnsigned_printD hcast 32 hp]
  rfl

@[simp] theorem peekNextSPID_twhc (db : CMPSPInfo) :
    db.peekNextSPID omniPropertyTwhc = db.nextTestSpid := by
  simp [CMPSPInfo.peekNextSPID, omniPropertyWhc, omniPropertyTwhc]

theorem toList_globalsLine (s : OmniState) :
    (globalsLine s).toList =
      [(printD 0).toList, (printD s.sps.nextSpid).toList, (printD s.sps.nextTestSpid).toList].flatMap
        (· ++ [',']) ++ hexDigits 64 s.erc721sps.nextErc721spid := by
  simp [globalsLine, CMPSPInfo.peekNextSPID_whc, uint256ToString]

/-- **`input_globals_state_string` reads back the globals line**: the counters and the next ERC721
property, within the widths of their casts. -/
theorem inputGlobalsStateString_globalsLine {boost : Boost} (hsplit : Split.TokenCompress boost.split) (hcast : boost.CastDocumented)
    {s : OmniState} (hspid : s.sps.nextSpid < 2 ^ 32)
    (htest : s.sps.nextTestSpid < 2 ^ 32) (herc : s.erc721sps.nextErc721spid < 2 ^ 256)
    (s₀ : OmniState) :
    inputGlobalsStateString boost (globalsLine s) s₀ =
      .ok (0, { s₀ with sps := s₀.sps.init s.sps.nextSpid s.sps.nextTestSpid,
                        erc721sps := s₀.erc721sps.init s.erc721sps.nextErc721spid }) := by
  have hsep : ∀ x ∈ [' ', ',', '='], x.isAlphanum = false ∧ x ≠ '-' := by
    intro x hx
    simp only [List.mem_cons, List.not_mem_nil, or_false] at hx
    rcases hx with rfl | rfl | rfl <;> decide
  have hnum : ∀ i : Int, ∀ c ∈ (printD i).toList, [' ', ',', '='].contains c = false :=
    fun i => contains_false_of_ne fun c hc x hx =>
      num_ne_sep (numChar_printD hc) (hsep x hx).1 (hsep x hx).2
  have hhex : ∀ c ∈ hexDigits 64 s.erc721sps.nextErc721spid, [' ', ',', '='].contains c = false :=
    contains_false_of_ne fun c hc x hx =>
      num_ne_sep (numChar_hexDigits hc) (hsep x hx).1 (hsep x hx).2
  have hfields : ∀ f ∈ [(printD 0).toList, (printD s.sps.nextSpid).toList,
      (printD s.sps.nextTestSpid).toList], f ≠ [] ∧ ∀ x ∈ f, [' ', ',', '='].contains x = false := by
    intro f hf
    simp only [List.mem_cons, List.not_mem_nil, or_false] at hf
    rcases hf with rfl | rfl | rfl
    all_goals exact ⟨printD_ne_nil _, hnum _⟩
  unfold inputGlobalsStateString splitOnAny
  rw [toList_globalsLine, hsplit.sepBy hfields (by decide) (head_of_all hhex),
    hsplit.of_forall_not hhex]
  simp only [List.cons_append, List.nil_append, List.map_cons, List.map_nil, List.length_cons,
    List.length_nil, String.ofList_toList, List.getD_cons_succ, List.getD_cons_zero]
  rw [if_neg (by decide)]
  show (castOrThrow (boost.lexicalCastUnsigned 64 (printD ((0 : Nat) : Int)).toList) >>= _) = _
  rw [lexicalCastUnsigned_printD hcast 64 (by decide : 0 < 2 ^ 64)]
  show (castOrThrow (boost.lexicalCastUnsigned 32 (printD s.sps.nextSpid).toList) >>= _) = _
  rw [lexicalCastUnsigned_printD hcast 32 hspid]
  show (castOrThrow (boost.lexicalCastUnsigned 32 (printD s.sps.nextTestSpid).toList) >>= _) = _
  rw [lexicalCastUnsigned_printD hcast 32 htest]
  have hhash : uint256S (String.ofList (hexDigits 64 s.erc721sps.nextErc721spid)) =
      s.erc721sps.nextErc721spid := uint256S_uint256ToString herc
  rw [hhash]
  rfl

/-! ## Reading back the balances -/

/-- The characters of a piece before its `;`: the identifier, `:`, and the four counters
separated by `,`. -/
def pieceChars (t : CMPTally) (p : PropertyId) : List Char :=
  (printD p).toList ++ ':' :: ([(printD (t.getMoney p .balance)).toList,
    (printD (t.getMoney p .sellofferReserve)).toList,
    (printD (t.getMoney p .acceptReserve)).toList].flatMap (· ++ [',']) ++
    (printD (t.getMoney p .metadexReserve)).toList)

theorem toList_balancePiece (t : CMPTally) (p : PropertyId) :
    (balancePiece t p).toList = pieceChars t p ++ [';'] := by
  simp [balancePiece, pieceChars]

theorem toList_balancesText (a : Address) (t : CMPTally) :
    (balancesText a t).toList =
      a.toList ++ '=' :: (writtenProperties t).flatMap (fun p => pieceChars t p ++ [';']) := by
  simp only [balancesText, String.toList_append, String.toList_join, List.flatMap_map,
    toList_balancePiece]
  simp

/-- A character of a piece: a letter, a digit, a minus sign, `:` or `,`. -/
theorem mem_pieceChars {t : CMPTally} {p : PropertyId} {c : Char} (hc : c ∈ pieceChars t p) :
    (c.isAlphanum = true ∨ c = '-') ∨ c = ':' ∨ c = ',' := by
  simp only [pieceChars, List.mem_append, List.mem_cons, List.flatMap_cons, List.flatMap_nil,
    List.append_nil, List.not_mem_nil, or_false, or_assoc] at hc
  rcases hc with hc | rfl | hc | rfl | hc | rfl | hc | rfl | hc
  all_goals first
    | exact .inl (numChar_printD hc)
    | exact .inr (.inl rfl)
    | exact .inr (.inr rfl)

theorem pieceChars_ne_nil (t : CMPTally) (p : PropertyId) : pieceChars t p ≠ [] := by
  simp [pieceChars]

/-- A piece holds neither `;` nor `=`. -/
theorem pieceChars_ne {t : CMPTally} {p : PropertyId} {x : Char} (hx : x = ';' ∨ x = '=') :
    ∀ c ∈ pieceChars t p, c ≠ x := by
  intro c hc
  rcases mem_pieceChars hc with hnum | rfl | rfl
  · exact num_ne_sep hnum (by rcases hx with rfl | rfl <;> decide) (by rcases hx with rfl | rfl <;> decide)
  · rcases hx with rfl | rfl <;> decide
  · rcases hx with rfl | rfl <;> decide

/-- **A piece reads back**: its identifier and balance cast back, and a non-zero balance is handed
to `update_tally_map`. -/
theorem inputBalancePieces_piece {boost : Boost} (hsplit : Split.TokenCompress boost.split) (hcast : boost.CastDocumented)
    (a : Address) (t : CMPTally) {p : PropertyId} (hp : p < 2 ^ 32)
    (hb : int64Min ≤ t.getMoney p .balance ∧ t.getMoney p .balance ≤ int64Max) (rest : List String)
    (s : OmniState) :
    inputBalancePieces boost a (String.ofList (pieceChars t p) :: rest) s =
      if t.getMoney p .balance ≠ 0 then (do
        let (_, tally) ← updateTallyMap s.frozen s.tally a p (t.getMoney p .balance) .balance
        inputBalancePieces boost a rest { s with tally := tally })
      else inputBalancePieces boost a rest s := by
  have hnum : ∀ (i : Int) (x : Char), x.isAlphanum = false → x ≠ '-' →
      ∀ c ∈ (printD i).toList, (c == x) = false :=
    fun i x hx hx' => beq_false_of_ne fun c hc => num_ne_sep (numChar_printD hc) hx hx'
  have hcounters : ∀ f ∈ [(printD (t.getMoney p .balance)).toList,
      (printD (t.getMoney p .sellofferReserve)).toList, (printD (t.getMoney p .acceptReserve)).toList],
      f ≠ [] ∧ ∀ x ∈ f, (x == ',') = false := by
    intro f hf
    simp only [List.mem_cons, List.not_mem_nil, or_false] at hf
    rcases hf with rfl | rfl | rfl
    all_goals exact ⟨printD_ne_nil _, hnum _ ',' (by decide) (by decide)⟩
  -- the counters after `:`, which start with the balance's first character
  have hafter : ∀ c ∈ [(printD (t.getMoney p .balance)).toList,
      (printD (t.getMoney p .sellofferReserve)).toList, (printD (t.getMoney p .acceptReserve)).toList].flatMap
        (· ++ [',']) ++ (printD (t.getMoney p .metadexReserve)).toList, (c == ':') = false := by
    intro c hc
    simp only [List.flatMap_cons, List.flatMap_nil, List.append_nil, List.mem_append,
      List.mem_singleton] at hc
    rcases hc with ((hc | rfl) | (hc | rfl) | (hc | rfl)) | hc
    all_goals first
      | exact hnum _ ':' (by decide) (by decide) c hc
      | rfl
  obtain ⟨b₀, bs, hbs⟩ := List.exists_cons_of_ne_nil (printD_ne_nil (t.getMoney p .balance))
  have hhead : ∀ y ∈ ([(printD (t.getMoney p .balance)).toList,
      (printD (t.getMoney p .sellofferReserve)).toList, (printD (t.getMoney p .acceptReserve)).toList].flatMap
        (· ++ [',']) ++ (printD (t.getMoney p .metadexReserve)).toList).head?, (y == ':') = false :=
    head_of_all hafter
  have hpiece : (String.ofList (pieceChars t p)).isEmpty = false := by
    simp [pieceChars]
  rw [inputBalancePieces, hpiece, if_neg Bool.false_ne_true]
  dsimp only
  unfold splitOn
  rw [String.toList_ofList, pieceChars,
    hsplit.append_sep (hnum _ ':' (by decide) (by decide)) (by decide) hhead,
    hsplit.of_forall_not hafter]
  simp only [List.map_cons, List.map_nil, List.length_cons, List.length_nil, List.getD_cons_succ,
    List.getD_cons_zero, String.toList_ofList]
  rw [if_neg (by decide), hsplit.sepBy hcounters (by decide) (head_of_all (hnum _ ',' (by decide)
    (by decide))), hsplit.of_forall_not (hnum _ ',' (by decide) (by decide))]
  simp only [List.cons_append, List.nil_append, List.map_cons, List.map_nil, List.length_cons,
    List.length_nil, List.getD_cons_zero, String.toList_ofList]
  rw [if_neg (by decide)]
  show (castOrThrow (boost.lexicalCastUnsigned 32 (printD p).toList) >>= _) = _
  rw [lexicalCastUnsigned_printD hcast 32 hp]
  show (castOrThrow (boost.lexicalCastInt64 (printD (t.getMoney p .balance)).toList) >>= _) = _
  rw [lexicalCastInt64_printD hcast hb.1 hb.2]
  rfl

/-- What `update_tally_map` stores when it credits `amount` of `p` to the balance of `who`. -/
def creditTally (m : TallyMap) (who : Address) (p : PropertyId) (amount : Int) : TallyMap :=
  m.insert who ((m.findD who {}).updateMoney p amount .balance).2

/-- The balance of one written property credited as `input_msc_balances_string` credits it: a zero
balance is skipped. -/
def creditPiece (a : Address) (t : CMPTally) (m : TallyMap) (p : PropertyId) : TallyMap :=
  if t.getMoney p .balance ≠ 0 then creditTally m a p (t.getMoney p .balance) else m

/-- The tally map after the line `write_msc_balances` wrote for `a` is read. -/
def creditBalances (m : TallyMap) (a : Address) (t : CMPTally) : TallyMap :=
  (writtenProperties t).foldl (creditPiece a t) m

/-- A balance within range credited to a counter that is still zero is accepted. -/
theorem accepts_credit {m : TallyMap} {a : Address} {p : PropertyId} {b : Int} (hb : 0 ≤ b ∧ b ≤ int64Max)
    (h0 : b ≠ 0) (hzero : m.money a p .balance = 0) : (m.findD a {}).accepts p b .balance := by
  have hcur : (m.findD a {}).getMoney p .balance = 0 := hzero
  refine CMPTally.accepts_of_range (by decide) h0 ?_ ?_
  · rw [hcur]
    unfold int64Max
    omega
  · rw [hcur]
    omega

/-- **Crediting one piece** moves the balance of `(a, p)` from zero to the written balance, and no
other counter. -/
theorem money_creditPiece {m : TallyMap} {a : Address} {t : CMPTally} {p : PropertyId}
    (hb : 0 ≤ t.getMoney p .balance ∧ t.getMoney p .balance ≤ int64Max)
    (hzero : m.money a p .balance = 0) (w : Address) (q : PropertyId) (k : TallyType) :
    (creditPiece a t m p).money w q k =
      if w = a ∧ q = p ∧ k = .balance then m.money w q k + t.getMoney p .balance
      else m.money w q k := by
  by_cases h0 : t.getMoney p .balance = 0
  · rw [creditPiece, if_neg (not_not.mpr h0), h0]
    simp
  · have hacc := accepts_credit hb h0 hzero
    rw [creditPiece, if_pos h0, creditTally, TallyMap.money_insert]
    by_cases hw : a = w
    · subst hw
      rw [if_pos rfl, updateMoney_findD_reading]
      simp [hacc]
    · rw [if_neg hw, if_neg fun h => hw h.1.symm]

/-- Crediting the pieces of `a` leaves every other address as it was. -/
theorem money_foldl_creditPiece_of_ne {a w : Address} (t : CMPTally) (h : w ≠ a) (q : PropertyId)
    (k : TallyType) :
    ∀ (ps : List PropertyId) (m : TallyMap), (ps.foldl (creditPiece a t) m).money w q k = m.money w q k
  | [], _ => rfl
  | p :: ps, m => by
    rw [List.foldl_cons, money_foldl_creditPiece_of_ne t h q k ps]
    unfold creditPiece creditTally
    split_ifs
    · rw [TallyMap.money_insert, if_neg (Ne.symm h)]
    · rfl

/-- **Crediting the pieces of a line**, each to a counter that is still zero: the balance of every
credited property is the written one, and nothing else moves. -/
theorem money_foldl_creditPiece (a : Address) (t : CMPTally) :
    ∀ (ps : List PropertyId) (m : TallyMap), ps.Nodup →
      (∀ p ∈ ps, 0 ≤ t.getMoney p .balance ∧ t.getMoney p .balance ≤ int64Max) →
      (∀ p ∈ ps, m.money a p .balance = 0) → ∀ w q k,
      (ps.foldl (creditPiece a t) m).money w q k =
        if w = a ∧ q ∈ ps ∧ k = .balance then m.money w q k + t.getMoney q .balance
        else m.money w q k
  | [], m, _, _, _, w, q, k => by simp
  | p :: ps, m, hnd, hb, hzero, w, q, k => by
    have hp : p ∉ ps := (List.nodup_cons.mp hnd).1
    -- the counters still to be credited are untouched by the first piece
    have hrest : ∀ q ∈ ps, (creditPiece a t m p).money a q .balance = 0 := by
      intro q hq
      rw [money_creditPiece (hb p List.mem_cons_self) (hzero p List.mem_cons_self),
        if_neg (by rintro ⟨-, rfl, -⟩; exact hp hq)]
      exact hzero q (List.mem_cons_of_mem p hq)
    rw [List.foldl_cons, money_foldl_creditPiece a t ps _ hnd.of_cons
      (fun q hq => hb q (List.mem_cons_of_mem p hq)) hrest,
      money_creditPiece (hb p List.mem_cons_self) (hzero p List.mem_cons_self)]
    by_cases hq : q = p
    · subst hq
      simp [hp]
    · simp [hq]

/-- **The pieces of a line read back**: every written property's balance is credited, in order, to
an address whose counters for them are still zero. The piece after the last `;` is empty. -/
theorem inputBalancePieces_pieces {boost : Boost} (hsplit : Split.TokenCompress boost.split) (hcast : boost.CastDocumented) (a : Address)
    (t : CMPTally) :
    ∀ (ps : List PropertyId) (s : OmniState), ps.Nodup →
      (∀ p ∈ ps, p < 2 ^ 32 ∧ 0 ≤ t.getMoney p .balance ∧ t.getMoney p .balance ≤ int64Max) →
      (∀ p ∈ ps, s.tally.money a p .balance = 0) →
      inputBalancePieces boost a (ps.map (fun p => String.ofList (pieceChars t p)) ++ [""]) s =
        .ok (0, { s with tally := ps.foldl (creditPiece a t) s.tally })
  | [], s, _, _, _ => rfl
  | p :: ps, s, hnd, hps, hzero => by
    obtain ⟨hp, hb⟩ := hps p List.mem_cons_self
    have hps' : ∀ q ∈ ps, q < 2 ^ 32 ∧ 0 ≤ t.getMoney q .balance ∧ t.getMoney q .balance ≤ int64Max :=
      fun q hq => hps q (List.mem_cons_of_mem p hq)
    have hrest : ∀ q ∈ ps, (creditPiece a t s.tally p).money a q .balance = 0 := by
      intro q hq
      rw [money_creditPiece hb (hzero p List.mem_cons_self),
        if_neg (by rintro ⟨-, rfl, -⟩; exact (List.nodup_cons.mp hnd).1 hq)]
      exact hzero q (List.mem_cons_of_mem p hq)
    have hmin : int64Min ≤ 0 := by decide
    rw [List.map_cons, List.cons_append,
      inputBalancePieces_piece hsplit hcast a t hp ⟨le_trans hmin hb.1, hb.2⟩, List.foldl_cons]
    by_cases h0 : t.getMoney p .balance = 0
    · -- a zero balance is skipped
      have hid : creditPiece a t s.tally p = s.tally := by rw [creditPiece, if_neg (not_not.mpr h0)]
      rw [if_neg (not_not.mpr h0), hid]
      exact inputBalancePieces_pieces hsplit hcast a t ps s hnd.of_cons hps' (hid ▸ hrest)
    · have hcredit : creditPiece a t s.tally p = creditTally s.tally a p (t.getMoney p .balance) := by
        rw [creditPiece, if_pos h0]
      rw [if_pos h0, updateTallyMap_of_accepts (accepts_credit hb h0 (hzero p List.mem_cons_self))
        fun h => absurd h.2.1 (by omega), Except.ok_bind]
      dsimp only
      rw [hcredit] at hrest ⊢
      exact inputBalancePieces_pieces hsplit hcast a t ps _ hnd.of_cons hps' hrest

theorem nodup_writtenProperties (t : CMPTally) : (writtenProperties t).Nodup :=
  ((OrdMap.nodup_keys t.mpToken).sublist (List.takeWhile_sublist _)).filter _

/-- **`input_msc_balances_string` reads back the line of an address** whose counters are still
zero: it credits the balance of every written property. -/
theorem inputMscBalancesString_balancesText {boost : Boost} (hsplit : Split.TokenCompress boost.split) (hcast : boost.CastDocumented)
    {a : Address} (ha : cashAddrText a = true) {t : CMPTally}
    (hw : ∀ p ∈ writtenProperties t,
      p < 2 ^ 32 ∧ 0 ≤ t.getMoney p .balance ∧ t.getMoney p .balance ≤ int64Max)
    (s : OmniState) (hzero : ∀ p ∈ writtenProperties t, s.tally.money a p .balance = 0) :
    inputMscBalancesString boost (balancesText a t) s =
      .ok (0, { s with tally := creditBalances s.tally a t }) := by
  have haddr : ∀ c ∈ a.toList, (c == '=') = false :=
    beq_false_of_ne fun c hc => addr_ne_sep (addrChar ha hc) (by decide) (by decide)
  have hpieces : ∀ c ∈ (writtenProperties t).flatMap (fun p => pieceChars t p ++ [';']),
      (c == '=') = false := by
    intro c hc
    simp only [List.mem_flatMap, List.mem_append, List.mem_singleton] at hc
    obtain ⟨p, -, hc | rfl⟩ := hc
    · exact beq_false_of_ne (pieceChars_ne (.inr rfl)) c hc
    · rfl
  -- the pieces split at `;`, with an empty piece after the last one
  have hpieceSplit : boost.split (fun x => x == ';')
      ((writtenProperties t).flatMap (fun p => pieceChars t p ++ [';'])) =
        (writtenProperties t).map (pieceChars t) ++ [[]] := by
    have hfs : ∀ f ∈ (writtenProperties t).map (pieceChars t), f ≠ [] ∧ ∀ x ∈ f, (x == ';') = false := by
      intro f hf
      obtain ⟨p, -, rfl⟩ := List.mem_map.mp hf
      exact ⟨pieceChars_ne_nil t p, beq_false_of_ne (pieceChars_ne (.inl rfl))⟩
    have hnil : ∀ y ∈ ([] : List Char).head?, (y == ';') = false := by simp
    -- nothing follows the last `;`: an empty piece
    have hempty : boost.split (fun x => x == ';') [] = [[]] :=
      hsplit.of_forall_not fun c hc => absurd hc List.not_mem_nil
    have h := hsplit.sepBy hfs (by decide : (';' == ';') = true) hnil
    rw [List.flatMap_map, List.append_nil, hempty] at h
    exact h
  unfold inputMscBalancesString splitOn
  rw [toList_balancesText, hsplit.append_sep haddr (by decide) (head_of_all hpieces),
    hsplit.of_forall_not hpieces]
  simp only [List.map_cons, List.map_nil, List.length_cons, List.length_nil, List.getD_cons_succ,
    List.getD_cons_zero, String.ofList_toList, String.toList_ofList]
  rw [if_neg (by decide), hpieceSplit, List.map_append, List.map_map]
  exact inputBalancePieces_pieces hsplit hcast a t _ s (nodup_writtenProperties t) hw hzero

/-! ## Reading back the balances file -/

/-- A tally map the balances file can hold: CashAddr addresses, and records of the properties
`1 … 2^32 - 1` (the `uint32_t` the reader casts to; property `0` ends `CMPTally::next`) whose
balances are within `[0, INT64_MAX]`. -/
def TallyStorable (m : TallyMap) : Prop :=
  ∀ e ∈ m.entries, cashAddrText e.1 = true ∧ ∀ p ∈ e.2.mpToken.keys,
    0 < p ∧ p < 2 ^ 32 ∧ 0 ≤ e.2.getMoney p .balance ∧ e.2.getMoney p .balance ≤ int64Max

instance (m : TallyMap) : Decidable (TallyStorable m) := by
  unfold TallyStorable; infer_instance

theorem mem_keys_of_written {t : CMPTally} {p : PropertyId} (hp : p ∈ writtenProperties t) :
    p ∈ t.mpToken.keys :=
  (List.takeWhile_sublist _).subset (List.mem_filter.mp hp).1

/-- A property the file does not write has a zero balance, when no record is for property `0`. -/
theorem balance_of_not_written {t : CMPTally} (hpos : ∀ p ∈ t.mpToken.keys, 0 < p) {q : PropertyId}
    (hq : q ∉ writtenProperties t) : t.getMoney q .balance = 0 := by
  cases hfind : t.mpToken.find? q with
  | none => simp [CMPTally.getMoney_eq, hfind, BalanceRecord.get]
  | some r =>
    have hkey : q ∈ t.mpToken.keys := List.mem_map_of_mem (OrdMap.mem_of_find? hfind)
    -- every key is below the first `0`, so only a zero record is skipped
    have htake : t.mpToken.keys.takeWhile (· ≠ 0) = t.mpToken.keys := by
      rw [List.takeWhile_eq_self_iff]
      intro p hp
      simpa using Nat.pos_iff_ne_zero.mp (hpos p hp)
    have hzero : zeroRecord t q = true := by
      by_contra h
      exact hq (List.mem_filter.mpr ⟨by rw [htake]; exact hkey, by simpa using h⟩)
    simp only [zeroRecord, Bool.and_eq_true, beq_iff_eq] at hzero
    exact hzero.1.1.1

/-- The lines of `write_msc_balances`: the line of every address with a written property. -/
theorem filterMap_balancesLine (es : List (Address × CMPTally)) :
    es.filterMap (fun e => balancesLine e.1 e.2) =
      (es.filter fun e => writtenProperties e.2 ≠ []).map fun e => balancesText e.1 e.2 := by
  induction es with
  | nil => rfl
  | cons e es ih =>
    rw [List.filterMap_cons, List.filter_cons, ih]
    by_cases h : writtenProperties e.2 = [] <;> simp [balancesLine, h]

/-- The addresses the balances file has a line for. -/
def balanceEntries (m : TallyMap) : List (Address × CMPTally) :=
  m.entries.filter fun e => writtenProperties e.2 ≠ []

theorem nodup_balanceEntries (m : TallyMap) : ((balanceEntries m).map Prod.fst).Nodup :=
  (OrdMap.nodup_keys m).sublist (List.filter_sublist.map _)

/-- The state after a line of the balances file is read. -/
def balancesStep (s : OmniState) (e : Address × CMPTally) : OmniState :=
  { s with tally := creditBalances s.tally e.1 e.2 }

/-- The tally map after lines of the balances file are read. -/
def loadedTally (es : List (Address × CMPTally)) (m : TallyMap) : TallyMap :=
  es.foldl (fun m e => creditBalances m e.1 e.2) m

theorem foldl_balancesStep (es : List (Address × CMPTally)) (s : OmniState) :
    es.foldl balancesStep s = { s with tally := loadedTally es s.tally } := by
  induction es generalizing s with
  | nil => rfl
  | cons e es ih => exact ih _

/-- Reading the lines of other addresses leaves an address as it was. -/
theorem money_loadedTally_of_not_mem {w : Address} (q : PropertyId) (k : TallyType) :
    ∀ (es : List (Address × CMPTally)) (m : TallyMap), w ∉ es.map Prod.fst →
      (loadedTally es m).money w q k = m.money w q k
  | [], _, _ => rfl
  | e :: es, m, hw => by
    have hne : w ≠ e.1 := fun h => hw (h ▸ List.mem_cons_self)
    rw [loadedTally, List.foldl_cons, ← loadedTally,
      money_loadedTally_of_not_mem q k es _ fun h => hw (List.mem_cons_of_mem _ h)]
    exact money_foldl_creditPiece_of_ne e.2 hne q k _ m

@[simp] theorem money_empty (w : Address) (q : PropertyId) (k : TallyType) :
    TallyMap.money OrdMap.empty w q k = 0 := by
  simp [TallyMap.money]

/-- **The balances file reads back the balances.** The lines read from an empty tally map give
every address the balance it had and zero reserves. -/
theorem money_loadedTally {m : TallyMap} (hm : TallyStorable m) (w : Address) (q : PropertyId)
    (k : TallyType) :
    (loadedTally (balanceEntries m) OrdMap.empty).money w q k =
      if k = .balance then m.money w q .balance else 0 := by
  have hpos : ∀ e ∈ m.entries, ∀ p ∈ e.2.mpToken.keys, 0 < p := fun e he p hp => ((hm e he).2 p hp).1
  by_cases hw : w ∈ (balanceEntries m).map Prod.fst
  · -- the line of `w`, between the lines before it and after it
    obtain ⟨e, he, rfl⟩ := List.mem_map.mp hw
    obtain ⟨pre, post, hsplit⟩ := List.append_of_mem he
    have hnd := nodup_balanceEntries m
    rw [hsplit, List.map_append, List.map_cons, List.nodup_append] at hnd
    have hpre : e.1 ∉ pre.map Prod.fst := fun h => hnd.2.2 _ h _ List.mem_cons_self rfl
    have hpost : e.1 ∉ post.map Prod.fst := (List.nodup_cons.mp hnd.2.1).1
    have hmem : e ∈ m.entries := (List.mem_filter.mp he).1
    have hzero : ∀ p ∈ writtenProperties e.2, (loadedTally pre OrdMap.empty).money e.1 p .balance = 0 :=
      fun p _ => by rw [money_loadedTally_of_not_mem p .balance pre _ hpre, money_empty]
    have hrange : ∀ p ∈ writtenProperties e.2,
        0 ≤ e.2.getMoney p .balance ∧ e.2.getMoney p .balance ≤ int64Max :=
      fun p hp => ((hm e hmem).2 p (mem_keys_of_written hp)).2.2
    have hread : m.money e.1 q .balance = e.2.getMoney q .balance := by
      rw [TallyMap.money, OrdMap.findD_eq, OrdMap.find?_of_mem hmem]
      rfl
    rw [hsplit, loadedTally, List.foldl_append, List.foldl_cons, ← loadedTally, ← loadedTally,
      money_loadedTally_of_not_mem q k post _ hpost, creditBalances,
      money_foldl_creditPiece e.1 e.2 _ _ (nodup_writtenProperties e.2) hrange hzero,
      money_loadedTally_of_not_mem q k pre _ hpre, money_empty, hread]
    by_cases hk : k = .balance
    · by_cases hq : q ∈ writtenProperties e.2
      · simp [hk, hq]
      · simp [hk, hq, balance_of_not_written (hpos e hmem) hq]
    · simp [hk]
  · rw [money_loadedTally_of_not_mem q k _ _ hw, money_empty]
    -- an address without a line has no balance
    have hread : m.money w q .balance = 0 := by
      cases hfind : m.find? w with
      | none => simp [TallyMap.money, OrdMap.findD_eq, hfind]
      | some t =>
        have hmem := OrdMap.mem_of_find? hfind
        have hnone : writtenProperties t = [] := by
          by_contra h
          exact hw (List.mem_map.mpr ⟨(w, t), List.mem_filter.mpr ⟨hmem, by simpa using h⟩, rfl⟩)
        rw [TallyMap.money, OrdMap.findD_eq, hfind]
        exact balance_of_not_written (hpos _ hmem) (by simp [hnone])
    simp [hread]

/-- A character the writers of the files use: a letter, a digit, or one of `: - , = ;`. -/
def FileChar (c : Char) : Prop := c.isAlphanum = true ∨ c ∈ [':', '-', ',', '=', ';']

instance : DecidablePred FileChar := fun c => by unfold FileChar; infer_instance

theorem fileChar_of_num {c : Char} (h : c.isAlphanum = true ∨ c = '-') : FileChar c := by
  rcases h with h | rfl
  · exact .inl h
  · decide

theorem fileChar_of_addr {c : Char} (h : c.isAlphanum = true ∨ c = ':') : FileChar c := by
  rcases h with h | rfl
  · exact .inl h
  · decide

/-- A line of the characters the writers use, not empty, is a content line. -/
theorem contentLine_of_chars {line : String} (hne : line.toList ≠ [])
    (h : ∀ c ∈ line.toList, FileChar c) : ContentLine line := by
  obtain ⟨c, cs, hcs⟩ := List.exists_cons_of_ne_nil hne
  have hok : ∀ c, FileChar c → c ≠ '#' ∧ c ≠ '!' ∧ c ≠ '\r' := by
    rintro c (hc | hc)
    · refine ⟨?_, ?_, ?_⟩ <;> rintro rfl <;> exact absurd hc (by decide)
    · simp only [List.mem_cons, List.not_mem_nil, or_false] at hc
      rcases hc with rfl | rfl | rfl | rfl | rfl <;> decide
  have hc := hok c (h c (hcs ▸ List.mem_cons_self))
  exact ⟨⟨c, cs, hcs, hc.1, hc.2.1⟩, fun x hx => (hok x (h x hx)).2.2⟩

theorem balancesText_chars {a : Address} (ha : cashAddrText a = true) (t : CMPTally) :
    ∀ c ∈ (balancesText a t).toList, FileChar c := by
  intro c hc
  rw [toList_balancesText] at hc
  simp only [List.mem_append, List.mem_cons, List.mem_flatMap, List.not_mem_nil, or_false] at hc
  rcases hc with hc | rfl | ⟨p, -, hc | rfl⟩
  · exact fileChar_of_addr (addrChar ha hc)
  · decide
  · rcases mem_pieceChars hc with h | rfl | rfl
    · exact fileChar_of_num h
    all_goals decide
  · decide

/-- In a list with distinct keys, the key of an element is not among those around it. -/
theorem not_mem_keys_of_split {α β : Type} {pre post : List (α × β)} {e : α × β}
    (hnd : ((pre ++ e :: post).map Prod.fst).Nodup) :
    e.1 ∉ pre.map Prod.fst ∧ e.1 ∉ post.map Prod.fst := by
  rw [List.map_append, List.map_cons, List.nodup_append] at hnd
  exact ⟨fun h => hnd.2.2 _ h _ List.mem_cons_self rfl, (List.nodup_cons.mp hnd.2.1).1⟩

/-- **The balances file loads**: written at a tally map it can hold, it loads with result `0` into
any state, whose tally map becomes the one its lines credit from nothing. -/
theorem mscFileLoadInto_balances {boost : Boost} (hsplit : Split.TokenCompress boost.split) (hcast : boost.CastDocumented)
    (hashOf : List String → String) {s : OmniState}
    (hm : TallyStorable s.tally) (hh : ∀ x ∈ (hashOf (writeMscBalances s.tally)).toList, x ≠ '\r')
    (s₀ : OmniState) :
    mscFileLoadInto boost hashOf .balances (writeStateFile hashOf s .balances) s₀ =
      .ok (0, { s₀ with tally := loadedTally (balanceEntries s.tally) OrdMap.empty }) := by
  have hlines : writeMscBalances s.tally =
      (balanceEntries s.tally).map fun e => balancesText e.1 e.2 :=
    filterMap_balancesLine _
  have hfile : writeStateFile hashOf s .balances =
      ((balanceEntries s.tally).map fun e => balancesText e.1 e.2) ++
        ["!" ++ hashOf ((balanceEntries s.tally).map fun e => balancesText e.1 e.2)] := by
    rw [writeStateFile, FileType.write, hlines]
  rw [hlines] at hh
  rw [hfile, mscFileLoadInto_lines boost hashOf .balances (fun e : Address × CMPTally => balancesText e.1 e.2)
    balancesStep _ s₀ hh, foldl_balancesStep]
  · rfl
  · intro e he
    exact contentLine_of_chars (by simp [toList_balancesText])
      (balancesText_chars (hm e (List.mem_filter.mp he).1).1 e.2)
  · -- each line is read into the tally map the lines before it left
    intro pre e post hxs
    have hpre := (not_mem_keys_of_split (hxs ▸ nodup_balanceEntries s.tally)).1
    have he : e ∈ s.tally.entries :=
      (List.mem_filter.mp (hxs ▸ List.mem_append_right pre List.mem_cons_self)).1
    rw [foldl_balancesStep]
    exact inputMscBalancesString_balancesText hsplit hcast (hm e he).1
      (fun p hp => ((hm e he).2 p (mem_keys_of_written hp)).2) _
      fun p _ => by rw [money_loadedTally_of_not_mem p .balance pre _ hpre]; rfl

theorem frozenLine_chars {k : Address ×ₗ PropertyId} (ha : cashAddrText (ofLex k).1 = true) :
    ∀ c ∈ (frozenLine k).toList, FileChar c := by
  intro c hc
  simp only [frozenLine, String.toList_append, List.mem_append] at hc
  rcases hc with (hc | hc) | hc
  · exact fileChar_of_addr (addrChar ha hc)
  · simp at hc
    subst hc
    decide
  · exact fileChar_of_num (numChar_printD hc)

theorem globalsLine_chars (s : OmniState) : ∀ c ∈ (globalsLine s).toList, FileChar c := by
  intro c hc
  rw [toList_globalsLine] at hc
  simp only [List.mem_append, List.flatMap_cons, List.flatMap_nil, List.append_nil,
    List.mem_cons, List.not_mem_nil, or_false, or_assoc] at hc
  rcases hc with hc | rfl | hc | rfl | hc | rfl | hc
  · exact fileChar_of_num (numChar_printD hc)
  · decide
  · exact fileChar_of_num (numChar_printD hc)
  · decide
  · exact fileChar_of_num (numChar_printD hc)
  · decide
  · exact fileChar_of_num (numChar_hexDigits hc)

/-- The frozen pairs the file can hold: CashAddr addresses and `uint32_t` properties. -/
def FrozenStorable (frozen : FrozenSet) : Prop :=
  ∀ k ∈ frozen.keys, cashAddrText (ofLex k).1 = true ∧ (ofLex k).2 < 2 ^ 32

instance (frozen : FrozenSet) : Decidable (FrozenStorable frozen) := by
  unfold FrozenStorable; infer_instance

/-- The state after a line of the frozen pairs file is read. -/
def frozenStep (s : OmniState) (k : Address ×ₗ PropertyId) : OmniState :=
  { s with frozen := s.frozen.insert k () }

theorem foldl_frozenStep (ks : List (Address ×ₗ PropertyId)) (s : OmniState) :
    ks.foldl frozenStep s = { s with frozen := ks.foldl (fun f k => f.insert k ()) s.frozen } := by
  induction ks generalizing s with
  | nil => rfl
  | cons k ks ih => exact ih _

/-- **The frozen pairs file loads**: written at a set it can hold, it loads with result `0` into any
state, whose frozen set becomes the one written. -/
theorem mscFileLoadInto_frozenState {boost : Boost} (hsplit : Split.TokenCompress boost.split) (hcast : boost.CastDocumented)
    (hashOf : List String → String) {s : OmniState}
    (hf : FrozenStorable s.frozen)
    (hh : ∀ x ∈ (hashOf (writeMpFrozenstate s.frozen)).toList, x ≠ '\r') (s₀ : OmniState) :
    mscFileLoadInto boost hashOf .frozenState (writeStateFile hashOf s .frozenState) s₀ =
      .ok (0, { s₀ with frozen := s.frozen }) := by
  have hfile : writeStateFile hashOf s .frozenState =
      s.frozen.keys.map frozenLine ++ ["!" ++ hashOf (s.frozen.keys.map frozenLine)] := rfl
  rw [hfile, mscFileLoadInto_lines boost hashOf .frozenState frozenLine frozenStep _ s₀ hh,
    foldl_frozenStep]
  · -- the keys, inserted into the cleared set, rebuild the set
    rw [show (FileType.clear .frozenState s₀).frozen = OrdMap.empty from rfl, OrdMap.foldl_insert_keys]
    rfl
  · intro k hk
    exact contentLine_of_chars (by simp [frozenLine]) (frozenLine_chars (hf k hk).1)
  · intro pre k post hxs
    have hk : k ∈ s.frozen.keys := hxs ▸ List.mem_append_right pre List.mem_cons_self
    exact inputFrozenStateString_frozenLine hsplit hcast (hf k hk).1 (hf k hk).2 _

/-- **The burns file loads** when no burn is pending: it holds only its hash. -/
theorem mscFileLoadInto_burnBch (boost : Boost) (hashOf : List String → String) {s : OmniState}
    (hp : s.pendingCreateWHC = []) (hh : ∀ x ∈ (hashOf []).toList, x ≠ '\r') (s₀ : OmniState) :
    mscFileLoadInto boost hashOf .burnBch (writeStateFile hashOf s .burnBch) s₀ =
      .ok (0, { s₀ with pendingCreateWHC := [] }) := by
  have hfile : writeStateFile hashOf s .burnBch =
      ([] : List Unit).map (fun _ => "") ++ ["!" ++ hashOf (([] : List Unit).map fun _ => "")] := by
    rw [writeStateFile, FileType.write, hp]
    rfl
  rw [hfile, mscFileLoadInto_lines boost hashOf .burnBch (fun _ : Unit => "") (fun s _ => s) [] s₀ hh
    (by simp) (by simp)]
  rfl

/-- **The globals file loads**, within the widths of its casts. -/
theorem mscFileLoadInto_globals {boost : Boost} (hsplit : Split.TokenCompress boost.split) (hcast : boost.CastDocumented)
    (hashOf : List String → String) {s : OmniState}
    (hspid : s.sps.nextSpid < 2 ^ 32) (htest : s.sps.nextTestSpid < 2 ^ 32)
    (herc : s.erc721sps.nextErc721spid < 2 ^ 256)
    (hh : ∀ x ∈ (hashOf [globalsLine s]).toList, x ≠ '\r') (s₀ : OmniState) :
    mscFileLoadInto boost hashOf .globals (writeStateFile hashOf s .globals) s₀ =
      .ok (0, { s₀ with sps := s₀.sps.init s.sps.nextSpid s.sps.nextTestSpid,
                        erc721sps := s₀.erc721sps.init s.erc721sps.nextErc721spid }) := by
  have hfile : writeStateFile hashOf s .globals =
      [()].map (fun _ => globalsLine s) ++ ["!" ++ hashOf ([()].map fun _ => globalsLine s)] := rfl
  rw [hfile, mscFileLoadInto_lines boost hashOf .globals (fun _ : Unit => globalsLine s)
    (fun s' _ => { s' with sps := s'.sps.init s.sps.nextSpid s.sps.nextTestSpid,
                           erc721sps := s'.erc721sps.init s.erc721sps.nextErc721spid }) [()] s₀ hh]
  · rfl
  · intro _ _
    exact contentLine_of_chars (by simp [toList_globalsLine]) (globalsLine_chars s)
  · -- the line reads the same into any state
    intro pre _ post _
    exact inputGlobalsStateString_globalsLine hsplit hcast hspid htest herc _

/-! ## Reading back the crowdsales file -/

/-- A purchase the crowdsales file can hold: a txid of 256 bits and at least one value, each an
`int64_t`; an empty list of values would be written as `txid=`, whose empty value does not cast. -/
def PurchaseStorable (e : Uint256 × List Int) : Prop :=
  e.1 < 2 ^ 256 ∧ e.2 ≠ [] ∧ ∀ v ∈ e.2, int64Min ≤ v ∧ v ≤ int64Max

instance (e : Uint256 × List Int) : Decidable (PurchaseStorable e) := by
  unfold PurchaseStorable; infer_instance

/-- A crowdsale the crowdsales file can hold: every field within the width of the cast that reads
it back, the `uint8_t` ones below `256`. -/
@[mk_iff] structure CrowdStorable (c : CMPCrowd) : Prop where
  propertyId : c.propertyId < 2 ^ 32
  nValue : int64Min ≤ c.nValue ∧ c.nValue ≤ int64Max
  propertyDesired : c.propertyDesired < 2 ^ 32
  deadline : int64Min ≤ c.deadline ∧ c.deadline ≤ int64Max
  earlyBird : c.earlyBird < 256
  percentage : c.percentage < 256
  uCreated : int64Min ≤ c.uCreated ∧ c.uCreated ≤ int64Max
  iCreated : int64Min ≤ c.iCreated ∧ c.iCreated ≤ int64Max
  purchases : ∀ e ∈ c.txFundraiserData.entries, PurchaseStorable e

instance (c : CMPCrowd) : Decidable (CrowdStorable c) := decidable_of_iff _ (crowdStorable_iff c).symm

/-- The text of one purchase after its `,`: the txid, `=`, and the values. -/
def purchaseChars (e : Uint256 × List Int) : List Char :=
  hexDigits 64 e.1 ++ '=' :: (joinValues e.2).toList

/-- The eight numbers of a crowdsale's line. -/
def crowdNumbers (c : CMPCrowd) : List Int :=
  [c.propertyId, c.nValue, c.propertyDesired, c.deadline, c.earlyBird, c.percentage, c.uCreated,
    c.iCreated]

/-- The fields of a crowdsale's line after the address, each after a `,`. -/
def crowdFields (c : CMPCrowd) : List (List Char) :=
  (crowdNumbers c).map (fun i => (printD i).toList) ++ c.txFundraiserData.entries.map purchaseChars

theorem toList_crowdLine (a : Address) (c : CMPCrowd) :
    (crowdLine a c).toList = a.toList ++ (crowdFields c).flatMap (',' :: ·) := by
  -- unfolded before simp: rewriting with the equation of `crowdLine` inside simp takes seconds
  unfold crowdLine
  simp [crowdFields, crowdNumbers, purchaseChars, uint256ToString, List.flatMap_map]

theorem toList_joinValues (vals : List Int) :
    (joinValues vals).toList = [';'].intercalate (vals.map fun v => (printD v).toList) := by
  simp [joinValues, String.toList_intercalate, List.map_map, Function.comp_def]

theorem mem_joinValues {vals : List Int} {c : Char} (hc : c ∈ (joinValues vals).toList) :
    (c.isAlphanum = true ∨ c = '-') ∨ c = ';' := by
  rw [toList_joinValues] at hc
  rcases Split.mem_intercalate hc with rfl | ⟨f, hf, hc⟩
  · exact .inr rfl
  · obtain ⟨v, -, rfl⟩ := List.mem_map.mp hf
    exact .inl (numChar_printD hc)

/-- The values of a purchase split back at `;`. -/
theorem splitOn_joinValues {boost : Boost} (hsplit : Split.TokenCompress boost.split)
    {vals : List Int} (hne : vals ≠ []) : splitOn boost ';' (joinValues vals) = vals.map printD := by
  have hfs : ∀ f ∈ vals.map (fun v => (printD v).toList), f ≠ [] ∧ ∀ x ∈ f, (x == ';') = false := by
    intro f hf
    obtain ⟨v, -, rfl⟩ := List.mem_map.mp hf
    exact ⟨printD_ne_nil v, beq_false_of_ne fun x hx => num_ne_sep (numChar_printD hx) (by decide) (by decide)⟩
  unfold splitOn
  rw [toList_joinValues, hsplit.intercalate hfs (by simpa using hne) (by decide), List.map_map]
  simp [Function.comp_def]

/-- The values of a purchase cast back, each within `int64_t`. -/
theorem mapM_cast_printD {boost : Boost} (hcast : boost.CastDocumented) :
    ∀ {vals : List Int}, (∀ v ∈ vals, int64Min ≤ v ∧ v ≤ int64Max) →
      (vals.map printD).mapM (fun v => castOrThrow (boost.lexicalCastInt64 v.toList)) = .ok vals
  | [], _ => rfl
  | v :: vs, h => by
    have hv := h v List.mem_cons_self
    rw [List.map_cons, List.mapM_cons, lexicalCastInt64_printD hcast hv.1 hv.2,
      mapM_cast_printD hcast fun w hw => h w (List.mem_cons_of_mem v hw)]
    rfl

/-- A purchase splits at its `=` into the txid and the values. -/
theorem splitOn_purchaseChars {boost : Boost} (hsplit : Split.TokenCompress boost.split)
    (e : Uint256 × List Int) :
    splitOn boost '=' (String.ofList (purchaseChars e)) = [uint256ToString e.1, joinValues e.2] := by
  have hhex : ∀ x ∈ hexDigits 64 e.1, (x == '=') = false :=
    beq_false_of_ne fun x hx => num_ne_sep (numChar_hexDigits hx) (by decide) (by decide)
  have hvals : ∀ x ∈ (joinValues e.2).toList, (x == '=') = false := by
    refine beq_false_of_ne fun x hx => ?_
    rcases mem_joinValues hx with h | rfl
    · exact num_ne_sep h (by decide) (by decide)
    · decide
  unfold splitOn
  rw [String.toList_ofList, purchaseChars, hsplit.append_sep hhex (by decide) (head_of_all hvals),
    hsplit.of_forall_not hvals]
  simp [uint256ToString]

/-- **The purchases of a line read back**, each inserted into a crowdsale that does not have it. -/
theorem inputCrowdEntries_purchases {boost : Boost} (hsplit : Split.TokenCompress boost.split) (hcast : boost.CastDocumented) :
    ∀ (es : List (Uint256 × List Int)) (c : CMPCrowd), (∀ e ∈ es, PurchaseStorable e) →
      inputCrowdEntries boost ((es.map purchaseChars).map String.ofList) c =
        .ok (0, es.foldl (fun c e => c.insertDatabase e.1 e.2) c)
  | [], _, _ => rfl
  | e :: es, c, h => by
    obtain ⟨hkey, hne, hvals⟩ := h e List.mem_cons_self
    rw [List.map_cons, List.map_cons, inputCrowdEntries, splitOn_purchaseChars hsplit]
    simp only [List.length_cons, List.length_nil, List.getD_cons_succ, List.getD_cons_zero]
    rw [if_neg (by decide), splitOn_joinValues hsplit hne, mapM_cast_printD hcast hvals, Except.ok_bind,
      uint256S_uint256ToString hkey, List.foldl_cons]
    exact inputCrowdEntries_purchases hsplit hcast es _ fun e' he' => h e' (List.mem_cons_of_mem e he')

/-- Purchases with distinct txids, inserted one after another into a crowdsale that has none of
them, are all inserted. -/
theorem foldl_insertDatabase :
    ∀ (es : List (Uint256 × List Int)) (c : CMPCrowd), (es.map Prod.fst).Nodup →
      (∀ e ∈ es, c.txFundraiserData.contains e.1 = false) →
      es.foldl (fun c e => c.insertDatabase e.1 e.2) c =
        { c with txFundraiserData := es.foldl (fun m e => m.insert e.1 e.2) c.txFundraiserData }
  | [], _, _, _ => rfl
  | e :: es, c, hnd, hnew => by
    rw [List.map_cons, List.nodup_cons] at hnd
    have hins : c.insertDatabase e.1 e.2 =
        { c with txFundraiserData := c.txFundraiserData.insert e.1 e.2 } := by
      rw [CMPCrowd.insertDatabase, if_neg (by rw [hnew e List.mem_cons_self]; decide)]
    -- the later txids are still new after the first is inserted
    have hnew' : ∀ e' ∈ es, (c.txFundraiserData.insert e.1 e.2).contains e'.1 = false := by
      intro e' he'
      have hne : e.1 ≠ e'.1 := fun h => hnd.1 (h ▸ List.mem_map_of_mem he')
      rw [OrdMap.contains_eq, OrdMap.find?_insert_of_ne _ _ hne, ← OrdMap.contains_eq]
      exact hnew e' (List.mem_cons_of_mem e he')
    rw [List.foldl_cons, List.foldl_cons, hins]
    exact foldl_insertDatabase es _ hnd.2 hnew'

/-- No character the writers use but `,` is a separator of the crowdsales file. -/
theorem contains_false_of_fileChar {ch : Char} (h : FileChar ch) (hne : ch ≠ ',') :
    [' ', ','].contains ch = false := by
  cases hcon : [' ', ','].contains ch with
  | false => rfl
  | true =>
    have hmem := List.contains_iff_mem.mp hcon
    simp only [List.mem_cons, List.not_mem_nil, or_false] at hmem
    rcases hmem with rfl | rfl
    · exact absurd h (by decide)
    · exact absurd rfl hne

/-- The fields of a crowdsale's line: not empty, and of the characters the writers use but `,`. -/
theorem mem_crowdFields {c : CMPCrowd} {f : List Char} (hf : f ∈ crowdFields c) :
    f ≠ [] ∧ ∀ x ∈ f, FileChar x ∧ x ≠ ',' := by
  rcases List.mem_append.mp hf with hf | hf
  · obtain ⟨i, -, rfl⟩ := List.mem_map.mp hf
    refine ⟨printD_ne_nil i, fun x hx => ⟨fileChar_of_num (numChar_printD hx), ?_⟩⟩
    exact num_ne_sep (numChar_printD hx) (by decide) (by decide)
  · obtain ⟨e, -, rfl⟩ := List.mem_map.mp hf
    refine ⟨by simp [purchaseChars], fun x hx => ?_⟩
    rcases List.mem_append.mp hx with hx | hx
    · exact ⟨fileChar_of_num (numChar_hexDigits hx),
        num_ne_sep (numChar_hexDigits hx) (by decide) (by decide)⟩
    · rcases List.mem_cons.mp hx with rfl | hx
      · decide
      · rcases mem_joinValues hx with h | rfl
        · exact ⟨fileChar_of_num h, num_ne_sep h (by decide) (by decide)⟩
        · decide

theorem crowdLine_chars {a : Address} (ha : cashAddrText a = true) (c : CMPCrowd) :
    ∀ ch ∈ (crowdLine a c).toList, FileChar ch := by
  intro ch hch
  rw [toList_crowdLine] at hch
  simp only [List.mem_append, List.mem_flatMap, List.mem_cons] at hch
  rcases hch with hch | ⟨f, hf, rfl | hch⟩
  · exact fileChar_of_addr (addrChar ha hch)
  · decide
  · exact ((mem_crowdFields hf).2 ch hch).1

/-- **`input_mp_crowdsale_string` reads back the line of a crowdsale** the file can hold, for an
address that has none yet. -/
theorem inputMpCrowdsaleString_crowdLine {boost : Boost} (hsplit : Split.TokenCompress boost.split) (hcast : boost.CastDocumented)
    {a : Address} (ha : cashAddrText a = true) {c : CMPCrowd} (hc : CrowdStorable c) (s : OmniState)
    (hnew : s.crowds.contains a = false) :
    inputMpCrowdsaleString boost (crowdLine a c) s = .ok (0, { s with crowds := s.crowds.insert a c }) := by
  have haddr : ∀ ch ∈ a.toList, [' ', ','].contains ch = false := fun ch hch =>
    contains_false_of_fileChar (fileChar_of_addr (addrChar ha hch))
      (addr_ne_sep (addrChar ha hch) (by decide) (by decide))
  have hfields : ∀ f ∈ crowdFields c, f ≠ [] ∧ ∀ x ∈ f, [' ', ','].contains x = false :=
    fun f hf => ⟨(mem_crowdFields hf).1, fun x hx =>
      contains_false_of_fileChar ((mem_crowdFields hf).2 x hx).1 ((mem_crowdFields hf).2 x hx).2⟩
  unfold inputMpCrowdsaleString splitOnAny
  rw [toList_crowdLine, hsplit.append_flatMap haddr hfields (by decide)]
  simp only [crowdFields, crowdNumbers, List.map_cons, List.map_nil, List.cons_append,
    List.nil_append, List.length_cons, List.getD_cons_succ, List.getD_cons_zero, String.ofList_toList]
  have hbyte : ∀ {n : Nat}, n < 256 → n < 2 ^ 32 := fun h => lt_trans h (by decide)
  rw [if_neg (by omega), lexicalCastUInt32, lexicalCastUnsigned_printD hcast 32 hc.propertyId,
    lexicalCastUnsigned_printD hcast 32 hc.propertyDesired, lexicalCastUnsigned_printD hcast 32 (hbyte hc.earlyBird),
    lexicalCastUnsigned_printD hcast 32 (hbyte hc.percentage), lexicalCastInt64_printD hcast hc.nValue.1 hc.nValue.2,
    lexicalCastInt64_printD hcast hc.deadline.1 hc.deadline.2, lexicalCastInt64_printD hcast hc.uCreated.1 hc.uCreated.2,
    lexicalCastInt64_printD hcast hc.iCreated.1 hc.iCreated.2]
  simp only [castOrThrow, pure_bind, List.drop_succ_cons, List.drop_zero]
  -- the purchases, inserted into the new crowdsale, rebuild the crowdsale
  have hcrowd : c.txFundraiserData.entries.foldl (fun c e => c.insertDatabase e.1 e.2)
      ⟨c.propertyId, c.nValue, c.propertyDesired, c.deadline, c.earlyBird % 256, c.percentage % 256,
        c.uCreated, c.iCreated, OrdMap.empty⟩ = c := by
    rw [foldl_insertDatabase _ _ (OrdMap.nodup_keys _) fun _ _ => rfl, OrdMap.foldl_insert_entries,
      Nat.mod_eq_of_lt hc.earlyBird, Nat.mod_eq_of_lt hc.percentage]
  rw [inputCrowdEntries_purchases hsplit hcast _ _ hc.purchases, Except.ok_bind, hcrowd]
  dsimp only
  rw [if_neg (Int.lt_irrefl 0), hnew]
  rfl

/-- The state after a line of the crowdsales file is read. -/
def crowdStep (s : OmniState) (e : Address × CMPCrowd) : OmniState :=
  { s with crowds := s.crowds.insert e.1 e.2 }

theorem foldl_crowdStep (es : List (Address × CMPCrowd)) (s : OmniState) :
    es.foldl crowdStep s = { s with crowds := es.foldl (fun m e => m.insert e.1 e.2) s.crowds } := by
  induction es generalizing s with
  | nil => rfl
  | cons e es ih => exact ih _

/-- **The crowdsales file loads**: written at crowdsales it can hold, it loads with result `0` into
any state, whose crowdsales become the ones written. -/
theorem mscFileLoadInto_crowdsales {boost : Boost} (hsplit : Split.TokenCompress boost.split) (hcast : boost.CastDocumented)
    (hashOf : List String → String) {s : OmniState}
    (hcs : ∀ e ∈ s.crowds.entries, cashAddrText e.1 = true ∧ CrowdStorable e.2)
    (hh : ∀ x ∈ (hashOf (writeMpCrowdsales s.crowds)).toList, x ≠ '\r') (s₀ : OmniState) :
    mscFileLoadInto boost hashOf .crowdsales (writeStateFile hashOf s .crowdsales) s₀ =
      .ok (0, { s₀ with crowds := s.crowds }) := by
  have hfile : writeStateFile hashOf s .crowdsales =
      s.crowds.entries.map (fun e : Address × CMPCrowd => crowdLine e.1 e.2) ++
        ["!" ++ hashOf (s.crowds.entries.map fun e : Address × CMPCrowd => crowdLine e.1 e.2)] := rfl
  rw [hfile, mscFileLoadInto_lines boost hashOf .crowdsales (fun e : Address × CMPCrowd => crowdLine e.1 e.2)
    crowdStep _ s₀ hh, foldl_crowdStep]
  · -- the entries, inserted into the cleared map, rebuild the map
    rw [show (FileType.clear .crowdsales s₀).crowds = OrdMap.empty from rfl, OrdMap.foldl_insert_entries]
    rfl
  · intro e he
    exact contentLine_of_chars (by simp [toList_crowdLine, crowdFields, crowdNumbers])
      (crowdLine_chars (hcs e he).1 e.2)
  · -- each line is read into the crowdsales the lines before it left, which lack its address
    intro pre e post hxs
    have hnd : ((pre ++ e :: post).map Prod.fst).Nodup := hxs ▸ OrdMap.nodup_keys s.crowds
    have he : e ∈ s.crowds.entries := hxs ▸ List.mem_append_right pre List.mem_cons_self
    have hnew : (pre.foldl (fun m e => m.insert e.1 e.2)
        (FileType.clear .crowdsales s₀).crowds).contains e.1 = false := by
      rw [OrdMap.contains_eq, OrdMap.find?_foldl_insert (hnd.sublist ((List.sublist_append_left pre _).map _)),
        OrdMap.findL_eq_none_of_not_mem (not_mem_keys_of_split hnd).1]
      rfl
    rw [foldl_crowdStep]
    exact inputMpCrowdsaleString_crowdLine hsplit hcast (hcs e he).1 (hcs e he).2
      { FileType.clear .crowdsales s₀ with
        crowds := pre.foldl (fun m e => m.insert e.1 e.2) (FileType.clear .crowdsales s₀).crowds } hnew

/-! ## The files of a block -/

/-- A state the files of a block can hold: no burn is pending (the burns file of a pending burn
does not load), and every balance, frozen pair, crowdsale and counter is within what its reader
casts back. -/
@[mk_iff] structure Storable (s : OmniState) : Prop where
  noPending : s.pendingCreateWHC = []
  tally : TallyStorable s.tally
  frozen : FrozenStorable s.frozen
  crowds : ∀ e ∈ s.crowds.entries, cashAddrText e.1 = true ∧ CrowdStorable e.2
  nextSpid : s.sps.nextSpid < 2 ^ 32
  nextTestSpid : s.sps.nextTestSpid < 2 ^ 32
  nextErc721spid : s.erc721sps.nextErc721spid < 2 ^ 256

instance (s : OmniState) : Decidable (Storable s) := decidable_of_iff _ (storable_iff s).symm

/-- A file that loads with result `0` hands its state to the next type. -/
theorem loadStateFiles_cons_of_ok {boost : Boost} {hashOf : List String → String}
    {files : FileType → List String} {what : FileType} {s s' : OmniState}
    (h : mscFileLoadInto boost hashOf what (files what) s = .ok (0, s')) (rest : List FileType)
    (success : Int) :
    loadStateFiles boost hashOf files (what :: rest) success s =
      loadStateFiles boost hashOf files rest 0 s' := by
  rw [loadStateFiles, h, Except.ok_bind]
  exact if_neg (Int.lt_irrefl 0)

/-- The state the files written at `s` leave, loaded into `s₀`: the balances credited afresh, the
frozen pairs, crowdsales and counters of `s`, no burn pending, and the rest of `s₀`. -/
def loadedState (s s₀ : OmniState) : OmniState :=
  { s₀ with tally := loadedTally (balanceEntries s.tally) OrdMap.empty, frozen := s.frozen,
            crowds := s.crowds, pendingCreateWHC := [],
            sps := s₀.sps.init s.sps.nextSpid s.sps.nextTestSpid,
            erc721sps := s₀.erc721sps.init s.erc721sps.nextErc721spid }

/-- The five files of a state they can hold load one after another with result `0`. -/
theorem loadStateFiles_written (boost : Boost) (hsplit : Split.TokenCompress boost.split)
    (hcast : boost.CastDocumented) (hashOf : List String → String)
    (hhash : ∀ ls, ∀ x ∈ (hashOf ls).toList, x ≠ '\r') {s : OmniState} (hs : Storable s)
    (s₀ : OmniState) :
    loadStateFiles boost hashOf (writeStateFile hashOf s) fileTypes (-1) s₀ = .ok (0, loadedState s s₀) := by
  rw [fileTypes,
    loadStateFiles_cons_of_ok (mscFileLoadInto_balances hsplit hcast hashOf hs.tally (hhash _) s₀),
    loadStateFiles_cons_of_ok (mscFileLoadInto_burnBch boost hashOf hs.noPending (hhash _) _),
    loadStateFiles_cons_of_ok (mscFileLoadInto_globals hsplit hcast hashOf hs.nextSpid hs.nextTestSpid
      hs.nextErc721spid (hhash _) _),
    loadStateFiles_cons_of_ok (mscFileLoadInto_crowdsales hsplit hcast hashOf hs.crowds (hhash _) _),
    loadStateFiles_cons_of_ok (mscFileLoadInto_frozenState hsplit hcast hashOf hs.frozen (hhash _) _),
    loadStateFiles]
  rfl

/-- **The files of a block round trip.** Written at a state they can hold and loaded in
`statePrefix`'s order into any state, the files load with result `0`; they restore the frozen
pairs, the crowdsales and the property counters, leave no burn pending, and give every address
its balance of every property, with zero reserves. What the files do not hold (the property
records, the fee cache, the transactions) stays as the state loaded into has it. -/
theorem loadStateFiles_writeStateFile (boost : Boost) (hsplit : Split.TokenCompress boost.split)
    (hcast : boost.CastDocumented) (hashOf : List String → String)
    (hhash : ∀ ls, ∀ x ∈ (hashOf ls).toList, x ≠ '\r') {s : OmniState} (hs : Storable s)
    (s₀ : OmniState) :
    ∃ tally : TallyMap,
      loadStateFiles boost hashOf (writeStateFile hashOf s) fileTypes (-1) s₀ =
        .ok (0, { s₀ with tally := tally, frozen := s.frozen, crowds := s.crowds, pendingCreateWHC := [],
                          sps := s₀.sps.init s.sps.nextSpid s.sps.nextTestSpid,
                          erc721sps := s₀.erc721sps.init s.erc721sps.nextErc721spid }) ∧
      ∀ a p k, tally.money a p k = if k = .balance then s.tally.money a p .balance else 0 :=
  ⟨loadedTally (balanceEntries s.tally) OrdMap.empty,
    loadStateFiles_written boost hsplit hcast hashOf hhash hs s₀, money_loadedTally hs.tally⟩

/-- A testnet state with a balance and a reserve, a frozen pair, and a crowdsale with a purchase. -/
def savedState : OmniState :=
  { OmniState.fresh ⟨.testNet, true⟩ with
    tally := OrdMap.empty.insert "bchtest:qa" ⟨OrdMap.empty.insert 3 { balance := 5, sellofferReserve := 2 }⟩
    frozen := freezeAddress OrdMap.empty "bchtest:qb" 3
    crowds := OrdMap.empty.insert "bchtest:qa"
      ⟨3, 100, 1, 1600000000, 6, 10, 0, 0, OrdMap.empty.insert 42 [1, -2]⟩ }

theorem savedState_files_round_trip :
    Storable savedState ∧ ∃ tally : TallyMap,
      loadStateFiles Boost.standard (fun _ => "") (writeStateFile (fun _ => "") savedState) fileTypes
          (-1)
          (OmniState.fresh ⟨.testNet, true⟩) =
        .ok (0, { OmniState.fresh ⟨.testNet, true⟩ with
                  tally := tally, frozen := savedState.frozen, crowds := savedState.crowds,
                  pendingCreateWHC := [],
                  sps := (OmniState.fresh ⟨.testNet, true⟩).sps.init savedState.sps.nextSpid
                    savedState.sps.nextTestSpid,
                  erc721sps := (OmniState.fresh ⟨.testNet, true⟩).erc721sps.init
                    savedState.erc721sps.nextErc721spid }) ∧
      ∀ a p k, tally.money a p k = if k = .balance then savedState.tally.money a p .balance else 0 := by
  have hcrowds : ∀ e ∈ savedState.crowds.entries, cashAddrText e.1 = true ∧ CrowdStorable e.2 := by
    intro e he
    simp only [savedState, OrdMap.entries_empty_insert, List.mem_singleton] at he
    subst he
    exact ⟨by decide, by decide, by decide, by decide, by decide, by decide, by decide, by decide,
      by decide, by decide⟩
  have hs : Storable savedState :=
    ⟨rfl, by decide, by decide, hcrowds, by decide, by decide, by decide⟩
  exact ⟨hs, loadStateFiles_writeStateFile Boost.standard Boost.standard_tokenCompress
    Boost.standard_castDocumented (fun _ => "") (fun _ _ h => by simp at h) hs _⟩

end WormholeCore
