/-
# `WormholeCore.Persist` — the state file of the pending burns (omnicore.cpp).

At the end of every block near the tip, `mastercore_save_state` writes one state file per
`FILETYPE`, and after a reorganisation `load_most_relevant_state` reads the files of a block back
with `msc_file_load`, checking each file's hash. The file of `FILETYPE_BURNBCH` holds
`pendingCreateWHC`:

* `write_WHC_burnBCH` writes one line per pending burn, `txid=address,amount,height;`, and
  `write_state_file` ends the file with `!` and the double SHA-256 of the lines;
* `msc_file_load(FILETYPE_BURNBCH)` clears `pendingCreateWHC` and gives every line that is not
  empty, a comment or the hash to `input_mp_burn_bch`, stopping at the first line refused;
* `input_mp_burn_bch` splits the line at `=` and what follows at `;` (`boost::split` with token
  compression, taken from a `Boost`), and requires every piece to split at `,` into exactly TWO
  fields.

The writer's pieces have THREE fields. A piece of two fields would not help either: the reader then
reads `balanceHeight[2]`, past the end of its vector. So `input_mp_burn_bch` never inserts an entry,
and the file of a non-empty `pendingCreateWHC` is refused at its first line
(`mscFileLoad_burnBch_of_pending`).

The hash is a parameter `hashOf` of writer and reader alike: the text of the double SHA-256 of the
lines. The txid is written as `uint256::ToString()`, its 64 hexadecimal digits.

## What is proved here

* `inputMpBurnBch_burnBchLine` — `input_mp_burn_bch` refuses every line `write_WHC_burnBCH`
  writes for an address without separators;
* `mscFileLoad_burnBch_of_pending` — the burn file of a non-empty `pendingCreateWHC` does not load,
  whatever the hash;
* `testnet_burn_file_refused` — a reachable testnet state whose burn file does not load.
-/
import WormholeCore.Node
import WormholeCore.Boost

namespace WormholeCore

open Lib

/-! ## Writing -/

/-- The `width` low hexadecimal digits of `n`, most significant first. -/
def hexDigits : Nat → Nat → List Char
  | 0, _ => []
  | width + 1, n => hexDigits width (n / 16) ++ [Nat.digitChar (n % 16)]

/-- `uint256::ToString()`: the 64 hexadecimal digits of a hash. -/
def uint256ToString (n : Uint256) : String := String.ofList (hexDigits 64 n)

/-- `strprintf("%d", n)`. -/
def printD (n : Int) : String := toString n

/-- The line `write_WHC_burnBCH` writes for one pending burn. -/
def burnBchLine (e : PendingBurn) : String :=
  uint256ToString e.txid ++ "=" ++ e.address ++ "," ++ printD e.amount ++ "," ++ printD e.height ++ ";"

/-- **`write_WHC_burnBCH`**: one line per entry of `pendingCreateWHC`, in its order. -/
def writeWHCBurnBCH (pending : List PendingBurn) : List String := pending.map burnBchLine

/-- **`write_state_file(FILETYPE_BURNBCH)`**: the lines, then `!` and their hash. -/
def writeStateFileBurnBch (hashOf : List String → String) (pending : List PendingBurn) :
    List String :=
  writeWHCBurnBCH pending ++ ["!" ++ hashOf (writeWHCBurnBCH pending)]

/-! ## Reading -/

section Reading

variable (boost : Boost)

/-- `boost::split(out, s, boost::is_any_of(c), boost::token_compress_on)` for one separator. -/
def splitOn (c : Char) (s : String) : List String :=
  (boost.split (fun x => x == c) s.toList).map String.ofList

/-- The loop of `input_mp_burn_bch` over the pieces after `=`: an empty piece is skipped, a piece
that does not split into exactly two fields refuses the line. -/
def inputBurnPieces : List String → Except String Int
  | [] => pure 0
  | p :: ps =>
    if p.isEmpty then inputBurnPieces ps
    else if (splitOn boost ',' p).length ≠ 2 then pure (-1)
    else
      -- `lexical_cast<uint32_t>(balanceHeight[1])`, then `balanceHeight[2]`: index 2 of a vector
      -- of two fields is past its end, whatever the cast returned
      throw "input_mp_burn_bch: balanceHeight[2] is out of range"

/-- **`input_mp_burn_bch(line)`**: `-1` for a line it refuses. -/
def inputMpBurnBch (line : String) : Except String Int :=
  let addrData := splitOn boost '=' line
  if addrData.length ≠ 2 then pure (-1)
  else inputBurnPieces boost (splitOn boost ';' (addrData.getD 1 ""))

end Reading

/-- The line loop of `msc_file_load` with `verifyHash`: `fileHash` is the hash the file records,
`hashed` the lines given to the hash so far. An empty line or a comment is skipped, `\r` is
removed, a `!` line records the file's hash, and any other line is hashed and given to `input`;
the loop stops at the first line `input` refuses. -/
def loadLines (input : String → Except String Int) :
    List String → String → List String → Except String (Int × String × List String)
  | [], fileHash, hashed => pure (0, fileHash, hashed)
  | line :: rest, fileHash, hashed =>
    match line.toList with
    | [] => loadLines input rest fileHash hashed
    | '#' :: _ => loadLines input rest fileHash hashed
    | cs =>
      let line := String.ofList (cs.filter fun c => c != '\r')
      match line.toList with
      | '!' :: h => loadLines input rest (String.ofList h) hashed
      | _ => do
        let r ← input line
        if r < 0 then pure (-1, fileHash, hashed ++ [line])
        else loadLines input rest fileHash (hashed ++ [line])

/-- **`msc_file_load(filename, what, true)`** on the lines of a file, with the line reader of the
file type: a file read to its end must record the hash of the lines it gave to the reader.
For `FILETYPE_BURNBCH` the reader is `inputMpBurnBch`, after `pendingCreateWHC.clear()`. -/
def mscFileLoad (hashOf : List String → String) (input : String → Except String Int)
    (lines : List String) : Except String Int := do
  let (res, fileHash, hashed) ← loadLines input lines "" []
  if res = 0 ∧ hashOf hashed ≠ fileHash then pure (-1) else pure res

/-! ## The characters of a line -/

/-- No separator of the state file formats and no carriage return. Every address the node encodes
(a CashAddr: a prefix, `:`, letters and digits) is plain. -/
def plainText (s : String) : Bool :=
  s.toList.all fun c => c != '=' && c != ',' && c != ';' && c != '\r'

theorem mem_hexDigits : ∀ {width n : Nat} {c : Char}, c ∈ hexDigits width n → ∃ d < 16, c = Nat.digitChar d
  | 0, _, _, h => by simp [hexDigits] at h
  | width + 1, n, c, h => by
    rcases List.mem_append.mp h with h | h
    · exact mem_hexDigits h
    · exact ⟨n % 16, Nat.mod_lt n (by decide), List.mem_singleton.mp h⟩

theorem hexDigits_succ_ne_nil (width n : Nat) : hexDigits (width + 1) n ≠ [] := by
  simp [hexDigits]

/-- The characters of a decimal integer: digits and a minus sign. -/
theorem mem_printD {c : Char} {i : Int} (h : c ∈ (printD i).toList) :
    c = '-' ∨ c.isDigit = true := by
  cases i with
  | ofNat m =>
    simp only [printD, toString, Int.repr, Nat.repr, String.toList_ofList] at h
    exact .inr (Nat.isDigit_of_mem_toDigits (by decide) (by decide) h)
  | negSucc m =>
    simp only [printD, toString, Int.repr, Nat.repr, String.toList_append, String.toList_ofList] at h
    rcases List.mem_append.mp h with h | h
    · left
      simpa using h
    · exact .inr (Nat.isDigit_of_mem_toDigits (by decide) (by decide) h)

theorem printD_ne_nil (i : Int) : (printD i).toList ≠ [] := by
  cases i with
  | ofNat m =>
    simp only [printD, toString, Int.repr, Nat.repr, String.toList_ofList]
    exact List.ne_nil_of_length_pos Nat.length_toDigits_pos
  | negSucc m =>
    simp [printD, toString, Int.repr, Nat.repr, String.toList_append]

/-- A character of a hash or of a decimal number separates nothing. -/
theorem not_sep_of_number {c : Char} (h : (∃ d < 16, c = Nat.digitChar d) ∨ c = '-' ∨ c.isDigit = true)
    (x : Char) (hx : x = '=' ∨ x = ',' ∨ x = ';' ∨ x = '\r') : (c == x) = false := by
  have hdigit : ∀ d < 16, Nat.digitChar d ≠ '=' ∧ Nat.digitChar d ≠ ',' ∧ Nat.digitChar d ≠ ';' ∧
      Nat.digitChar d ≠ '\r' := by decide
  rw [beq_eq_false_iff_ne]
  rintro rfl
  rcases h with ⟨d, hd, rfl⟩ | rfl | h
  · rcases hx with h | h | h | h
    · exact (hdigit d hd).1 h
    · exact (hdigit d hd).2.1 h
    · exact (hdigit d hd).2.2.1 h
    · exact (hdigit d hd).2.2.2 h
  · rcases hx with h | h | h | h <;> cases h
  · rcases hx with rfl | rfl | rfl | rfl <;> cases h

theorem plainText_not_sep {s : String} (hs : plainText s = true) {c : Char} (hc : c ∈ s.toList)
    (x : Char) (hx : x = '=' ∨ x = ',' ∨ x = ';' ∨ x = '\r') : (c == x) = false := by
  have h := List.all_eq_true.mp hs c hc
  simp only [Bool.and_eq_true, bne_iff_ne, ne_eq] at h
  rw [beq_eq_false_iff_ne]
  rcases hx with rfl | rfl | rfl | rfl
  · exact h.1.1.1
  · exact h.1.1.2
  · exact h.1.2
  · exact h.2

/-! ## Reading back a written line -/

/-- The characters of a written line: the hash, `=`, then the address, the amount and the height
separated by `,`, and `;`. -/
theorem toList_burnBchLine (e : PendingBurn) : (burnBchLine e).toList =
    hexDigits 64 e.txid ++ '=' ::
      ((e.address.toList ++ ',' :: ((printD e.amount).toList ++ ',' :: (printD e.height).toList)) ++
        [';']) := by
  simp [burnBchLine, uint256ToString, String.toList_append, String.toList_ofList]

/-- The fields of a written line hold no separator: the hash and the numbers by their digits, the
address by assumption. -/
theorem burnBchLine_fields {e : PendingBurn} (he : plainText e.address = true) {x : Char}
    (hx : x = '=' ∨ x = ',' ∨ x = ';' ∨ x = '\r') :
    (∀ c ∈ hexDigits 64 e.txid, (c == x) = false) ∧ (∀ c ∈ e.address.toList, (c == x) = false) ∧
      (∀ c ∈ (printD e.amount).toList, (c == x) = false) ∧
      (∀ c ∈ (printD e.height).toList, (c == x) = false) :=
  ⟨fun _ hc => not_sep_of_number (.inl (mem_hexDigits hc)) x hx,
    fun _ hc => plainText_not_sep he hc x hx,
    fun _ hc => not_sep_of_number (.inr (mem_printD hc)) x hx,
    fun _ hc => not_sep_of_number (.inr (mem_printD hc)) x hx⟩

/-- The first character of a non-empty list whose elements all pass a test passes it. -/
theorem head_of_forall {xs : List Char} {p : Char → Bool} (h : ∀ c ∈ xs, p c = false) :
    ∀ y ∈ xs.head?, p y = false :=
  fun y hy => h y (List.mem_of_mem_head? hy)

/-- **`input_mp_burn_bch` refuses every line `write_WHC_burnBCH` writes** for a plain address: the
piece after `=` splits at `,` into the address, the amount and the height, three fields where the
reader wants two. -/
theorem inputMpBurnBch_burnBchLine {boost : Boost} (hsplit : Split.TokenCompress boost.split)
    (e : PendingBurn) (he : plainText e.address = true) :
    inputMpBurnBch boost (burnBchLine e) = .ok (-1) := by
  obtain ⟨hTeq, hAeq, hBeq, hHeq⟩ := burnBchLine_fields he (x := '=') (by simp)
  obtain ⟨-, hAc, hBc, hHc⟩ := burnBchLine_fields he (x := ',') (by simp)
  obtain ⟨-, hAs, hBs, hHs⟩ := burnBchLine_fields he (x := ';') (by simp)
  -- the piece after `=`, before `;`
  have hpiece : ∀ x, (x = '=' ∨ x = ';') → (∀ c ∈ e.address.toList, (c == x) = false) →
      (∀ c ∈ (printD e.amount).toList, (c == x) = false) →
      (∀ c ∈ (printD e.height).toList, (c == x) = false) →
      ∀ c ∈ e.address.toList ++ ',' :: ((printD e.amount).toList ++ ',' :: (printD e.height).toList),
        (c == x) = false := by
    intro x hx hA hB hH c hc
    simp only [List.mem_append, List.mem_cons] at hc
    rcases hc with hc | rfl | hc | rfl | hc
    · exact hA c hc
    · rcases hx with rfl | rfl <;> rfl
    · exact hB c hc
    · rcases hx with rfl | rfl <;> rfl
    · exact hH c hc
  have hRall : ∀ c ∈ (e.address.toList ++ ',' :: ((printD e.amount).toList ++ ',' ::
      (printD e.height).toList)) ++ [';'], (c == '=') = false := by
    intro c hc
    rcases List.mem_append.mp hc with hc | hc
    · exact hpiece '=' (.inl rfl) hAeq hBeq hHeq c hc
    · rw [List.mem_singleton.mp hc]
      rfl
  -- split at `=`: the hash and the rest
  unfold inputMpBurnBch splitOn
  rw [toList_burnBchLine, hsplit.append_sep hTeq (by decide) (head_of_forall hRall),
    hsplit.of_forall_not hRall]
  simp only [List.map_cons, List.map_nil, List.length_cons, List.length_nil, ne_eq,
    not_true_eq_false, if_false, List.getD_cons_succ, List.getD_cons_zero, String.toList_ofList]
  -- split at `;`: the piece and an empty one
  rw [hsplit.append_sep (hpiece ';' (.inr rfl) hAs hBs hHs) (by decide) (by simp)]
  simp only [List.map_cons, inputBurnPieces]
  have hne : (String.ofList (e.address.toList ++
      ',' :: ((printD e.amount).toList ++ ',' :: (printD e.height).toList))).isEmpty = false := by
    simp
  -- split at `,`: three fields
  obtain ⟨b, bs, hb⟩ := List.exists_cons_of_ne_nil (printD_ne_nil e.amount)
  have hBhead : ∀ y ∈ ((printD e.amount).toList ++ ',' :: (printD e.height).toList).head?,
      (y == ',') = false := by
    rw [hb, List.cons_append, List.head?_cons]
    exact fun y hy => Option.mem_some_iff.mp hy ▸ hBc b (by simp [hb])
  rw [hne, if_neg Bool.false_ne_true, splitOn, String.toList_ofList,
    hsplit.append_sep hAc (by decide) hBhead,
    hsplit.append_sep hBc (by decide) (head_of_forall hHc), hsplit.of_forall_not hHc]
  rfl

/-- A line that is not empty, a comment or the hash, and has no `\r`, goes to the reader. -/
theorem loadLines_content {input : String → Except String Int} {line : String} {c : Char}
    {cs : List Char} (hline : line.toList = c :: cs) (hhash : c ≠ '#') (hbang : c ≠ '!')
    (hcr : ∀ x ∈ line.toList, x ≠ '\r') (rest : List String) (fileHash : String) (hashed : List String) :
    loadLines input (line :: rest) fileHash hashed = (do
      let r ← input line
      if r < 0 then pure (-1, fileHash, hashed ++ [line])
      else loadLines input rest fileHash (hashed ++ [line])) := by
  have hfilter : line.toList.filter (fun x => x != '\r') = line.toList := by
    rw [List.filter_eq_self]
    intro x hx
    simpa using hcr x hx
  rw [loadLines]
  split
  · rename_i h
    rw [hline] at h
    cases h
  · rename_i h
    rw [hline] at h
    cases h
    exact absurd rfl hhash
  · simp only [hfilter, String.ofList_toList]
    split
    · rename_i h
      rw [hline] at h
      cases h
      exact absurd rfl hbang
    · rfl

/-- **The file of a non-empty `pendingCreateWHC` does not load.** Whatever the hash, the file
`write_state_file(FILETYPE_BURNBCH)` writes for pending burns whose first address is plain is
refused at its first line: `msc_file_load` returns `-1`, after clearing `pendingCreateWHC`. -/
theorem mscFileLoad_burnBch_of_pending (boost : Boost) (hsplit : Split.TokenCompress boost.split)
    (hashOf : List String → String) (e : PendingBurn) (rest : List PendingBurn)
    (he : plainText e.address = true) :
    mscFileLoad hashOf (inputMpBurnBch boost) (writeStateFileBurnBch hashOf (e :: rest)) =
      .ok (-1) := by
  obtain ⟨c, cs, hc⟩ := List.exists_cons_of_ne_nil (hexDigits_succ_ne_nil 63 e.txid)
  obtain ⟨d, hd, hcd⟩ := mem_hexDigits (hc ▸ List.mem_cons_self : c ∈ hexDigits 64 e.txid)
  have hdigit : ∀ d < 16, Nat.digitChar d ≠ '#' ∧ Nat.digitChar d ≠ '!' := by decide
  have hline : (burnBchLine e).toList = c :: (cs ++ '=' :: ((e.address.toList ++ ',' ::
      ((printD e.amount).toList ++ ',' :: (printD e.height).toList)) ++ [';'])) := by
    rw [toList_burnBchLine, hc, List.cons_append]
  -- no field holds a carriage return
  have hcr : ∀ x ∈ (burnBchLine e).toList, x ≠ '\r' := by
    obtain ⟨hT, hA, hB, hH⟩ := burnBchLine_fields he (x := '\r') (by simp)
    intro x hx
    rw [toList_burnBchLine] at hx
    simp only [List.mem_append, List.mem_cons, List.not_mem_nil, or_false, or_assoc] at hx
    rcases hx with hx | rfl | hx | rfl | hx | rfl | hx | rfl
    · exact beq_eq_false_iff_ne.mp (hT x hx)
    · decide
    · exact beq_eq_false_iff_ne.mp (hA x hx)
    · decide
    · exact beq_eq_false_iff_ne.mp (hB x hx)
    · decide
    · exact beq_eq_false_iff_ne.mp (hH x hx)
    · decide
  simp only [mscFileLoad, writeStateFileBurnBch, writeWHCBurnBCH, List.map_cons, List.cons_append]
  rw [loadLines_content hline (hcd ▸ (hdigit d hd).1) (hcd ▸ (hdigit d hd).2) hcr,
    inputMpBurnBch_burnBchLine hsplit e he]
  rfl

/-- A testnet node, `msc_debug_fees` at its default. -/
def testnet : NodeConfig := ⟨.testNet, true⟩

/-- **A reachable node whose burn file does not load.** On testnet a burn waits
`DISTRIBUTEHEIGHTTEST = 3` blocks: a burn of one BCH in the genesis block `1249116` is still in
`pendingCreateWHC` at the end of that block, and the state file written then is refused, read with
the split of `Boost.standard`. -/
theorem testnet_burn_file_refused :
    ∃ s, Reachable testnet s ∧ s.pendingCreateWHC ≠ [] ∧
      ∀ hashOf, mscFileLoad hashOf (inputMpBurnBch Boost.standard)
        (writeStateFileBurnBch hashOf s.pendingCreateWHC) = .ok (-1) := by
  let burn : CMPTransaction :=
    { txid := 1, block := 0, blockHash := none, blockTime := 0,
      sender := "bchtest:qq2h4q5d8cuv7yl4hc0n3e3jlqvuqhl3vq0kjxyvtv", receiver := "", type := 68,
      version := 0, burnBCH := coin }
  obtain ⟨s, hs, h⟩ := Reachable.exists_of_runChain testnet [⟨1249116, 7, 1530000000, [burn]⟩]
    (fun s => match s.pendingCreateWHC with
      | e :: _ => plainText e.address
      | [] => false) (by decide)
  refine ⟨s, hs, ?_⟩
  cases hp : s.pendingCreateWHC with
  | nil =>
    rw [hp] at h
    cases h
  | cons e rest =>
    rw [hp] at h
    exact ⟨List.cons_ne_nil e rest, fun hashOf => mscFileLoad_burnBch_of_pending Boost.standard
      Boost.standard_tokenCompress hashOf e rest h⟩

end WormholeCore
