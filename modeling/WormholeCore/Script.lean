/-
# `WormholeCore.Script` — output scripts as the Omni layer reads them (script.cpp,
script/script.cpp, script/standard.cpp).

A script is its bytes. `GetScriptOp` reads one op at the front: the opcode and, for the opcodes
up to `OP_PUSHDATA4`, the data it pushes, its length given by the opcode itself or by the one,
two or four little-endian bytes after `OP_PUSHDATA1/2/4`. Two loops walk a script op by op:
`IsPushOnly` (every op parses and none is above `OP_16`) and Omni's `GetScriptPushes` (the hex of
the data of every op up to `OP_PUSHDATA4`). Omni's `SafeSolver` types an output: pay-to-script-hash,
then a data-carrying `OP_RETURN` output, then the key-carrying kinds, whose matchers are taken
here as given.

The model's loops take the length of the script as their fuel (each op reads at least its opcode
byte). Over them, `ops` lists the ops a script parses into, and each loop
is stated through it: `isPushOnly_iff`, `getScriptPushes_eq`. The push encoder `CScript <<` is read
back by `getOp_pushData`.
-/
import WormholeCore.Basic
import WormholeCore.Lib.Bytes
import WormholeCore.Lib.Hex

namespace WormholeCore

open Lib Bytes Hex

/-- `CScript`: the bytes of a script. -/
abbrev CScript := List UInt8

namespace Script

/-! ## Opcodes -/

def opPushdata1 : UInt8 := 0x4c
def opPushdata2 : UInt8 := 0x4d
def opPushdata4 : UInt8 := 0x4e
def op16 : UInt8 := 0x60
def opReturn : UInt8 := 0x6a
def opHash160 : UInt8 := 0xa9
def opEqual : UInt8 := 0x87

/-! ## One op -/

/-- The length of a push and where its data starts, read after the opcode: the opcode itself
below `OP_PUSHDATA1`, else one, two or four little-endian bytes (`ReadLE16`, `ReadLE32`); `none`
when the length field is cut short. -/
def readPushSize (opcode : UInt8) (pc : CScript) : Option (Nat × CScript) :=
  if opcode < opPushdata1 then some (opcode.toNat, pc)
  else if opcode = opPushdata1 then
    if pc.length < 1 then none else some (leValue (pc.take 1), pc.drop 1)
  else if opcode = opPushdata2 then
    if pc.length < 2 then none else some (leValue (pc.take 2), pc.drop 2)
  else if pc.length < 4 then none else some (leValue (pc.take 4), pc.drop 4)

/-- `GetScriptOp` at the front of a script: the opcode, the data it pushes and the rest of the
script; `none` where the source returns `false` (no byte left, a length field cut short, or a
push longer than what is left). -/
def getOp : CScript → Option (UInt8 × List UInt8 × CScript)
  | [] => none
  | opcode :: pc =>
    if opcode ≤ opPushdata4 then
      match readPushSize opcode pc with
      | none => none
      | some (nSize, pc) =>
        if pc.length < nSize then none else some (opcode, pc.take nSize, pc.drop nSize)
    else some (opcode, [], pc)

/-- The data of a push starts after its length field. -/
theorem suffix_of_readPushSize {opcode : UInt8} {pc rest : CScript} {n : Nat}
    (h : readPushSize opcode pc = some (n, rest)) : rest <:+ pc := by
  unfold readPushSize at h
  split_ifs at h <;> cases h <;> simp [List.drop_suffix, List.tail_suffix]

/-- An op's data and the rest of the script after it are what follows its opcode. -/
theorem getOp_spec {s rest : CScript} {opcode : UInt8} {data : List UInt8}
    (h : getOp s = some (opcode, data, rest)) : ∃ pc, s = opcode :: pc ∧ data ++ rest <:+ pc := by
  match s, h with
  | op :: pc, h =>
    simp only [getOp] at h
    split_ifs at h
    · split at h
      · cases h
      · next n pc' hsize =>
        split_ifs at h
        cases h
        exact ⟨pc, rfl, by rw [List.take_append_drop]; exact suffix_of_readPushSize hsize⟩
    · cases h
      exact ⟨_, rfl, by simp⟩

/-- An op's data is a run of bytes of the script, and what follows it is the script's end. -/
theorem getOp_infix {s rest : CScript} {opcode : UInt8} {data : List UInt8}
    (h : getOp s = some (opcode, data, rest)) : data <:+: s ∧ rest <:+ s := by
  obtain ⟨pc, rfl, hsuffix⟩ := getOp_spec h
  have hpc : pc <:+ opcode :: pc := List.suffix_cons opcode pc
  exact ⟨((List.prefix_append data rest).isInfix.trans hsuffix.isInfix).trans hpc.isInfix,
    ((List.suffix_append data rest).trans hsuffix).trans hpc⟩

/-- An opcode above `OP_PUSHDATA4` is read alone. -/
theorem getOp_of_pushdata4_lt {opcode : UInt8} (h : opPushdata4 < opcode) (pc : CScript) :
    getOp (opcode :: pc) = some (opcode, [], pc) := by
  rw [getOp, if_neg (by simp only [UInt8.not_le]; exact h)]

/-! ## The walks over a script -/

/-- The ops a script parses into, each with its data; `none` if one does not parse. At most
`fuel` ops are read. -/
def opsAux : Nat → CScript → Option (List (UInt8 × List UInt8))
  | _, [] => some []
  | 0, _ :: _ => none
  | fuel + 1, s =>
    match getOp s with
    | none => none
    | some (opcode, data, rest) => (opsAux fuel rest).map ((opcode, data) :: ·)

/-- The ops of a script. -/
def ops (s : CScript) : Option (List (UInt8 × List UInt8)) := opsAux s.length s

/-- `CScript::IsPushOnly(pc)`: every op parses and none is above `OP_16`. -/
def isPushOnlyAux : Nat → CScript → Bool
  | _, [] => true
  | 0, _ :: _ => false
  | fuel + 1, s =>
    match getOp s with
    | none => false
    | some (opcode, _, rest) => if op16 < opcode then false else isPushOnlyAux fuel rest

def isPushOnly (s : CScript) : Bool := isPushOnlyAux s.length s

/-- `GetScriptPushes` (with `fSkipFirst` false, as every caller here has it): the hex of the data
of every op from `0x00` to `OP_PUSHDATA4`; `none` for the `false` of an op that does not parse. -/
def getScriptPushesAux : Nat → CScript → Option (List (List Char))
  | _, [] => some []
  | 0, _ :: _ => none
  | fuel + 1, s =>
    match getOp s with
    | none => none
    | some (opcode, data, rest) =>
      (getScriptPushesAux fuel rest).map fun pushes =>
        if opcode ≤ opPushdata4 then hexStr data :: pushes else pushes

def getScriptPushes (s : CScript) : Option (List (List Char)) := getScriptPushesAux s.length s

/-- The data pushes among ops: the data of each op up to `OP_PUSHDATA4`. -/
def dataPushes (os : List (UInt8 × List UInt8)) : List (List UInt8) :=
  (os.filter fun o => o.1 ≤ opPushdata4).map Prod.snd

section Walks

variable {s : CScript} {fuel : Nat}

/-- The data of every op of a walk is a run of bytes of the script. -/
theorem infix_of_mem_opsAux {os : List (UInt8 × List UInt8)} (h : opsAux fuel s = some os) :
    ∀ o ∈ os, o.2 <:+: s := by
  induction fuel generalizing s os with
  | zero => cases s <;> simp_all [opsAux]
  | succ fuel ih =>
    cases s with
    | nil => simp_all [opsAux]
    | cons op pc =>
      simp only [opsAux] at h
      split at h
      · cases h
      · next opcode data rest hget =>
        -- the first op's data, then the ops of the rest, a suffix of the script
        obtain ⟨hdata, hrest⟩ := getOp_infix hget
        obtain ⟨os', hos', rfl⟩ := Option.map_eq_some_iff.mp h
        intro o ho
        rcases List.mem_cons.mp ho with rfl | ho
        · exact hdata
        · exact (ih hos' o ho).trans hrest.isInfix

/-- `IsPushOnly` walks the ops and finds none above `OP_16`. -/
theorem isPushOnlyAux_iff :
    isPushOnlyAux fuel s = true ↔ ∃ os, opsAux fuel s = some os ∧ ∀ o ∈ os, o.1 ≤ op16 := by
  induction fuel generalizing s with
  | zero => cases s <;> simp [isPushOnlyAux, opsAux]
  | succ fuel ih =>
    cases s with
    | nil => simp [isPushOnlyAux, opsAux]
    | cons op pc =>
      simp only [isPushOnlyAux, opsAux]
      split
      · simp
      · next opcode data rest _ =>
        -- an op above `OP_16` stops the walk; any other goes on with the rest
        by_cases hop : op16 < opcode
        · simp only [hop, if_true, Bool.false_eq_true, false_iff, not_exists, not_and]
          intro os hos hall
          obtain ⟨os', -, rfl⟩ := Option.map_eq_some_iff.mp hos
          exact absurd (hall _ List.mem_cons_self) (by simpa using hop)
        · simp only [hop, if_false, ih, Option.map_eq_some_iff]
          constructor
          · rintro ⟨os, hos, hall⟩
            refine ⟨_, ⟨os, hos, rfl⟩, ?_⟩
            intro o ho
            rcases List.mem_cons.mp ho with rfl | ho
            · exact UInt8.not_lt.mp hop
            · exact hall o ho
          · rintro ⟨_, ⟨os, hos, rfl⟩, hall⟩
            exact ⟨os, hos, fun o ho => hall o (List.mem_cons_of_mem _ ho)⟩

theorem isPushOnly_iff : isPushOnly s = true ↔ ∃ os, ops s = some os ∧ ∀ o ∈ os, o.1 ≤ op16 :=
  isPushOnlyAux_iff

/-- `GetScriptPushes` is the hex of the data pushes of the ops. -/
theorem getScriptPushesAux_eq :
    getScriptPushesAux fuel s = (opsAux fuel s).map fun os => (dataPushes os).map hexStr := by
  induction fuel generalizing s with
  | zero => cases s <;> rfl
  | succ fuel ih =>
    cases s with
    | nil => rfl
    | cons op pc =>
      simp only [getScriptPushesAux, opsAux]
      split
      · rfl
      · next opcode data rest _ =>
        rw [ih, Option.map_map, Option.map_map]
        congr 1
        funext os
        by_cases hop : opcode ≤ opPushdata4 <;> simp [dataPushes, hop]

theorem getScriptPushes_eq :
    getScriptPushes s = (ops s).map fun os => (dataPushes os).map hexStr :=
  getScriptPushesAux_eq

/-- The ops of a script that starts with an opcode above `OP_PUSHDATA4`: that opcode alone, then
the ops of the rest. -/
theorem ops_cons_of_pushdata4_lt {opcode : UInt8} (h : opPushdata4 < opcode) (pc : CScript) :
    ops (opcode :: pc) = (ops pc).map ((opcode, []) :: ·) := by
  simp [ops, opsAux, getOp_of_pushdata4_lt h]

end Walks

/-! ## Writing a push -/

/-- `CScript << std::vector<uint8_t>`: the length itself below `OP_PUSHDATA1`, else `OP_PUSHDATA1`,
`OP_PUSHDATA2` or `OP_PUSHDATA4` and the length in one, two or four little-endian bytes; then the
bytes. -/
def pushData (b : List UInt8) : CScript :=
  (if b.length < opPushdata1.toNat then [b.length.toUInt8]
   else if b.length ≤ 0xff then [opPushdata1, b.length.toUInt8]
   else if b.length ≤ 0xffff then opPushdata2 :: leBytes 2 b.length
   else opPushdata4 :: leBytes 4 b.length) ++ b

/-- A length field written little-endian and read back. -/
theorem leValue_take_leBytes (w n : Nat) (post : List UInt8) :
    leValue ((leBytes w n ++ post).take w) = n % 256 ^ w := by
  rw [List.take_left' (length_leBytes w n), leValue_leBytes]

/-- A push is read as its opcode, then its length and its data. -/
theorem getOp_of_readPushSize {opcode : UInt8} {pc data rest : CScript}
    (hop : opcode ≤ opPushdata4) (hsize : readPushSize opcode pc = some (data.length, data ++ rest)) :
    getOp (opcode :: pc) = some (opcode, data, rest) := by
  rw [getOp, if_pos hop, hsize]
  simp

/-- **A push the encoder wrote is read back** with its data, whatever follows it. -/
theorem getOp_pushData {b : List UInt8} (hb : b.length < 2 ^ 32) (rest : CScript) :
    ∃ opcode, opcode ≤ opPushdata4 ∧ getOp (pushData b ++ rest) = some (opcode, b, rest) := by
  unfold pushData
  split_ifs with h1 h2 h3
  · -- the length itself is the opcode
    have hop : (b.length.toUInt8).toNat = b.length := by
      rw [toNat_toUInt8]; exact Nat.mod_eq_of_lt (by simp [opPushdata1] at h1; omega)
    have hlt : b.length.toUInt8 < opPushdata1 := by rw [UInt8.lt_iff_toNat_lt, hop]; exact h1
    have hle : b.length.toUInt8 ≤ opPushdata4 := by
      rw [UInt8.le_iff_toNat_le, hop]; simp [opPushdata4, opPushdata1] at h1 ⊢; omega
    refine ⟨_, hle, ?_⟩
    rw [List.singleton_append, List.cons_append]
    refine getOp_of_readPushSize hle ?_
    rw [readPushSize, if_pos hlt, hop]
  · -- `OP_PUSHDATA1` and one length byte
    have hlen : b.length % 256 = b.length := Nat.mod_eq_of_lt (by omega)
    refine ⟨opPushdata1, by decide, ?_⟩
    rw [List.append_assoc, List.cons_append, List.singleton_append]
    refine getOp_of_readPushSize (by decide) ?_
    rw [readPushSize, if_neg (by decide), if_pos rfl,
      if_neg (by simp only [List.length_cons]; omega)]
    simp [leValue, hlen]
  · -- `OP_PUSHDATA2` and two length bytes
    refine ⟨opPushdata2, by decide, ?_⟩
    rw [List.append_assoc, List.cons_append]
    refine getOp_of_readPushSize (by decide) ?_
    rw [readPushSize, if_neg (by decide), if_neg (by decide), if_pos rfl,
      if_neg (by simp only [List.length_append, length_leBytes]; omega),
      leValue_take_leBytes, List.drop_left' (length_leBytes 2 _), Nat.mod_eq_of_lt (by omega)]
  · -- `OP_PUSHDATA4` and four length bytes
    refine ⟨opPushdata4, by decide, ?_⟩
    rw [List.append_assoc, List.cons_append]
    refine getOp_of_readPushSize (by decide) ?_
    rw [readPushSize, if_neg (by decide), if_neg (by decide), if_neg (by decide),
      if_neg (by simp only [List.length_append, length_leBytes]; omega),
      leValue_take_leBytes, List.drop_left' (length_leBytes 4 _), Nat.mod_eq_of_lt (by omega)]

/-- The ops of a script that is one push: that push. -/
theorem ops_pushData {b : List UInt8} (hb : b.length < 2 ^ 32) :
    ∃ opcode, opcode ≤ opPushdata4 ∧ ops (pushData b) = some [(opcode, b)] := by
  obtain ⟨opcode, hop, hget⟩ := getOp_pushData hb []
  rw [List.append_nil] at hget
  refine ⟨opcode, hop, ?_⟩
  obtain ⟨c, cs, hcs⟩ : ∃ c cs, pushData b = c :: cs := by
    unfold pushData
    split_ifs <;> exact ⟨_, _, rfl⟩
  rw [hcs] at hget ⊢
  simp [ops, opsAux, hget]

/-! ## Output types -/

/-- `txnouttype`, the kinds `SafeSolver` tells apart. -/
inductive TxnOutType where
  | nonstandard
  | pubkey
  | pubkeyhash
  | scripthash
  | multisig
  | nullData
deriving DecidableEq, Repr

/-- The kinds `MatchPayToPubkey`, `MatchPayToPubkeyHash` and `MatchMultisig` recognise. -/
inductive KeyType where
  | pubkey
  | pubkeyhash
  | multisig
deriving DecidableEq, Repr

def KeyType.toTxnOutType : KeyType → TxnOutType
  | .pubkey => .pubkey
  | .pubkeyhash => .pubkeyhash
  | .multisig => .multisig

/-- `CScript::IsPayToScriptHash`: `OP_HASH160`, a 20-byte push, `OP_EQUAL`. -/
def isPayToScriptHash (s : CScript) : Bool :=
  s.length == 23 && s[0]? == some opHash160 && s[1]? == some 0x14 && s[22]? == some opEqual

/-- `SafeSolver`'s type: pay-to-script-hash first; then an `OP_RETURN` output of two bytes at
least whose rest is push-only; then the key matchers, given as `matchKeys`. -/
def safeSolver (matchKeys : CScript → Option KeyType) (s : CScript) : Option TxnOutType :=
  if isPayToScriptHash s then some .scripthash
  else if 2 ≤ s.length ∧ s.head? = some opReturn ∧ isPushOnly s.tail = true then some .nullData
  else (matchKeys s).map KeyType.toTxnOutType

/-- `GetOutputType`: the type `SafeSolver` finds; `none` where it finds none (`TX_NONSTANDARD`). -/
def getOutputType (matchKeys : CScript → Option KeyType) (s : CScript) : Option TxnOutType :=
  safeSolver matchKeys s

/-- **A null-data output is exactly a push-only `OP_RETURN` output**: two bytes at least,
`OP_RETURN` first, and the rest parses into ops none of which is above `OP_16`. -/
theorem getOutputType_eq_nullData_iff (matchKeys : CScript → Option KeyType) (s : CScript) :
    getOutputType matchKeys s = some .nullData ↔
      2 ≤ s.length ∧ s.head? = some opReturn ∧ isPushOnly s.tail = true := by
  unfold getOutputType safeSolver
  by_cases hp2sh : isPayToScriptHash s = true
  · -- a pay-to-script-hash script starts with `OP_HASH160`, not `OP_RETURN`
    have hhead : s.head? = some opHash160 := by
      simp only [isPayToScriptHash, Bool.and_eq_true, beq_iff_eq] at hp2sh
      rw [List.head?_eq_getElem?]; exact hp2sh.1.1.2
    simp [hp2sh, hhead, opHash160, opReturn]
  · rw [if_neg hp2sh]
    split_ifs with hnull
    · simp [hnull]
    · simp only [hnull, iff_false]
      intro h
      obtain ⟨k, -, hk⟩ := Option.map_eq_some_iff.mp h
      cases k <;> simp [KeyType.toTxnOutType] at hk

end Script

end WormholeCore
