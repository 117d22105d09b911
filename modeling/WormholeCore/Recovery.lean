/-
# `WormholeCore.Recovery` — a node across reorganisations (omnicore.cpp, validation.cpp).

`Node` runs the blocks of one chain forward. A node also keeps what a reorganisation reads back:

* the state files of the blocks it processed near the tip (`mastercore_save_state`), of the last
  `MAX_STATE_HISTORY + 1` heights (`prune_state_files`); each block's files are kept here as the
  state they were written at, the file of a type being `writeStateFile hashOf` of it;
* the branch its smart-property and ERC721 stores hold, down which `load_most_relevant_state`
  walks with `pprev` from the smart-property watermark;
* the active chain, and `reorgRecoveryMode`, which `mastercore_handler_disc_begin` sets.

`ConnectTip` of a block runs `mastercore_handler_block_begin`, with the recovery when a block was
disconnected before, and then, with the block on top of the active chain, the block itself
(`scanBlocks`). The recovery rolls the fee cache back, and `load_most_relevant_state`

* pops every block of the stores' branch that left the active chain (`popDisconnected`);
* walks down from there and reads the files of the first block whose five files all load,
  popping every block it passes (`walkBack`);

then wipes the state (`clear_all_state`) when that fails, and rescans the active chain above the
block it settled at (`msc_initial_scan`).

`NodeReachable` is the set of nodes a run reaches: from a fresh node, blocks connected on top of
the active chain and blocks disconnected from its tip, in any order.

## What is proved here

* `walkBack_load`, `loadMostRelevantState_load`, `recoverState_load` — a recovery whose walk
  starts at a block with files the reader can hold settles at that block, with the state the
  files give over the popped stores;
* `NodeReachable.connectChain` — blocks connected one after another from a reachable node with no
  recovery pending reach a reachable node;
* `reorg_recovery_freezes_issuer` — **a recovery can leave the issuer of a managed property frozen
  for it**: the smart-property store pops a block that handed the property over twice back to the
  first handover, while the files give the frozen pairs of the block before.
-/
import WormholeCore.Reorg
import WormholeCore.StateFiles
import WormholeCore.Freeze

namespace WormholeCore

open Lib

/-! ## The node -/

/-- **A node**: the state of its handlers, its state files, the branch its stores hold, the active
chain and `reorgRecoveryMode`. -/
structure NodeState where
  state : OmniState
  /-- the state files of `MPPersistencePath`: per block, the state they were written at -/
  files : List (Block × OmniState)
  /-- the last block processed and its ancestors, newest first: what `pprev` walks down from the
  watermarks -/
  branch : List Block
  /-- `chainActive`, tip first -/
  active : List Block
  reorgRecoveryMode : Bool

/-- A node that has processed nothing. -/
def NodeState.fresh (cfg : NodeConfig) : NodeState := ⟨OmniState.fresh cfg, [], [], [], false⟩

/-- `chainActive.Contains(pindex)`. -/
def chainContains (active : List Block) (b : Block) : Bool := active.any fun a => a.hash == b.hash

/-- `GetHeight()`: the height of the active chain's tip, `-1` for an empty chain. -/
def getHeight (active : List Block) : Int := (active.head?.map Block.height).getD (-1)

/-! ## Processing blocks and saving their state -/

/-- `writePersistence(block_now)`: no files for a block far below the tip. -/
def writePersistence (active : List Block) (blockNow : Int) : Bool :=
  !decide (getHeight active > blockNow + maxStateHistory)

/-- `prune_state_files(topIndex)`: the files of blocks more than `MAX_STATE_HISTORY` below `top`
go. -/
def pruneStateFiles (top : Block) (files : List (Block × OmniState)) : List (Block × OmniState) :=
  files.filter fun f => !decide (top.height - f.1.height > maxStateHistory)

/-- **`mastercore_save_state(pBlockIndex)`**, when `writePersistence` allows it: the files of the
block, which replace any it had, the prune, and the smart-property watermark. -/
def saveState (b : Block) (n : NodeState) : NodeState :=
  if writePersistence n.active b.height then
    { n with state := { n.state with sps := n.state.sps.setWatermark b.hash },
             files := pruneStateFiles b ((b, n.state) :: n.files.filter fun f => f.1.hash != b.hash) }
  else n

@[simp] theorem saveState_active (b : Block) (n : NodeState) : (saveState b n).active = n.active := by
  unfold saveState
  split <;> rfl

@[simp] theorem saveState_reorgRecoveryMode (b : Block) (n : NodeState) :
    (saveState b n).reorgRecoveryMode = n.reorgRecoveryMode := by
  unfold saveState
  split <;> rfl

/-- Saving moves only the smart-property watermark of the state. -/
@[simp] theorem getSP_saveState (b : Block) (n : NodeState) (p : PropertyId) :
    (saveState b n).state.sps.getSP p = n.state.sps.getSP p := by
  unfold saveState
  split <;> rfl

@[simp] theorem frozen_saveState (b : Block) (n : NodeState) :
    (saveState b n).state.frozen = n.state.frozen := by
  unfold saveState
  split <;> rfl

/-- The blocks `msc_initial_scan(nFirstBlock)` processes: those of the active chain from height
`nFirstBlock` up to the tip, oldest first. -/
def mscInitialScanBlocks (nFirstBlock : Int) (active : List Block) : List Block :=
  (active.filter fun b => decide (nFirstBlock ≤ b.height)).reverse

/-- **Blocks processed one after another**, oldest first: the blocks of `msc_initial_scan`, or the
block `ConnectTip` connects. Each runs `processBlock`, and `mastercore_handler_block_end` saves its
state files. When `DistributeWHCToBurner` meets a transaction missing from `p_txlistdb`, it wipes
the state and rescans the active chain from the genesis block, and the end of the block goes on
with its files and the ERC721 flush. `fuel` bounds the blocks processed, rescans included. -/
def scanBlocks (cfg : NodeConfig) : Nat → NodeState → List Block → Except String NodeState
  | _, n, [] => pure n
  | 0, _, _ :: _ => throw "msc_initial_scan: out of fuel"
  | fuel + 1, n, b :: rest => do
    match ← processBlock cfg n.state b with
    | .done s =>
      -- `processBlock` ends with the ERC721 flush, which nothing the files hold depends on
      let n := saveState b { n with state := s, branch := n.active.dropWhile fun a => a.hash != b.hash }
      scanBlocks cfg fuel n rest
    | .reparse pending =>
      -- `clear_all_state` keeps only the pending burns, which the walk left as `pending`
      let wiped := { n with state := { clearAllState cfg n.state with pendingCreateWHC := pending },
                            branch := [] }
      let n ← scanBlocks cfg fuel wiped (mscInitialScanBlocks cfg.params.genesisBlock n.active)
      let n := saveState b n
      scanBlocks cfg fuel
        { n with state := { n.state with erc721sps := n.state.erc721sps.flush b.hash,
                                         erc721tokens := n.state.erc721tokens.flush b.hash } } rest

@[simp] theorem scanBlocks_nil (cfg : NodeConfig) (fuel : Nat) (n : NodeState) :
    scanBlocks cfg fuel n [] = pure n := by
  cases fuel <;> rfl

/-- A scan changes neither the active chain nor `reorgRecoveryMode`. -/
theorem scanBlocks_frame {cfg : NodeConfig} :
    ∀ {fuel : Nat} {n n' : NodeState} {bs : List Block}, scanBlocks cfg fuel n bs = .ok n' →
      n'.active = n.active ∧ n'.reorgRecoveryMode = n.reorgRecoveryMode
  | _, _, _, [], h => by
    rw [scanBlocks_nil] at h
    cases h
    exact ⟨rfl, rfl⟩
  | 0, _, _, _ :: _, h => by cases h
  | fuel + 1, n, n', b :: rest, h => by
    simp only [scanBlocks, Except.bind_eq_ok] at h
    obtain ⟨o, -, h⟩ := h
    cases o with
    | done s =>
      obtain ⟨h₁, h₂⟩ := scanBlocks_frame h
      exact ⟨by simpa using h₁, by simpa using h₂⟩
    | reparse pending =>
      -- the rescan from the genesis block, then the rest of the scan
      simp only [Except.bind_eq_ok] at h
      obtain ⟨n₁, h₁, h⟩ := h
      obtain ⟨ha₁, hm₁⟩ := scanBlocks_frame h₁
      obtain ⟨ha, hm⟩ := scanBlocks_frame h
      exact ⟨by simpa [ha₁] using ha, by simpa [hm₁] using hm⟩

/-! ## `load_most_relevant_state` -/

/-- `setWatermark(hash)` of the smart-property store, and of the ERC721 stores when `erc721`. -/
def setWatermarks (erc721 : Bool) (blockHash : Uint256) (s : OmniState) : OmniState :=
  let s := { s with sps := s.sps.setWatermark blockHash }
  if erc721 then
    { s with erc721tokens := s.erc721tokens.setWatermark blockHash,
             erc721sps := s.erc721sps.setWatermark blockHash }
  else s

/-- `popBlock(hash)` of the smart-property store, then of the ERC721 token and property stores when
`erc721`; `none` when one cannot roll back. -/
def popStores (erc721 : Bool) (blockHash : Uint256) (s : OmniState) : Option OmniState :=
  let (remainingSPs, sps) := s.sps.popBlock blockHash
  if remainingSPs < 0 then none
  else
    let s := { s with sps := sps }
    if !erc721 then some s
    else
      let (tokensPopped, erc721tokens) := s.erc721tokens.popBlock blockHash
      if !tokensPopped then none
      else
        let (spsPopped, erc721sps) := s.erc721sps.popBlock blockHash
        if !spsPopped then none
        else some { s with erc721tokens := erc721tokens, erc721sps := erc721sps }

/-- **The first loop of `load_most_relevant_state`**: down the stores' branch, pop every block that
left the active chain (the ERC721 stores from `ERC721_BLOCK` on) and move the watermarks to the
block below. The result is the branch from the first block of the active chain. `none` is the `-1`
of a store that cannot roll back: the stores a failed pop leaves are wiped by the
`clear_all_state` that follows, and no pop touches the pending burns that the wipe keeps. -/
def popDisconnected (cfg : NodeConfig) (active : List Block) :
    List Block → OmniState → Option (List Block × OmniState)
  | [], s => some ([], s)
  | b :: below, s =>
    if chainContains active b then some (b :: below, s)
    else
      match popStores (decide (cfg.params.erc721Block ≤ b.height)) b.hash s with
      | none => none
      | some s =>
        -- `spBlockIndex = spBlockIndex->pprev`, and the watermarks follow it
        let s := match below.head? with
          | some prev => setWatermarks (decide (cfg.params.erc721Block ≤ prev.height)) prev.hash s
          | none => s
        popDisconnected cfg active below s

/-- The watermark checks and the first loop of `load_most_relevant_state`: the branch from the
first block of the active chain, and the stores popped back to it; `none` is a `-1`. -/
def rollBackStores (cfg : NodeConfig) (n : NodeState) (s : OmniState) :
    Option (List Block × OmniState) := do
  let spWatermark ← s.sps.getWatermark
  -- `GetBlockIndex(spWatermark)`, on the branch the stores hold
  let branch := n.branch.dropWhile fun b => b.hash != spWatermark
  let spBlock ← branch.head?
  if cfg.params.erc721Block ≤ spBlock.height ∧ (s.erc721tokens.getWatermark ≠ some spWatermark ∨
      s.erc721sps.getWatermark ≠ some spWatermark) then
    none
  else popDisconnected cfg n.active branch s

/-- Where the walk back of `load_most_relevant_state` ends. -/
inductive WalkEnd where
  /-- The loop ended, with `res` and the blocks left in `persistedBlocks`. -/
  | ended (res : Int) (persisted : List (Block × OmniState)) (s : OmniState)
  /-- A store could not roll back: `-1`. -/
  | popFailed (s : OmniState)

section Load

variable (boost : Boost) (hashOf : List String → String)

/-- The files of `curTip`, when `persistedBlocks` holds the block: whether all five loaded (the
loop stops at the first that fails); a block whose files fail leaves `persistedBlocks`. -/
def loadPersisted (curTip : Block) (persisted : List (Block × OmniState)) (s : OmniState) :
    Except String (Bool × List (Block × OmniState) × OmniState) :=
  match persisted.find? fun f => f.1.hash == curTip.hash with
  | none => pure (false, persisted, s)
  | some f => do
    let (success, s) ← loadStateFiles boost hashOf (writeStateFile hashOf f.2) fileTypes (-1) s
    if 0 ≤ success then pure (true, persisted, s)
    else pure (false, persisted.filter fun g => g.1.hash != curTip.hash, s)

/-- **The second loop of `load_most_relevant_state`**: from `curTip` down, while `persistedBlocks`
is not empty and the block is above `abortRollBackBlock`, read the files of the block and settle
at it if they all load; otherwise pop it from the three stores and move the watermarks down. -/
def walkBack (abortRollBackBlock : Int) :
    List Block → List (Block × OmniState) → OmniState → Except String WalkEnd
  | [], persisted, s => pure (.ended (-1) persisted s)
  | curTip :: below, persisted, s =>
    if persisted.isEmpty ∨ curTip.height ≤ abortRollBackBlock then pure (.ended (-1) persisted s)
    else do
      let (loaded, persisted, s) ← loadPersisted boost hashOf curTip persisted s
      if loaded then pure (.ended curTip.height persisted s)
      else
        match popStores true curTip.hash s with
        | none => pure (.popFailed s)
        | some s =>
          let s := match below.head? with
            | some prev => setWatermarks true prev.hash s
            | none => s
          walkBack abortRollBackBlock below persisted s

/-- **`load_most_relevant_state()`**: the height of the block the node settled at, with the state;
`-1` makes the caller wipe the state. -/
def loadMostRelevantState (cfg : NodeConfig) (n : NodeState) (s : OmniState) :
    Except String (Int × OmniState) :=
  match rollBackStores cfg n s with
  | none => pure (-1, s)
  | some (walk, s) => do
    -- `persistedBlocks`: the files of blocks in the active chain
    let persisted := n.files.filter fun f => chainContains n.active f.1
    let abortRollBackBlock := (walk.head?.map Block.height).getD 0 - (maxStateHistory + 1)
    match ← walkBack boost hashOf abortRollBackBlock walk persisted s with
    | .popFailed s => pure (-1, s)
    | .ended res persisted s => pure (if persisted.isEmpty then -1 else res, s)

/-- **The recovery of `mastercore_handler_block_begin`** before block `b`, after a disconnection:
`RollBackCache` to the block, `load_most_relevant_state`, `clear_all_state` when it fails, and
`msc_initial_scan` of the active chain above the block it settled at, or from the genesis block
after a wipe. -/
def recoverState (cfg : NodeConfig) (fuel : Nat) (n : NodeState) (b : Block) :
    Except String NodeState := do
  let s := { n.state with feeCache := n.state.feeCache.rollBackCache n.state.sps b.height }
  let (best, s) ← loadMostRelevantState boost hashOf cfg n s
  let n := { n with reorgRecoveryMode := false }
  if best < 0 then
    scanBlocks cfg fuel { n with state := clearAllState cfg s, branch := [] }
      (mscInitialScanBlocks cfg.params.genesisBlock n.active)
  else
    scanBlocks cfg fuel { n with state := s, branch := n.active.dropWhile fun a => decide (best < a.height) }
      (mscInitialScanBlocks (best + 1) n.active)

/-! ## Runs -/

/-- **`ConnectTip` of block `b`**: `mastercore_handler_block_begin`, with the recovery when a block
was disconnected before, then the block on top of the active chain. -/
def connectBlock (cfg : NodeConfig) (fuel : Nat) (n : NodeState) (b : Block) :
    Except String NodeState := do
  let n ← if n.reorgRecoveryMode then recoverState boost hashOf cfg fuel n b else pure n
  scanBlocks cfg fuel { n with active := b :: n.active } [b]

end Load

/-- **`DisconnectTip`**: the tip leaves the active chain and `mastercore_handler_disc_begin` sets
`reorgRecoveryMode`; nothing else happens until the next block connects. -/
def disconnectTip (n : NodeState) : NodeState :=
  { n with active := n.active.tail, reorgRecoveryMode := true }

/-- A block `ConnectTip` may connect: a child of the tip. -/
def extendsTip (active : List Block) (b : Block) : Bool :=
  active.isEmpty || b.height == getHeight active + 1

/-- **The nodes a run reaches**: from a fresh node, a block connected on top of the active chain or
the tip disconnected, in any order. -/
inductive NodeReachable (cfg : NodeConfig) (boost : Boost) (hashOf : List String → String) :
    NodeState → Prop
  | fresh : NodeReachable cfg boost hashOf (NodeState.fresh cfg)
  | connect {n n' : NodeState} (b : Block) (fuel : Nat) : NodeReachable cfg boost hashOf n →
      extendsTip n.active b = true → connectBlock boost hashOf cfg fuel n b = .ok n' →
      NodeReachable cfg boost hashOf n'
  | disconnect {n : NodeState} : NodeReachable cfg boost hashOf n → n.active.isEmpty = false →
      NodeReachable cfg boost hashOf (disconnectTip n)

/-- Blocks connected one after another to a node with no recovery pending: `ConnectTip` of each on
top of the last, which reads no state file. -/
def connectChain (cfg : NodeConfig) (fuel : Nat) : NodeState → List Block → Except String NodeState
  | n, [] => pure n
  | n, b :: bs =>
    if extendsTip n.active b then do
      let n ← scanBlocks cfg fuel { n with active := b :: n.active } [b]
      connectChain cfg fuel n bs
    else throw "ConnectTip: not a child of the tip"

section Runs

variable {cfg : NodeConfig} {boost : Boost} {hashOf : List String → String}

/-- Without a recovery pending, `ConnectTip` only processes the block. -/
theorem connectBlock_of_not_recovering {fuel : Nat} {n : NodeState} (b : Block)
    (h : n.reorgRecoveryMode = false) :
    connectBlock boost hashOf cfg fuel n b = scanBlocks cfg fuel { n with active := b :: n.active } [b] := by
  simp [connectBlock, h]

/-- **A chain connected from a reachable node with no recovery pending reaches a reachable node.**
-/
theorem NodeReachable.connectChain {fuel : Nat} :
    ∀ {n n' : NodeState} {bs : List Block}, NodeReachable cfg boost hashOf n →
      n.reorgRecoveryMode = false → WormholeCore.connectChain cfg fuel n bs = .ok n' →
      NodeReachable cfg boost hashOf n'
  | _, _, [], hn, _, h => by
    cases h
    exact hn
  | n, n', b :: bs, hn, hmode, h => by
    rw [WormholeCore.connectChain] at h
    by_cases hext : extendsTip n.active b = true
    case neg =>
      rw [if_neg hext] at h
      cases h
    case pos =>
      rw [if_pos hext, Except.bind_eq_ok] at h
      obtain ⟨n₁, h₁, h⟩ := h
      -- the block is processed as `ConnectTip` processes it, and leaves no recovery pending
      have hstep : connectBlock boost hashOf cfg fuel n b = .ok n₁ := by
        rw [connectBlock_of_not_recovering b hmode, h₁]
      have hmode₁ : n₁.reorgRecoveryMode = false := by
        rw [(scanBlocks_frame h₁).2]
        exact hmode
      exact NodeReachable.connectChain (.connect b fuel hn hext hstep) hmode₁ h

end Runs

/-! ## A recovery that settles at a block with readable files -/

/-- A block with no transaction on a state with no crowdsale and no pending burn only flushes the
ERC721 stores. -/
theorem processBlock_quiet {cfg : NodeConfig} {s : OmniState} {b : Block}
    (hcrowds : s.crowds.entries = []) (hpending : s.pendingCreateWHC = []) (htxs : b.txs = []) :
    processBlock cfg s b = .ok (.done { s with erc721sps := s.erc721sps.flush b.hash,
                                               erc721tokens := s.erc721tokens.flush b.hash }) := by
  have hexpire : s.eraseExpiredCrowdsale b.time b.hash = .ok (0, s) := by
    simp [OmniState.eraseExpiredCrowdsale, hcrowds]
  -- nothing is pending, so the walk finishes at once and nothing is credited
  have hdistribute : distributeWHCToBurner cfg s b.height b.hash = .ok (.done s) := by
    have hkept : { s with pendingCreateWHC := [] } = s := by rw [← hpending]
    simp [distributeWHCToBurner, hpending, distributeWalk, hkept]
  simp [processBlock, hexpire, htxs, hdistribute]


section Settle

variable {boost : Boost} (hsplit : Split.TokenCompress boost.split) (hcast : boost.CastDocumented)
  {hashOf : List String → String} (hhash : ∀ ls, ∀ x ∈ (hashOf ls).toList, x ≠ '\r')
include hsplit hcast hhash

/-- The files of a block the reader can hold load, and the block stays in `persistedBlocks`. -/
theorem loadPersisted_load {curTip : Block} {persisted : List (Block × OmniState)}
    {f : Block × OmniState} (hf : persisted.find? (fun g => g.1.hash == curTip.hash) = some f)
    (hs : Storable f.2) (s : OmniState) :
    loadPersisted boost hashOf curTip persisted s = .ok (true, persisted, loadedState f.2 s) := by
  rw [loadPersisted, hf]
  simp [loadStateFiles_written boost hsplit hcast hashOf hhash hs s]

/-- **The walk back settles at its first block** when that block's files are persisted and the
reader can hold them. -/
theorem walkBack_load {abortRollBackBlock : Int} {curTip : Block} {below : List Block}
    {persisted : List (Block × OmniState)} {f : Block × OmniState}
    (habove : abortRollBackBlock < curTip.height)
    (hf : persisted.find? (fun g => g.1.hash == curTip.hash) = some f) (hs : Storable f.2)
    (s : OmniState) :
    walkBack boost hashOf abortRollBackBlock (curTip :: below) persisted s =
      .ok (.ended curTip.height persisted (loadedState f.2 s)) := by
  -- a block found in `persistedBlocks` makes it non-empty
  have hne : persisted.isEmpty = false :=
    List.isEmpty_eq_false_iff.mpr (List.ne_nil_of_mem (List.mem_of_find?_eq_some hf))
  have hcont : ¬(persisted.isEmpty = true ∨ curTip.height ≤ abortRollBackBlock) := by
    simp only [hne, Bool.false_eq_true, false_or, not_le]
    exact habove
  rw [walkBack, if_neg hcont, loadPersisted_load hsplit hcast hhash hf hs]
  rfl

/-- **`load_most_relevant_state` settles at the first block of the active chain** when the stores
roll back to it and its files are persisted and readable. -/
theorem loadMostRelevantState_load {cfg : NodeConfig} {n : NodeState} {s s' : OmniState}
    {curTip : Block} {below : List Block} {f : Block × OmniState}
    (hroll : rollBackStores cfg n s = some (curTip :: below, s'))
    (hf : (n.files.filter fun g => chainContains n.active g.1).find?
      (fun g => g.1.hash == curTip.hash) = some f)
    (hs : Storable f.2) :
    loadMostRelevantState boost hashOf cfg n s = .ok (curTip.height, loadedState f.2 s') := by
  have habove : curTip.height - (maxStateHistory + 1) < curTip.height := by
    unfold maxStateHistory
    omega
  have hne : (n.files.filter fun g => chainContains n.active g.1).isEmpty = false :=
    List.isEmpty_eq_false_iff.mpr (List.ne_nil_of_mem (List.mem_of_find?_eq_some hf))
  rw [loadMostRelevantState, hroll]
  simp only [List.head?_cons, Option.map_some, Option.getD_some]
  rw [walkBack_load hsplit hcast hhash habove hf hs]
  simp only [bind, Except.bind, hne, Bool.false_eq_true, if_false]
  rfl

/-- **The recovery settles at the first block of the active chain** when its files are readable
and no block of the active chain is above it: the node resumes from the state the files give over
the popped stores, with no rescan. -/
theorem recoverState_load {cfg : NodeConfig} {fuel : Nat} {n : NodeState} {b curTip : Block}
    {below : List Block} {s' : OmniState} {f : Block × OmniState}
    (hroll : rollBackStores cfg n
      { n.state with feeCache := n.state.feeCache.rollBackCache n.state.sps b.height } =
        some (curTip :: below, s'))
    (hf : (n.files.filter fun g => chainContains n.active g.1).find?
      (fun g => g.1.hash == curTip.hash) = some f)
    (hs : Storable f.2) (hheight : 0 ≤ curTip.height)
    (htop : mscInitialScanBlocks (curTip.height + 1) n.active = []) :
    recoverState boost hashOf cfg fuel n b =
      .ok { n with state := loadedState f.2 s', reorgRecoveryMode := false,
                   branch := n.active.dropWhile fun a => decide (curTip.height < a.height) } := by
  rw [recoverState]
  simp only [loadMostRelevantState_load hsplit hcast hhash hroll hf hs, Except.bind_eq_ok]
  simp [not_lt.mpr hheight, htop]

/-- **An empty block after a recovery that settles keeps what the recovery read**: the records of
the popped smart-property store and the frozen set of the files, when the files hold no
crowdsale. -/
theorem connectBlock_load_quiet {cfg : NodeConfig} {fuel : Nat} {n : NodeState} {b curTip : Block}
    {below : List Block} {s' : OmniState} {f : Block × OmniState}
    (hmode : n.reorgRecoveryMode = true)
    (hroll : rollBackStores cfg n
      { n.state with feeCache := n.state.feeCache.rollBackCache n.state.sps b.height } =
        some (curTip :: below, s'))
    (hf : (n.files.filter fun g => chainContains n.active g.1).find?
      (fun g => g.1.hash == curTip.hash) = some f)
    (hs : Storable f.2) (hheight : 0 ≤ curTip.height)
    (htop : mscInitialScanBlocks (curTip.height + 1) n.active = [])
    (hcrowds : f.2.crowds.entries = []) (htxs : b.txs = []) :
    ∃ n', connectBlock boost hashOf cfg (fuel + 1) n b = .ok n' ∧
      (∀ p, n'.state.sps.getSP p = s'.sps.getSP p) ∧ n'.state.frozen = f.2.frozen := by
  have hrecover := @recoverState_load boost hsplit hcast hashOf hhash cfg (fuel + 1) n b curTip below
    s' f hroll hf hs hheight htop
  -- the loaded state holds the crowdsales of the files and no pending burn
  have hprocess := @processBlock_quiet cfg (loadedState f.2 s') b hcrowds rfl htxs
  simp only [connectBlock, hmode, if_true, hrecover]
  simp [scanBlocks, hprocess]
  -- the files set only the counters of the smart-property store
  exact ⟨fun p => rfl, rfl⟩

end Settle

/-! ## A recovery that freezes the issuer -/

/-- The issuer of property `3` freezes (type 185) or unfreezes (type 186) `alice`. -/
def aliceFreezeTx (txid : Uint256) (type : UInt16) : CMPTransaction :=
  { txid := txid, block := 0, blockHash := none, blockTime := 0, sender := "issuer",
    receiver := "alice", type := type, version := 0, property := 3 }

/-- `sender` hands property `3` over to `receiver` (type 70). -/
def changeIssuerTx (txid : Uint256) (sender receiver : Address) : CMPTransaction :=
  { txid := txid, block := 0, blockHash := none, blockTime := 0, sender := sender,
    receiver := receiver, type := 70, version := 0, property := 3 }

/-- Regtest blocks `101` to `104`: the issuer burns one BCH and creates the managed property `3`;
block `103` freezes `alice`; block `104` unfreezes her, hands her the property, and she hands it
to `jack`. -/
def issuerHandover : List Block :=
  [⟨101, 101, 1000, [burnOneBch 1 "issuer"]⟩, ⟨102, 102, 1000, [managedProperty]⟩,
   ⟨103, 103, 1000, [aliceFreezeTx 5 185]⟩,
   ⟨104, 104, 1000, [aliceFreezeTx 6 186, changeIssuerTx 7 "issuer" "alice",
     changeIssuerTx 8 "alice" "jack"]⟩]

/-- The block of height `104` of the branch that replaces block `104`, with no transaction. -/
def replacing104 : Block := ⟨104, 1104, 1000, []⟩

/-- **A recovery can leave the issuer of a managed property frozen for it.** On regtest the issuer
burns one BCH (block `101`) and creates the managed property `3` (block `102`); block `103`
freezes `alice` for it; block `104` unfreezes her, hands her the property, and she hands it on to
`jack`. Block `104` is disconnected and a block `104` with no transaction replaces it. The
recovery pops block `104` from the smart-property store, which restores the record the second
handover saved, issued by `alice`, and settles at block `103`, whose files freeze `alice` for
property `3`. After the new block the node holds a managed property whose issuer is frozen for
it. -/
theorem reorg_recovery_freezes_issuer (boost : Boost) (hsplit : Split.TokenCompress boost.split)
    (hcast : boost.CastDocumented) (hashOf : List String → String)
    (hhash : ∀ ls, ∀ x ∈ (hashOf ls).toList, x ≠ '\r') :
    ∃ n, NodeReachable regtest boost hashOf n ∧ ¬FrozenBalancesSafe regtest n.state ∧
      ∃ e, n.state.sps.getSP 3 = some e ∧ e.manual = true ∧ e.issuer = "alice" ∧
        isAddressFrozen n.state.frozen "alice" 3 = true := by
  -- the run to block `104`, decided together with what the recovery reads of it
  obtain ⟨n₄, hrun, hfacts⟩ := Except.map_eq_ok.1 (show (connectChain regtest 1
      (NodeState.fresh regtest) issuerHandover).map (fun n => decide (
        let d := disconnectTip n
        let s := { d.state with feeCache := d.state.feeCache.rollBackCache d.state.sps replacing104.height }
        n.active.isEmpty = false ∧ extendsTip d.active replacing104 = true ∧
        (rollBackStores regtest d s).map (fun r => (r.1.head?.map fun b => (b.height, b.hash),
          (r.2.sps.getSP 3).map fun e => (e.issuer, e.manual))) =
            some (some (103, 103), some ("alice", true)) ∧
        ((d.files.filter fun g => chainContains d.active g.1).find? fun g => g.1.hash == 103).map
          (fun f => (decide (Storable f.2), f.2.crowds.entries.isEmpty,
            isAddressFrozen f.2.frozen "alice" 3)) = some (true, true, true) ∧
        (mscInitialScanBlocks 104 d.active).isEmpty = true)) = .ok true by decide +kernel)
  obtain ⟨hactive, hextends, hroll, hfile, htop⟩ := of_decide_eq_true hfacts
  -- the stores roll back to block `103`, where property `3` is issued by `alice`
  obtain ⟨⟨walk, s₂⟩, hroll, hview⟩ := Option.map_eq_some_iff.1 hroll
  simp only [Prod.mk.injEq] at hview
  obtain ⟨hhead, hsp⟩ := hview
  obtain ⟨curTip, hcurTip, hcur⟩ := Option.map_eq_some_iff.1 hhead
  obtain ⟨below, rfl⟩ := List.head?_eq_some_iff.1 hcurTip
  simp only [Prod.mk.injEq] at hcur
  obtain ⟨e, he, hissuer⟩ := Option.map_eq_some_iff.1 hsp
  simp only [Prod.mk.injEq] at hissuer
  -- the files of block `103` freeze `alice`
  obtain ⟨f, hf, hfile⟩ := Option.map_eq_some_iff.1 hfile
  simp only [Prod.mk.injEq, decide_eq_true_eq, List.isEmpty_iff] at hfile
  obtain ⟨hstorable, hcrowds, hfrozen⟩ := hfile
  have hf' : ((disconnectTip n₄).files.filter fun g => chainContains (disconnectTip n₄).active g.1).find?
      (fun g => g.1.hash == curTip.hash) = some f := by
    rw [hcur.2]
    exact hf
  have htop' : mscInitialScanBlocks (curTip.height + 1) (disconnectTip n₄).active = [] := by
    rw [hcur.1]
    exact List.isEmpty_iff.1 htop
  -- the recovery settles at block `103`, and the new block changes neither store
  obtain ⟨n', hconnect, hsps, hfrozen'⟩ := @connectBlock_load_quiet boost hsplit hcast hashOf hhash
    regtest 1 _ replacing104 _ _ _ _ rfl hroll hf' hstorable (by omega) htop' hcrowds rfl
  have hd : NodeReachable regtest boost hashOf (disconnectTip n₄) :=
    .disconnect (NodeReachable.connectChain .fresh rfl hrun) hactive
  refine ⟨n', .connect replacing104 2 hd hextends hconnect, fun hsafe => ?_, e, (hsps 3).trans he,
    hissuer.2, hissuer.1, ?_⟩
  · -- the issuer of property `3` is frozen for it
    have hnot := hsafe.issuer_not_frozen 3 e ((hsps 3).trans he)
    rw [hissuer.1, hfrozen', hfrozen] at hnot
    cases hnot
  · rw [hfrozen']
    exact hfrozen

theorem standard_recovery_freezes_issuer :
    Split.TokenCompress Boost.standard.split ∧ Boost.standard.CastDocumented ∧
      ∃ n, NodeReachable regtest Boost.standard (fun _ => "") n ∧
        ¬FrozenBalancesSafe regtest n.state ∧ ∃ e, n.state.sps.getSP 3 = some e ∧ e.manual = true ∧
          e.issuer = "alice" ∧ isAddressFrozen n.state.frozen "alice" 3 = true :=
  ⟨Boost.standard_tokenCompress, Boost.standard_castDocumented,
    reorg_recovery_freezes_issuer Boost.standard Boost.standard_tokenCompress
      Boost.standard_castDocumented (fun _ => "") (fun _ _ h => by simp at h)⟩

end WormholeCore
