/-
# `WormholeCore.Node` — blocks, burn crediting and the run of a node (omnicore.cpp).

A node processes each block of the active chain in three phases:

* `mastercore_handler_block_begin`: outside a reorganisation, `eraseExpiredCrowdsale`;
* `mastercore_handler_tx` for each transaction: `interpretPacket`, then the transaction is
  recorded in `p_txlistdb` unless its payload did not parse;
* `mastercore_handler_block_end`: `DistributeWHCToBurner` credits the burns that have matured, and
  the ERC721 stores flush their caches under the block's hash.

`DistributeWHCToBurner` walks `pendingCreateWHC` with an iterator that it advances only when it
credits an entry or when the entry is not yet mature. An entry whose txid the WHC record already
lists, and whose transaction is in `p_txlistdb`, is never passed: the loop runs forever. An entry
whose transaction is NOT in `p_txlistdb` makes the node wipe its state (`clear_all_state`) and
rescan the chain from the genesis block; `clear_all_state` does not clear `pendingCreateWHC`.

`Reachable` is the set of states a node can be in by processing blocks forward: the steps above
in any order, from the state of a fresh node, and the wipe of the rescan.
-/
import WormholeCore.Tx

namespace WormholeCore

open Lib

/-! ## Transactions -/

/-- **`mastercore_handler_tx`**: run the packet and record the transaction in `p_txlistdb`, with
its validity, unless its payload did not parse (`PKT_ERROR - 2`). -/
def mastercoreHandlerTx (cfg : NodeConfig) (tx : CMPTransaction) (s : OmniState) : Outcome := do
  let (interpRet, s) ← CMPTransaction.interpretPacket cfg tx s
  if interpRet ≠ pktError - 2 then
    pure (interpRet, { s with txList := s.txList.insert tx.txid (decide (0 ≤ interpRet)) })
  else pure (interpRet, s)

/-! ## Burn crediting -/

/-- Where the walk of `DistributeWHCToBurner` ends. -/
inductive BurnWalk where
  /-- The walk reached the end: the entries left, the state, the WHC record and how many entries
  were credited. -/
  | finished (pending : List PendingBurn) (s : OmniState) (sp : CMPSPInfo.Entry) (update : Nat)
  /-- A transaction was not in `p_txlistdb`: the node wipes its state and rescans, with the
  entries left. -/
  | reparse (pending : List PendingBurn)

/-- The walk of `DistributeWHCToBurner` over `pendingCreateWHC`: `kept` holds the entries passed
(newest first), `rest` those to come. -/
def distributeWalk (maxHeight : Int) :
    List PendingBurn → List PendingBurn → OmniState → CMPSPInfo.Entry → Nat → Except String BurnWalk
  | [], kept, s, sp, update => pure (.finished kept.reverse s sp update)
  | e :: rest, kept, s, sp, update =>
    if e.height ≤ maxHeight then
      if !sp.historicalData.contains e.txid then do
        -- credit the entry and erase it: the iterator moves on
        let sp := { sp with historicalData := sp.historicalData.insert e.txid [e.height, e.amount] }
        let s ← s.assertUpdateTallyMap e.address omniPropertyWhc e.amount
        if !s.txList.contains e.txid then pure (.reparse (kept.reverse ++ rest))
        else distributeWalk maxHeight rest kept s sp (update + 1)
      else
        -- already credited: the iterator is not advanced
        if !s.txList.contains e.txid then pure (.reparse (kept.reverse ++ e :: rest))
        else throw "DistributeWHCToBurner: the iterator is not advanced, the loop never ends"
    else distributeWalk maxHeight rest (e :: kept) s sp update

/-- What `DistributeWHCToBurner` leaves: a state, or the wipe-and-rescan with the entries left. -/
inductive BurnOutcome where
  | done (s : OmniState)
  | reparse (pending : List PendingBurn)

/-- **`DistributeWHCToBurner(nblockNow)`**: credit every burn at least `DISTRIBUTEHEIGHT - 1` blocks
old, record it in the WHC record's `historicalData`, and, if anything was credited, store the
record stamped with the block. -/
def distributeWHCToBurner (cfg : NodeConfig) (s : OmniState) (nblockNow : Int) (blockHash : Uint256) :
    Except String BurnOutcome := do
  let maxHeight := nblockNow - distributeHeightOf cfg.network + 1
  -- a missing WHC record reads as a default `Entry()`
  let sp := (s.sps.getSP omniPropertyWhc).getD {}
  match ← distributeWalk maxHeight s.pendingCreateWHC [] s sp 0 with
  | .reparse pending => pure (.reparse pending)
  | .finished pending s sp update =>
    let s := { s with pendingCreateWHC := pending }
    if 0 < update then
      pure (.done { s with sps := s.sps.updateSP omniPropertyWhc { sp with updateBlock := blockHash } })
    else pure (.done s)

/-- **A mature entry the WHC record already lists, whose transaction is listed, stops the walk**:
the iterator stays on it, and the source loops forever. -/
theorem distributeWalk_credited_never_ends {maxHeight : Int} {e : PendingBurn}
    {rest kept : List PendingBurn} {s : OmniState} {sp : CMPSPInfo.Entry} {update : Nat}
    (hmature : e.height ≤ maxHeight) (hcredited : sp.historicalData.contains e.txid = true)
    (hlisted : s.txList.contains e.txid = true) :
    distributeWalk maxHeight (e :: rest) kept s sp update =
      .error "DistributeWHCToBurner: the iterator is not advanced, the loop never ends" := by
  rw [distributeWalk, if_pos hmature, if_neg (by rw [hcredited]; decide),
    if_neg (by rw [hlisted]; decide)]
  rfl

/-! ## Wiping the state -/

/-- **`clear_all_state()`**: the tally, the crowdsales, the frozen set, the stores and the
transaction list are wiped, the smart-property store gets its WHC record back. `pendingCreateWHC`
is NOT cleared. -/
def clearAllState (cfg : NodeConfig) (s : OmniState) : OmniState where
  tally := OrdMap.empty
  frozen := OrdMap.empty
  sps := s.sps.clear.initburnbch cfg.exodusAddress
  crowds := OrdMap.empty
  feeCache := COmniFeeCache.empty
  erc721sps := s.erc721sps.clear
  erc721tokens := s.erc721tokens.clear
  pendingCreateWHC := s.pendingCreateWHC
  txList := OrdMap.empty

/-! ## Blocks -/

/-- A block of the active chain: its height, hash, time and transactions. -/
structure Block where
  height : Int
  hash : Uint256
  time : Int
  txs : List CMPTransaction

/-- A transaction as `parseTransaction` sees it in its block. -/
def Block.place (b : Block) (tx : CMPTransaction) : CMPTransaction :=
  { tx with block := b.height, blockHash := some b.hash, blockTime := b.time }

/-- What processing a block leaves: the state, or the wipe-and-rescan with the entries left. -/
inductive BlockOutcome where
  | done (s : OmniState)
  | reparse (pending : List PendingBurn)

/-- **A block, outside a reorganisation**: `mastercore_handler_block_begin`, the transactions, then
`mastercore_handler_block_end`. -/
def processBlock (cfg : NodeConfig) (s : OmniState) (b : Block) : Except String BlockOutcome := do
  let (_, s) ← s.eraseExpiredCrowdsale b.time b.hash
  let s ← b.txs.foldlM (fun s tx => do
    let r ← mastercoreHandlerTx cfg (b.place tx) s
    pure r.2) s
  match ← distributeWHCToBurner cfg s b.height b.hash with
  | .reparse pending => pure (.reparse pending)
  | .done s =>
    pure (.done { s with erc721sps := s.erc721sps.flush b.hash,
                         erc721tokens := s.erc721tokens.flush b.hash })

/-- The run of a chain of blocks from a state; a wipe-and-rescan ends the run with the entries
left, which the rescan then starts from. -/
def runChain (cfg : NodeConfig) : OmniState → List Block → Except String BlockOutcome
  | s, [] => pure (.done s)
  | s, b :: bs => do
    match ← processBlock cfg s b with
    | .reparse pending => pure (.reparse pending)
    | .done s => runChain cfg s bs

/-- `p` of the state a block or a run ended in; `false` for a failure or a wipe-and-rescan. A run
on fixed blocks is decided through it. -/
def BlockOutcome.doneAnd (p : OmniState → Bool) : Except String BlockOutcome → Bool
  | .ok (.done s) => p s
  | _ => false

theorem BlockOutcome.eq_done_of_doneAnd {p : OmniState → Bool} {r : Except String BlockOutcome}
    (h : BlockOutcome.doneAnd p r = true) : ∃ s, r = .ok (.done s) ∧ p s = true := by
  unfold BlockOutcome.doneAnd at h
  split at h
  · exact ⟨_, rfl, h⟩
  · cases h

/-! ## Reachable states -/

/-- **The states a node reaches processing blocks forward**, from a fresh node, by any order of its
steps: a transaction, the crowdsale expiry of a block's beginning, the burn crediting and the
ERC721 flush of a block's end, and the wipe of a rescan. -/
inductive Reachable (cfg : NodeConfig) : OmniState → Prop
  | fresh : Reachable cfg (OmniState.fresh cfg)
  | tx {s s' : OmniState} {r : Int} (tx : CMPTransaction) :
      Reachable cfg s → mastercoreHandlerTx cfg tx s = .ok (r, s') → Reachable cfg s'
  | expire {s s' : OmniState} {n : Nat} (blockTime : Int) (blockHash : Uint256) :
      Reachable cfg s → s.eraseExpiredCrowdsale blockTime blockHash = .ok (n, s') → Reachable cfg s'
  | credit {s s' : OmniState} (height : Int) (blockHash : Uint256) :
      Reachable cfg s → distributeWHCToBurner cfg s height blockHash = .ok (.done s') →
        Reachable cfg s'
  | flush {s : OmniState} (blockHash : Uint256) :
      Reachable cfg s →
        Reachable cfg { s with erc721sps := s.erc721sps.flush blockHash,
                               erc721tokens := s.erc721tokens.flush blockHash }
  | rescan {s : OmniState} {pending : List PendingBurn} (height : Int) (blockHash : Uint256) :
      Reachable cfg s → distributeWHCToBurner cfg s height blockHash = .ok (.reparse pending) →
        Reachable cfg { clearAllState cfg s with pendingCreateWHC := pending }

namespace Reachable

variable {cfg : NodeConfig}

/-- The transactions of a block, one after another, keep a state reachable. -/
theorem foldTxs (b : Block) (txs : List CMPTransaction) {s s' : OmniState} (hs : Reachable cfg s)
    (h : txs.foldlM (fun s tx => do
      let r ← mastercoreHandlerTx cfg (b.place tx) s
      pure r.2) s = .ok s') : Reachable cfg s' := by
  refine Except.foldlM_inv (Reachable cfg) _ txs (fun s₁ tx _ s₂ hs₁ hstep => ?_) s s' hs h
  simp only [Except.bind_eq_ok, Except.pure_eq_ok] at hstep
  obtain ⟨⟨r, s₃⟩, hrun, rfl⟩ := hstep
  exact .tx _ hs₁ hrun

/-- **A block processed forward keeps a state reachable.** -/
theorem processBlock {b : Block} {s s' : OmniState} (hs : Reachable cfg s)
    (h : WormholeCore.processBlock cfg s b = .ok (.done s')) : Reachable cfg s' := by
  simp only [WormholeCore.processBlock, Except.bind_eq_ok] at h
  obtain ⟨⟨n, s₁⟩, h₁, s₂, h₂, o, h₃, h⟩ := h
  have hs₂ := foldTxs b b.txs (.expire b.time b.hash hs h₁) h₂
  cases o with
  | reparse pending => cases h
  | done s₃ =>
    cases h
    exact .flush b.hash (.credit b.height b.hash hs₂ h₃)

/-- **The run of a chain keeps a state reachable.** -/
theorem runChain : ∀ {s s' : OmniState} (bs : List Block), Reachable cfg s →
    WormholeCore.runChain cfg s bs = .ok (.done s') → Reachable cfg s'
  | s, s', [], hs, h => by
    cases h
    exact hs
  | s, s', b :: bs, hs, h => by
    simp only [WormholeCore.runChain, Except.bind_eq_ok] at h
    obtain ⟨o, hb, h⟩ := h
    cases o with
    | reparse pending => cases h
    | done s₁ => exact runChain bs (processBlock hs hb) h

/-- **A chain run from a fresh node reaches its last state**: a run that ends in a state where `p`
holds gives a reachable state where `p` holds. -/
theorem exists_of_runChain (cfg : NodeConfig) (bs : List Block) (p : OmniState → Bool)
    (h : BlockOutcome.doneAnd p (WormholeCore.runChain cfg (OmniState.fresh cfg) bs) = true) :
    ∃ s, Reachable cfg s ∧ p s = true := by
  obtain ⟨s, hrun, hp⟩ := BlockOutcome.eq_done_of_doneAnd h
  exact ⟨s, runChain bs .fresh hrun, hp⟩

/-- **A handler run on the last state of a chain**: a run whose last state satisfies `p` and makes
`step` return `code` gives a reachable state, and the state `step` leaves from it. -/
theorem exists_of_runChain_code (cfg : NodeConfig) (bs : List Block)
    (step : OmniState → Except String (Int × OmniState)) (code : Int) (p : OmniState → Bool)
    (h : BlockOutcome.doneAnd (fun s => p s && (step s).toOption.any fun r => r.1 == code)
      (WormholeCore.runChain cfg (OmniState.fresh cfg) bs) = true) :
    ∃ s s', Reachable cfg s ∧ p s = true ∧ step s = .ok (code, s') := by
  obtain ⟨s, hs, hp⟩ := exists_of_runChain cfg bs _ h
  rw [Bool.and_eq_true] at hp
  obtain ⟨hp, hstep⟩ := hp
  cases hr : step s with
  | error e => simp [hr, Except.toOption] at hstep
  | ok r =>
    obtain ⟨c, s'⟩ := r
    simp only [hr, Except.toOption, Option.any_some, beq_iff_eq] at hstep
    subst hstep
    exact ⟨s, s', hs, hp, hr⟩

end Reachable

end WormholeCore
