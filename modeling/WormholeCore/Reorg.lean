/-
# `WormholeCore.Reorg` — rolling back the ERC721 stores, and recovering from a reorganisation.

When a block is disconnected, `mastercore_handler_disc_begin` sets `reorgRecoveryMode`; the next
`mastercore_handler_block_begin` then recovers:

* `RollBackCache` takes the fee cache back to the fork;
* `load_most_relevant_state` pops the smart-property and ERC721 stores back to the active chain
  (`popBlock` per block) and reads the newest state files of a block of the active chain. The node
  keeps the files of the last `MAX_STATE_HISTORY + 1` blocks it processed (`prune_state_files`);
  when none of them is in the active chain, it reads no file and returns `-1`;
* on `-1`, `clear_all_state`, and `msc_initial_scan` processes the active chain again from the
  genesis block up to the fork (`recoverFromGenesis`).

Two parts of this fail to give back what the active chain gives.

* **Rollback by stamp.** `popBlock(h)` undoes a record only if its `updateBlock` (or
  `updateBlockHash`) is `h` (`Lib.UndoLog.find?_popBlock_of_stamp_ne`). Issuing a token raises its
  property's counters, and a transfer changes a token's owner, without restamping the record: the
  rollback of their block keeps the change (`CMPSPERC721Info.view_popBlock_flush_of_stamp_ne`, and
  `erc721_popBlock_keeps_block_changes` on regtest).
* **Recovery from genesis.** `clear_all_state` is a fresh node that KEPT `pendingCreateWHC`; the
  rescan queues every burn of the active chain a second time. After
  a reorganisation deeper than the kept files, on mainnet, the recovered node has each pending burn
  twice where a node that replays the chain has it once (`deep_reorg_rescan_duplicates_burn`), and
  once the burn matures `DistributeWHCToBurner` credits the first copy and then never passes the
  second (`distributeWHCToBurner_twice_never_ends`).

Reading the state files of a block that IS in the active chain is not modelled here beyond the
file of the pending burns (`Persist`).
-/
import WormholeCore.Purchase
import WormholeCore.Persist

namespace WormholeCore

open Lib

/-! ## The ERC721 rollback on regtest -/

/-- `ERC721_BLOCK` is `110` on regtest: block `110` issues the property and its token `1`. -/
def issueErc721PropertyTx : CMPTransaction :=
  { txid := 20, block := 0, blockHash := none, blockTime := 0, sender := "issuer", receiver := "",
    type := 9, version := 0, erc721Action := issueErc721Property, erc721PropertyName := "N",
    maxErc721number := 10 }

/-- Issue token `tokenID` of ERC721 property `1` to its issuer. -/
def issueErc721TokenTx (txid tokenID : Uint256) : CMPTransaction :=
  { txid := txid, block := 0, blockHash := none, blockTime := 0, sender := "issuer", receiver := "",
    type := 9, version := 0, erc721Action := issueErc721Token, erc721PropertyId := 1,
    erc721TokenId := tokenID }

/-- Transfer token `1` of ERC721 property `1` from its issuer to `holder`. -/
def transferErc721TokenTx : CMPTransaction :=
  { txid := 23, block := 0, blockHash := none, blockTime := 0, sender := "issuer",
    receiver := "holder", type := 9, version := 0, erc721Action := transferRec721Token,
    erc721PropertyId := 1, erc721TokenId := 1 }

/-- Blocks `101` to `110`: the issuer burns one BCH for the fee, then issues the property and its
first token. -/
def erc721Issued : List Block :=
  ⟨101, 101, 1000, [burnOneBch 1 "issuer"]⟩ ::
    (List.range 8).map (fun i : Nat => ⟨102 + i, 102 + i, 1000, []⟩) ++
    [⟨110, 110, 1000, [issueErc721PropertyTx, issueErc721TokenTx 21 1]⟩]

/-- Block `111`: a second token, and the first one handed over. -/
def erc721Block111 : Block := ⟨111, 111, 1000, [issueErc721TokenTx 22 2, transferErc721TokenTx]⟩

/-- **`popBlock` does not take the ERC721 stores back to the previous block.** After block `110`
the property has issued one token, owned by the issuer. Block `111` issues a second and transfers
the first, and is flushed under hash `111`. Both stores then pop block `111` successfully, and
still show two tokens issued and the first one owned by `holder`: neither record was stamped `111`. -/
theorem erc721_popBlock_keeps_block_changes :
    ∃ s, Reachable regtest s ∧ ∃ s', processBlock regtest s erc721Block111 = .ok (.done s') ∧
      (s'.erc721sps.popBlock 111).1 = true ∧ (s'.erc721tokens.popBlock 111).1 = true ∧
      (s.erc721sps.view 1).map (·.haveIssuedNumber) = some 1 ∧
      ((s'.erc721sps.popBlock 111).2.view 1).map (·.haveIssuedNumber) = some 2 ∧
      (s.erc721tokens.view 1 1).map (·.owner) = some "issuer" ∧
      ((s'.erc721tokens.popBlock 111).2.view 1 1).map (·.owner) = some "holder" := by
  obtain ⟨s, hs, h⟩ := Reachable.exists_of_runChain regtest erc721Issued
    (fun s => BlockOutcome.doneAnd (fun s' => decide ((s'.erc721sps.popBlock 111).1 = true ∧
          (s'.erc721tokens.popBlock 111).1 = true ∧
          (s.erc721sps.view 1).map (·.haveIssuedNumber) = some 1 ∧
          ((s'.erc721sps.popBlock 111).2.view 1).map (·.haveIssuedNumber) = some 2 ∧
          (s.erc721tokens.view 1 1).map (·.owner) = some "issuer" ∧
          ((s'.erc721tokens.popBlock 111).2.view 1 1).map (·.owner) = some "holder"))
        (processBlock regtest s erc721Block111)) (by decide)
  -- the run past block `110` decided the property of block `111`'s outcome
  obtain ⟨s', hblock, hpop⟩ := BlockOutcome.eq_done_of_doneAnd h
  exact ⟨s, hs, s', hblock, of_decide_eq_true hpop⟩

/-! ## Recovering by a rescan from the genesis block -/

/-- The blocks whose state files the node keeps after processing `processed`: `prune_state_files`
removes those more than `MAX_STATE_HISTORY` blocks below the last one. -/
def keptStateFiles (processed : List Block) : List Uint256 :=
  match processed.getLast? with
  | none => []
  | some tip => (processed.filter (fun b => tip.height - b.height ≤ maxStateHistory)).map Block.hash

/-- `persistedBlocks` of `load_most_relevant_state`: the kept files whose block is in the active
chain. When it is empty the function returns `-1` without reading a file. -/
def persistedBlocks (kept : List Uint256) (active : List Block) : List Uint256 :=
  kept.filter (fun h => active.any (fun b => b.hash = h))

/-- **The recovery of `mastercore_handler_block_begin` when `load_most_relevant_state` returns
`-1`**: `RollBackCache` to the first block after the fork, `clear_all_state`, then
`msc_initial_scan` over the active chain from the genesis block to the fork. -/
def recoverFromGenesis (cfg : NodeConfig) (s : OmniState) (firstNewHeight : Int)
    (active : List Block) : Except String BlockOutcome :=
  runChain cfg (clearAllState cfg { s with feeCache := s.feeCache.rollBackCache s.sps firstNewHeight })
    active

/-- **A mature burn queued twice stops the crediting.** When the walk of `DistributeWHCToBurner`
meets a mature entry twice in a row and its transaction is in `p_txlistdb`, it credits the first
copy, if it was not credited yet, and then meets a copy that the WHC record lists as credited: it
leaves its iterator in place, and the source loops forever. The walk never finishes. -/
theorem distributeWalk_mature_twice {maxHeight : Int} {e : PendingBurn} {rest kept : List PendingBurn}
    {s : OmniState} {sp : CMPSPInfo.Entry} {update : Nat} (hmature : e.height ≤ maxHeight)
    (hlisted : s.txList.contains e.txid = true) (w : BurnWalk) :
    distributeWalk maxHeight (e :: e :: rest) kept s sp update ≠ .ok w := by
  intro h
  by_cases hcredited : sp.historicalData.contains e.txid = true
  case pos =>
    rw [distributeWalk_credited_never_ends hmature hcredited hlisted] at h
    cases h
  case neg =>
    rw [distributeWalk, if_pos hmature, if_pos (by simpa using hcredited), Except.bind_eq_ok] at h
    obtain ⟨s', hs', h⟩ := h
    -- crediting moves the tally only, so the transaction is still listed, and the second copy
    -- meets the txid the first one recorded
    obtain ⟨m, -, rfl⟩ := OmniState.assertUpdateTallyMap_ok hs'
    rw [if_neg (by rw [hlisted]; decide),
      distributeWalk_credited_never_ends (s := { s with tally := m }) hmature (by simp) hlisted] at h
    cases h

/-- **`DistributeWHCToBurner` does not terminate on every pending list.** When the first pending
entry is mature, its txid is already in the WHC record's `historicalData` and its transaction is
in `p_txlistdb`, the loop neither erases nor passes it. -/
theorem distributeWHCToBurner_never_ends {cfg : NodeConfig} {s : OmniState} {nblockNow : Int}
    {blockHash : Uint256} {e : PendingBurn} {rest : List PendingBurn}
    (hpending : s.pendingCreateWHC = e :: rest)
    (hmature : e.height ≤ nblockNow - distributeHeightOf cfg.network + 1)
    (hcredited : ((s.sps.getSP omniPropertyWhc).getD {}).historicalData.contains e.txid = true)
    (hlisted : s.txList.contains e.txid = true) :
    distributeWHCToBurner cfg s nblockNow blockHash =
      .error "DistributeWHCToBurner: the iterator is not advanced, the loop never ends" := by
  simp only [distributeWHCToBurner, hpending,
    distributeWalk_credited_never_ends hmature hcredited hlisted]
  rfl

/-- A burn of `100` units by `burner` at block `101`, its transaction `7`. -/
def creditedBurn : PendingBurn := ⟨101, 7, "burner", 100⟩

/-- A regtest node whose WHC record lists the burn as credited while the burn is still pending. -/
def creditedBurnPending : OmniState :=
  let s := OmniState.fresh regtest
  { s with
    sps := s.sps.updateSP omniPropertyWhc
      { CMPSPInfo.impliedOmni regtest.exodusAddress with
        historicalData := OrdMap.empty.insert creditedBurn.txid [101, 100] },
    pendingCreateWHC := [creditedBurn],
    txList := OrdMap.empty.insert creditedBurn.txid true }

/-- At block `102` the burn is mature, and the end of the block never finishes. -/
theorem creditedBurnPending_never_ends :
    distributeWHCToBurner regtest creditedBurnPending 102 102 =
      .error "DistributeWHCToBurner: the iterator is not advanced, the loop never ends" :=
  distributeWHCToBurner_never_ends rfl (by decide) (by decide) (by decide)

/-- **A burn queued twice stops `DistributeWHCToBurner`.** When the first two pending entries are
one mature burn whose transaction is in `p_txlistdb`, the end of the block never finishes, whether
the WHC record lists the burn as credited or not. -/
theorem distributeWHCToBurner_twice_never_ends {cfg : NodeConfig} {s : OmniState}
    {nblockNow : Int} {blockHash : Uint256} {e : PendingBurn} {rest : List PendingBurn}
    (hpending : s.pendingCreateWHC = e :: e :: rest)
    (hmature : e.height ≤ nblockNow - distributeHeightOf cfg.network + 1)
    (hlisted : s.txList.contains e.txid = true) (r : BurnOutcome) :
    distributeWHCToBurner cfg s nblockNow blockHash ≠ .ok r := by
  intro h
  simp only [distributeWHCToBurner, hpending] at h
  rw [Except.bind_eq_ok] at h
  obtain ⟨w, hw, -⟩ := h
  exact distributeWalk_mature_twice hmature hlisted w hw

/-- A regtest node holding the burn of transaction `7` twice and no credit for it. -/
def burnQueuedTwice : OmniState :=
  { OmniState.fresh regtest with
    pendingCreateWHC := [creditedBurn, creditedBurn],
    txList := OrdMap.empty.insert creditedBurn.txid true }

/-- At block `102` the burn is mature: the end of the block never finishes, and the model stops
with the message of the loop that does not advance. -/
theorem burnQueuedTwice_never_ends :
    ∃ e, distributeWHCToBurner regtest burnQueuedTwice 102 102 = .error e := by
  cases h : distributeWHCToBurner regtest burnQueuedTwice 102 102 with
  | error e => exact ⟨e, rfl⟩
  | ok r => exact absurd h (distributeWHCToBurner_twice_never_ends rfl (by decide) (by decide) r)

/-- A mainnet node, `msc_debug_fees` at its default. -/
def mainnet : NodeConfig := ⟨.main, true⟩

/-- The genesis block of mainnet, `540336`, with one burn. -/
def genesisBurn : Block := ⟨540336, 1, 1530000000, [burnOneBch 7 "burner"]⟩

/-- `MAX_STATE_HISTORY + 1` blocks after the genesis block, on the branch that the reorganisation
disconnects. -/
def oldBranch : List Block :=
  (List.range 51).map (fun i : Nat => ⟨540337 + i, 1000 + i, 1530000000, []⟩)

/-- **A deep reorganisation recovers with each pending burn twice.** The node processed the genesis
block and `51` blocks after it, so it kept no state file of the genesis block; the reorganisation
disconnects the `51` blocks. `load_most_relevant_state` finds no kept file in the active chain and
returns `-1`, and the recovery rescans the genesis block on top of the pending burn that
`clear_all_state` kept. A node that replays the active chain has the burn once. -/
theorem deep_reorg_rescan_duplicates_burn :
    ∃ s, runChain mainnet (OmniState.fresh mainnet) (genesisBurn :: oldBranch) = .ok (.done s) ∧
      persistedBlocks (keptStateFiles (genesisBurn :: oldBranch)) [genesisBurn] = [] ∧
      ∃ s₁ s₂, recoverFromGenesis mainnet s 540337 [genesisBurn] = .ok (.done s₁) ∧
        runChain mainnet (OmniState.fresh mainnet) [genesisBurn] = .ok (.done s₂) ∧
        s₂.pendingCreateWHC ≠ [] ∧ s₁.pendingCreateWHC = s₂.pendingCreateWHC ++ s₂.pendingCreateWHC := by
  have h : BlockOutcome.doneAnd (fun s =>
      BlockOutcome.doneAnd (fun s₁ =>
        BlockOutcome.doneAnd (fun s₂ => decide (s₂.pendingCreateWHC ≠ [] ∧
            s₁.pendingCreateWHC = s₂.pendingCreateWHC ++ s₂.pendingCreateWHC))
          (runChain mainnet (OmniState.fresh mainnet) [genesisBurn]))
        (recoverFromGenesis mainnet s 540337 [genesisBurn]))
      (runChain mainnet (OmniState.fresh mainnet) (genesisBurn :: oldBranch)) = true := by decide
  -- the old branch's run, the recovery from it and the replay of the active chain, in turn
  obtain ⟨s, hrun, h⟩ := BlockOutcome.eq_done_of_doneAnd h
  obtain ⟨s₁, hrec, h⟩ := BlockOutcome.eq_done_of_doneAnd h
  obtain ⟨s₂, hreplay, h⟩ := BlockOutcome.eq_done_of_doneAnd h
  exact ⟨s, hrun, by decide, s₁, s₂, hrec, hreplay, of_decide_eq_true h⟩

end WormholeCore
