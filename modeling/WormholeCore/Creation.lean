/-
# `WormholeCore.Creation` — creating a property: the next identifier, issued by the sender.

Three packets create a property record: a fixed issuance (type 50), a crowdsale (type 51) and a
managed property (type 54). Each takes the next identifier of the main ecosystem with
`CMPSPInfo::putSP`, writes the record, and indexes it by the creating transaction. What follows
(the creation fee, the fixed issuance, the notification of the fee cache, the crowdsale) moves
balances and crowdsales, never a record.

A handler is walked with `Lib.WP` towards `Created`: when it succeeds, the registry it leaves is
the registry it was given with one `putSP` of a record issued by the sender and created by the
transaction. From a reachable state no record sits at the next identifier (`FreezeInv`), so the
record is new and the identifier is never handed out twice.

## What is proved here

* `creation_allocates_next_id` — from every state a node reaches processing blocks forward, a
  successful creation packet stores a record at the next main-ecosystem identifier, where there was
  none, issued by the sender and indexed by the transaction; every other record is as it was; the
  main counter moves on by one and the test counter stays.
-/
import WormholeCore.Expiry

namespace WormholeCore

open Lib Lib.Except

namespace CMPSPInfo

/-- `putSP` indexes the new record by its creating transaction. -/
theorem findSPByTX_putSP (db : CMPSPInfo) (ecosystem : Nat) (info : Entry) :
    (db.putSP ecosystem info).2.findSPByTX info.txid = db.peekNextSPID ecosystem := by
  unfold putSP findSPByTX
  split_ifs <;> simp

end CMPSPInfo

/-! ## Frames: the steps after `putSP` leave the registry -/

section Frames

variable {s : OmniState}

theorem wp_payCreateFee_sps (cfg : NodeConfig) (a : Address) (s : OmniState) :
    WP (CMPTransaction.payCreateFee cfg a s) (fun s' => s'.sps = s.sps) fun _ => True :=
  (WP.eq _).mono (fun _ h => congrArg (fun t => t.2.1) (CMPTransaction.payCreateFee_ok h).1.1)
    fun _ _ => trivial

theorem wp_assertUpdateTallyMap_sps (s : OmniState) (who : Address) (p : PropertyId) (a : Int) :
    WP (s.assertUpdateTallyMap who p a) (fun s' => s'.sps = s.sps) fun _ => True :=
  (OmniState.wp_assertUpdateTallyMap_stores s who p a).mono
    (fun _ h => congrArg (fun t => t.2.1) h) fun _ _ => trivial

theorem wp_notifyTotalTokensChanged_sps (s : OmniState) (debug : Bool) (p : PropertyId)
    (block : Int) :
    WP (s.notifyTotalTokensChanged debug p block) (fun s' => s'.sps = s.sps) fun _ => True :=
  (WP.eq _).mono (fun _ h => congrArg (fun t => t.2.1) (OmniState.notifyTotalTokensChanged_ok h).1)
    fun _ _ => trivial

end Frames

/-! ## The creation handlers -/

/-- **What a creation leaves**: when it succeeds, the registry of `s` with one more record, put in
the main ecosystem, issued by the sender and created by the transaction. -/
def Created (s : OmniState) (tx : CMPTransaction) (r : Int × OmniState) : Prop :=
  r.1 = 0 → ∃ info : CMPSPInfo.Entry, r.2.sps = (s.sps.putSP omniPropertyWhc info).2 ∧
    info.issuer = tx.sender ∧ info.txid = tx.txid

section Handlers

variable {cfg : NodeConfig} {tx : CMPTransaction} {s : OmniState}

/-- A refusal creates nothing, and claims nothing. -/
theorem Created.refused {c : Int} (hc : c ≠ 0) (st : OmniState) : Created s tx (c, st) :=
  fun h => absurd h hc

theorem logicMathCreatePropertyFixed_created :
    WP (CMPTransaction.logicMathCreatePropertyFixed cfg tx s) (Created s tx) fun _ => True := by
  dsimp only [CMPTransaction.logicMathCreatePropertyFixed]
  split
  case h_2 => exact WP.pure (Created.refused (by decide) _)
  refine WP.ite_pure (Created.refused (by decide) _) fun heco => ?_
  iterate 6 refine WP.ite_pure (Created.refused (by decide) _) fun _ => ?_
  rw [show tx.ecosystem.toNat = omniPropertyWhc from (not_not.mp heco).symm]
  split
  · exact WP.throw_bind True.intro
  -- the fee, the issuance and the notification move balances only
  refine WP.bind (wp_payCreateFee_sps _ _ _) fun s₁ h₁ => ?_
  refine WP.bind (wp_assertUpdateTallyMap_sps _ _ _ _) fun s₂ h₂ => ?_
  refine WP.bind (wp_notifyTotalTokensChanged_sps _ _ _ _) fun s₃ h₃ => ?_
  exact WP.pure fun _ => ⟨_, h₃.trans (h₂.trans h₁), rfl, rfl⟩

theorem logicMathCreatePropertyVariable_created :
    WP (CMPTransaction.logicMathCreatePropertyVariable cfg tx s) (Created s tx) fun _ => True := by
  dsimp only [CMPTransaction.logicMathCreatePropertyVariable]
  split
  case h_2 => exact WP.pure (Created.refused (by decide) _)
  refine WP.ite_pure (Created.refused (by decide) _) fun heco => ?_
  iterate 3 refine WP.ite_pure (Created.refused (by decide) _) fun _ => ?_
  refine WP.ite_guard_pure (Created.refused (by decide) _) ?_
  iterate 6 refine WP.ite_pure (Created.refused (by decide) _) fun _ => ?_
  rw [show tx.ecosystem.toNat = omniPropertyWhc from (not_not.mp heco).symm]
  split
  · exact WP.throw_bind True.intro
  -- the fee moves balances, the crowdsale is stored beside the registry
  refine WP.bind (wp_payCreateFee_sps _ _ _) fun s₁ h₁ => ?_
  refine WP.pure fun _ => ?_
  split
  · exact ⟨_, h₁, rfl, rfl⟩
  · exact ⟨_, h₁, rfl, rfl⟩

theorem logicMathCreatePropertyManaged_created :
    WP (CMPTransaction.logicMathCreatePropertyManaged cfg tx s) (Created s tx) fun _ => True := by
  dsimp only [CMPTransaction.logicMathCreatePropertyManaged]
  split
  case h_2 => exact WP.pure (Created.refused (by decide) _)
  refine WP.ite_pure (Created.refused (by decide) _) fun heco => ?_
  iterate 3 refine WP.ite_pure (Created.refused (by decide) _) fun _ => ?_
  refine WP.ite_ite_pure (Created.refused (by decide) _) (Created.refused (by decide) _) ?_
  refine WP.ite_pure (Created.refused (by decide) _) fun _ => ?_
  rw [show tx.ecosystem.toNat = omniPropertyWhc from (not_not.mp heco).symm]
  split
  · exact WP.throw_bind True.intro
  refine WP.bind (wp_payCreateFee_sps _ _ _) fun s₁ h₁ => ?_
  exact WP.pure fun _ => ⟨_, h₁, rfl, rfl⟩

/-- **The dispatch** of a creation packet reaches one of the three handlers. -/
theorem logicMath_created
    (htype : tx.type.toNat = 50 ∨ tx.type.toNat = 51 ∨ tx.type.toNat = 54) :
    WP (CMPTransaction.logicMath cfg tx s) (Created s tx) fun _ => True := by
  unfold CMPTransaction.logicMath
  split
  case h_5 => exact logicMathCreatePropertyFixed_created
  case h_6 => exact logicMathCreatePropertyVariable_created
  case h_8 => exact logicMathCreatePropertyManaged_created
  -- the default branch excludes the three types
  case h_16 =>
    rcases htype with h | h | h
    · exact absurd h ‹tx.type.toNat = 50 → False›
    · exact absurd h ‹tx.type.toNat = 51 → False›
    · exact absurd h ‹tx.type.toNat = 54 → False›
  -- every other branch is of another type
  all_goals
    exfalso
    rename_i heq
    rcases htype with h | h | h <;> rw [h] at heq <;> cases heq

end Handlers

/-- The parsers change a packet's property only. -/
theorem interpretTransaction_eq_with_property {tx tx' : CMPTransaction}
    (h : tx.interpretTransaction = some tx') : ∃ q, tx' = { tx with property := q } := by
  unfold CMPTransaction.interpretTransaction at h
  split at h
  · cases h
  split at h
  case h_14 =>
    split at h
    · cases h
    · cases h
      exact ⟨tx.property, rfl⟩
  case h_15 =>
    split at h
    · cases h
      exact ⟨_, rfl⟩
    · cases h
  case h_16 => cases h
  all_goals
    cases h
    first
    | exact ⟨tx.property, rfl⟩
    | exact ⟨_, rfl⟩

section Packet

variable {cfg : NodeConfig} {tx : CMPTransaction} {s : OmniState}

theorem interpretPacket_created
    (htype : tx.type.toNat = 50 ∨ tx.type.toNat = 51 ∨ tx.type.toNat = 54) :
    WP (CMPTransaction.interpretPacket cfg tx s) (Created s tx) fun _ => True := by
  unfold CMPTransaction.interpretPacket
  split
  · exact WP.pure (Created.refused (by decide) _)
  rename_i tx' htx'
  -- the parsed packet is the packet with another property: same type, sender and txid
  obtain ⟨q, rfl⟩ := interpretTransaction_eq_with_property htx'
  split
  · exact WP.pure (Created.refused (by decide) _)
  · exact logicMath_created htype

theorem mastercoreHandlerTx_created
    (htype : tx.type.toNat = 50 ∨ tx.type.toNat = 51 ∨ tx.type.toNat = 54) :
    WP (mastercoreHandlerTx cfg tx s) (Created s tx) fun _ => True := by
  unfold mastercoreHandlerTx
  refine WP.bind (interpretPacket_created htype) fun r hr => ?_
  obtain ⟨code, s'⟩ := r
  dsimp only
  -- recording the transaction in `p_txlistdb` leaves the registry
  split
  · exact WP.pure hr
  · exact WP.pure hr

end Packet

/-- **A creation takes the next identifier.** From every state a node reaches processing blocks
forward, a creation packet (types 50, 51 and 54) that succeeds stores a record at the next
main-ecosystem identifier, where there was none, issued by the sender and indexed by the
transaction; every other record is as it was; the main-ecosystem counter moves on by one and the
test-ecosystem counter stays. The recovery from a reorganisation is outside `Reachable`: it takes
the counters from the state files and the records from `popBlock`. -/
theorem creation_allocates_next_id {cfg : NodeConfig} {s : OmniState} (hs : Reachable cfg s)
    {tx : CMPTransaction} (htype : tx.type.toNat = 50 ∨ tx.type.toNat = 51 ∨ tx.type.toNat = 54)
    {s' : OmniState} (h : mastercoreHandlerTx cfg tx s = .ok (0, s')) :
    s.sps.getSP s.sps.nextSpid = none ∧
      (∃ e, s'.sps.getSP s.sps.nextSpid = some e ∧ e.issuer = tx.sender ∧ e.txid = tx.txid) ∧
      (∀ q, q ≠ s.sps.nextSpid → s'.sps.getSP q = s.sps.getSP q) ∧
      s'.sps.nextSpid = s.sps.nextSpid + 1 ∧ s'.sps.nextTestSpid = s.sps.nextTestSpid ∧
      s'.sps.findSPByTX tx.txid = s.sps.nextSpid := by
  obtain ⟨info, hsps, hissuer, htxid⟩ := WP.ok (mastercoreHandlerTx_created htype) h rfl
  have hnext := CMPSPInfo.peekNextSPID_whc s.sps
  have hcounters := CMPSPInfo.putSP_whc_counters s.sps info
  refine ⟨(FreezeInv.of_reachable hs).getSP_of_ge _ le_rfl, ⟨info, ?_, hissuer, htxid⟩, fun q hq => ?_,
    ?_, ?_, ?_⟩
  · rw [hsps, CMPSPInfo.getSP_putSP, if_pos hnext]
  · rw [hsps, CMPSPInfo.getSP_putSP, hnext, if_neg (Ne.symm hq)]
  · rw [hsps, hcounters.1]
  · rw [hsps, hcounters.2]
  · rw [hsps, ← htxid, CMPSPInfo.findSPByTX_putSP, hnext]

/-- Block `101` of a regtest run: the issuer burns one BCH, credited at the end of the block. -/
def issuerFunded : List Block := [⟨101, 101, 1000, [burnOneBch 1 "issuer"]⟩]

/-- The managed property of `managedProperty`, placed in block `102`. -/
def managedAt102 : CMPTransaction := (⟨102, 102, 1000, []⟩ : Block).place managedProperty

theorem issuer_creates_managed_property :
    ∃ s s', Reachable regtest s ∧ mastercoreHandlerTx regtest managedAt102 s = .ok (0, s') ∧
      s.sps.getSP s.sps.nextSpid = none ∧
      (∃ e, s'.sps.getSP s.sps.nextSpid = some e ∧ e.issuer = managedAt102.sender ∧
        e.txid = managedAt102.txid) ∧
      (∀ q, q ≠ s.sps.nextSpid → s'.sps.getSP q = s.sps.getSP q) ∧
      s'.sps.nextSpid = s.sps.nextSpid + 1 ∧ s'.sps.nextTestSpid = s.sps.nextTestSpid ∧
      s'.sps.findSPByTX managedAt102.txid = s.sps.nextSpid := by
  obtain ⟨s, hs, hok⟩ := Reachable.exists_of_runChain regtest issuerFunded
    (fun s => (mastercoreHandlerTx regtest managedAt102 s).toOption.any fun r => r.1 = 0) (by decide)
  cases hh : mastercoreHandlerTx regtest managedAt102 s with
  | error e => simp [hh, Except.toOption] at hok
  | ok r =>
    obtain ⟨code, s'⟩ := r
    simp only [hh, Except.toOption, Option.any_some, decide_eq_true_eq] at hok
    subst hok
    exact ⟨s, s', hs, hh, creation_allocates_next_id hs (by decide) hh⟩

end WormholeCore
