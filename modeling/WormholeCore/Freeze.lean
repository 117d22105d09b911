/-
# `WormholeCore.Freeze` — frozen balances never go down.

The issuer of a managed property may freeze an address for it (`logicMath_FreezeTokens`).
`update_tally_map` refuses to lower the `BALANCE` of a frozen pair, and the handlers assert what it
returns (`assert(update_tally_map(...))`): a debit of a frozen pair aborts the node. Only
`interpretPacket` checks a sender, against the packet's property; every other debit is safe for a
reason of its own, spread over the code:

* the fees of property creation and of send-to-owners are WHC, and nobody is ever frozen for WHC:
  only pairs of a managed property are frozen, and the WHC record is not managed;
* send-all skips each property for which the sender is frozen;
* a credit never fails the check, and the burn crediting, the crowdsales and the grants only credit.

The issuer of a property is never frozen for it: `FreezeTokens` refuses to freeze its own sender,
the issuer, and `ChangeIssuer` refuses a frozen receiver.

`FreezeInv` collects these facts of a state. Each handler is walked with the rules of
`Lib.Guarded`: a successful run keeps the frozen pairs, lowers no frozen balance and keeps the
invariant (`FreezeKept`; for freezing and unfreezing, which change the pairs, `FreezeStep`), and no
run fails the frozen-address assert.

## What is proved here

* `FreezeInv.of_reachable` — the invariant holds in every reachable state;
* `logicMath_guarded`, `interpretPacket_guarded`, `mastercoreHandlerTx_guarded`,
  `distributeWHCToBurner_guarded`, `eraseExpiredCrowdsale_guarded` — a packet, the burn crediting
  and the crowdsale expiry never fail the assert and never lower a frozen balance;
* `frozen_balances_never_decrease` — all of it, in every reachable state, with
  `holder_frozen_balance_safe`, a reachable state with a frozen balance.

`Reachable` is forward processing. The recovery from a reorganisation is outside it: its
`popBlock` can restore a record the chain never had at that block, and the state files it reads
can then freeze the issuer of a managed property for it (`reorg_recovery_freezes_issuer`, in
`Recovery`).
-/
import WormholeCore.Purchase
import WormholeCore.Lib.Guarded

namespace WormholeCore

open Lib Lib.Except
open OmniState (frozenAssert FrozenMono)

/-! ## The invariant -/

/-- **The invariant behind the frozen balances.** The last three fields make the first two
inductive: a new main-ecosystem record lands on an identifier nobody is frozen for, and the
test ecosystem, which has no record, is where no fee is charged. -/
structure FreezeInv (s : OmniState) : Prop where
  /-- A frozen pair is of a managed property, whose issuer is another address. -/
  frozen_managed : ∀ a p, isAddressFrozen s.frozen a p = true →
    ∃ e, s.sps.getSP p = some e ∧ e.manual = true ∧ e.issuer ≠ a
  /-- The record of WHC is not managed. -/
  whc_not_managed : ∀ e, s.sps.getSP omniPropertyWhc = some e → e.manual = false
  /-- WHC is below the next main-ecosystem identifier. -/
  whc_lt_nextSpid : omniPropertyWhc < s.sps.nextSpid
  /-- No record from the next main-ecosystem identifier on. -/
  getSP_of_ge : ∀ p, s.sps.nextSpid ≤ p → s.sps.getSP p = none
  /-- No test-ecosystem property was ever created. -/
  nextTestSpid_eq : s.sps.nextTestSpid = testEcoProperty1

namespace FreezeInv

variable {s s' : OmniState}

theorem congr (hinv : FreezeInv s) (hf : s'.frozen = s.frozen) (hsps : s'.sps = s.sps) :
    FreezeInv s' := by
  obtain ⟨h₁, h₂, h₃, h₄, h₅⟩ := hinv
  rw [← hf, ← hsps] at *
  exact ⟨h₁, h₂, h₃, h₄, h₅⟩

theorem of_stores (hinv : FreezeInv s) (h : s'.stores = s.stores) : FreezeInv s' :=
  hinv.congr (congrArg Prod.fst h) (congrArg (fun t => t.2.1) h)

/-- No address is frozen for WHC. -/
theorem not_frozen_whc (hinv : FreezeInv s) (a : Address) :
    isAddressFrozen s.frozen a omniPropertyWhc = false := by
  by_contra hf
  obtain ⟨e, he, hman, -⟩ := hinv.frozen_managed a _ (Bool.not_eq_false _ ▸ hf)
  rw [hinv.whc_not_managed e he] at hman
  cases hman

/-- **The issuer of a managed property is not frozen for it.** -/
theorem issuer_not_frozen (hinv : FreezeInv s) {p : PropertyId} {e : CMPSPInfo.Entry}
    (he : s.sps.getSP p = some e) : isAddressFrozen s.frozen e.issuer p = false := by
  by_contra hf
  obtain ⟨e', he', -, hne⟩ := hinv.frozen_managed _ _ (Bool.not_eq_false _ ▸ hf)
  rw [he] at he'
  cases he'
  exact hne rfl

/-- A record of the store has an identifier below `nextSpid`. -/
theorem lt_nextSpid (hinv : FreezeInv s) {p : PropertyId} {e : CMPSPInfo.Entry}
    (he : s.sps.getSP p = some e) : p < s.sps.nextSpid := by
  by_contra hge
  rw [hinv.getSP_of_ge p (not_lt.mp hge)] at he
  cases he

/-- **A record rewritten in place**, below `nextSpid`: the invariant holds when the new record of
WHC is not managed and the new record is managed, with another issuer, for every address frozen
for it. -/
theorem updateSP (hinv : FreezeInv s) {p : PropertyId} {e' : CMPSPInfo.Entry}
    (hp : p < s.sps.nextSpid) (hwhc : p = omniPropertyWhc → e'.manual = false)
    (hkeep : ∀ a, isAddressFrozen s.frozen a p = true → e'.manual = true ∧ e'.issuer ≠ a) :
    FreezeInv { s with sps := s.sps.updateSP p e' } where
  frozen_managed a q hf := by
    by_cases hq : p = q
    · subst hq
      exact ⟨e', by simp, hkeep a hf⟩
    · simpa [hq] using hinv.frozen_managed a q hf
  whc_not_managed e he := by
    by_cases hq : p = omniPropertyWhc
    · simp only [CMPSPInfo.getSP_updateSP, if_pos hq, Option.some.injEq] at he
      exact he ▸ hwhc hq
    · simp only [CMPSPInfo.getSP_updateSP, if_neg hq] at he
      exact hinv.whc_not_managed e he
  whc_lt_nextSpid := hinv.whc_lt_nextSpid
  getSP_of_ge q hq := by
    have hne : p ≠ q := Nat.ne_of_lt (Nat.lt_of_lt_of_le hp hq)
    simpa [hne] using hinv.getSP_of_ge q hq
  nextTestSpid_eq := hinv.nextTestSpid_eq

/-- A record rewritten with its own issuer and its own `manual` flag. -/
theorem updateSP_same (hinv : FreezeInv s) {p : PropertyId} {e e' : CMPSPInfo.Entry}
    (he : s.sps.getSP p = some e) (hman : e'.manual = e.manual) (hiss : e'.issuer = e.issuer) :
    FreezeInv { s with sps := s.sps.updateSP p e' } := by
  refine hinv.updateSP (hinv.lt_nextSpid he)
    (fun hp => hman.trans (hinv.whc_not_managed e (hp ▸ he))) fun a hf => ?_
  obtain ⟨e₀, he₀, hman₀, hiss₀⟩ := hinv.frozen_managed a p hf
  rw [he, Option.some.injEq] at he₀
  subst he₀
  exact ⟨hman.trans hman₀, hiss ▸ hiss₀⟩

/-- **A new main-ecosystem record**, at `nextSpid`: nobody is frozen for it yet. -/
theorem putSP (hinv : FreezeInv s) (e : CMPSPInfo.Entry) :
    FreezeInv { s with sps := (s.sps.putSP omniPropertyWhc e).2 } where
  frozen_managed a q hf := by
    obtain ⟨e₀, he₀, hman₀, hiss₀⟩ := hinv.frozen_managed a q hf
    have hq : s.sps.peekNextSPID omniPropertyWhc ≠ q := by
      rintro rfl
      rw [CMPSPInfo.peekNextSPID_whc, hinv.getSP_of_ge _ le_rfl] at he₀
      cases he₀
    exact ⟨e₀, by simpa [hq] using he₀, hman₀, hiss₀⟩
  whc_not_managed e' he' := by
    have hq : s.sps.peekNextSPID omniPropertyWhc ≠ omniPropertyWhc :=
      Nat.ne_of_gt hinv.whc_lt_nextSpid
    simp only [CMPSPInfo.getSP_putSP, if_neg hq] at he'
    exact hinv.whc_not_managed e' he'
  whc_lt_nextSpid := by
    rw [(CMPSPInfo.putSP_whc_counters s.sps e).1]
    exact Nat.lt_succ_of_lt hinv.whc_lt_nextSpid
  getSP_of_ge q hq := by
    rw [(CMPSPInfo.putSP_whc_counters s.sps e).1] at hq
    have hne : s.sps.peekNextSPID omniPropertyWhc ≠ q := by
      rw [CMPSPInfo.peekNextSPID_whc]
      exact Nat.ne_of_lt hq
    simpa [hne] using hinv.getSP_of_ge q (Nat.le_of_succ_le hq)
  nextTestSpid_eq := (CMPSPInfo.putSP_whc_counters s.sps e).2.trans hinv.nextTestSpid_eq

/-- **A new issuer** that is not frozen for the property. -/
theorem changeIssuer (hinv : FreezeInv s) {p : PropertyId} {e : CMPSPInfo.Entry} {a' : Address}
    {b : Uint256} (he : s.sps.getSP p = some e) (ha' : isAddressFrozen s.frozen a' p = false) :
    FreezeInv { s with sps := s.sps.updateSP p { e with issuer := a', updateBlock := b } } := by
  refine hinv.updateSP (hinv.lt_nextSpid he)
    (fun hp => hinv.whc_not_managed e (hp ▸ he)) fun a hf => ⟨?_, ?_⟩
  · obtain ⟨e₀, he₀, hman₀, -⟩ := hinv.frozen_managed a p hf
    rw [he, Option.some.injEq] at he₀
    exact he₀ ▸ hman₀
  · rintro rfl
    rw [ha'] at hf
    cases hf

/-- **A new frozen pair**, of a managed property whose issuer is another address. -/
theorem freeze (hinv : FreezeInv s) {a : Address} {p : PropertyId} {e : CMPSPInfo.Entry}
    (he : s.sps.getSP p = some e) (hman : e.manual = true) (hiss : e.issuer ≠ a) :
    FreezeInv { s with frozen := freezeAddress s.frozen a p } where
  frozen_managed a' q hf := by
    rw [isAddressFrozen_freezeAddress, Bool.or_eq_true, decide_eq_true_eq] at hf
    rcases hf with ⟨rfl, rfl⟩ | hf
    · exact ⟨e, he, hman, hiss⟩
    · exact hinv.frozen_managed a' q hf
  whc_not_managed := hinv.whc_not_managed
  whc_lt_nextSpid := hinv.whc_lt_nextSpid
  getSP_of_ge := hinv.getSP_of_ge
  nextTestSpid_eq := hinv.nextTestSpid_eq

/-- A pair unfrozen. -/
theorem unfreeze (hinv : FreezeInv s) (a : Address) (p : PropertyId) :
    FreezeInv { s with frozen := unfreezeAddress s.frozen a p } where
  frozen_managed a' q hf := by
    rw [isAddressFrozen_unfreezeAddress, Bool.and_eq_true] at hf
    exact hinv.frozen_managed a' q hf.2
  whc_not_managed := hinv.whc_not_managed
  whc_lt_nextSpid := hinv.whc_lt_nextSpid
  getSP_of_ge := hinv.getSP_of_ge
  nextTestSpid_eq := hinv.nextTestSpid_eq

/-- **The state of a node that starts over**: no frozen pair, and the store of a fresh node. -/
theorem of_fresh_sps {exodus : Address} (hf : s.frozen = OrdMap.empty)
    (hsps : s.sps = CMPSPInfo.fresh exodus) : FreezeInv s where
  frozen_managed a p h := by
    rw [hf] at h
    cases h
  whc_not_managed e he := by
    rw [hsps, CMPSPInfo.getSP_fresh, if_pos rfl, Option.some.injEq] at he
    rw [← he]
    rfl
  whc_lt_nextSpid := by
    rw [hsps, (CMPSPInfo.counters_fresh exodus).1]
    decide
  getSP_of_ge p hp := by
    rw [hsps, (CMPSPInfo.counters_fresh exodus).1] at hp
    rw [hsps, CMPSPInfo.getSP_fresh, if_neg]
    exact fun h => absurd hp (by rw [← h]; decide)
  nextTestSpid_eq := by rw [hsps, (CMPSPInfo.counters_fresh exodus).2]

end FreezeInv

/-- **A step of a handler, as the frozen balances see it**: the frozen pairs are the same, no
frozen balance went down, and the invariant is kept. -/
def FreezeKept (s s' : OmniState) : Prop :=
  s'.frozen = s.frozen ∧ FrozenMono s s' ∧ (FreezeInv s → FreezeInv s')

instance : Std.Refl FreezeKept := ⟨fun s => ⟨rfl, FrozenMono.refl s, id⟩⟩

instance : IsTrans OmniState FreezeKept :=
  ⟨fun _ _ _ h₁ h₂ =>
    ⟨h₂.1.trans h₁.1, FrozenMono.trans h₁.2.1 h₂.2.1 h₁.1, h₂.2.2 ∘ h₁.2.2⟩⟩

namespace FreezeKept

variable {s s' : OmniState}

theorem trans {s₁ s₂ s₃ : OmniState} (h₁ : FreezeKept s₁ s₂) (h₂ : FreezeKept s₂ s₃) :
    FreezeKept s₁ s₃ :=
  IsTrans.trans _ _ _ h₁ h₂

/-- A change of the fields the invariant does not read. -/
theorem of_eq (hf : s'.frozen = s.frozen) (ht : s'.tally = s.tally) (hsps : s'.sps = s.sps) :
    FreezeKept s s' := by
  refine ⟨hf, fun a p _ => ?_, fun hinv => hinv.congr hf hsps⟩
  simp only [TallyMap.money, ht, le_refl]

/-- A change of the tally alone that lowers no frozen balance. -/
theorem of_stores (h : s'.stores = s.stores) (hm : FrozenMono s s') : FreezeKept s s' :=
  ⟨congrArg Prod.fst h, hm, fun hinv => hinv.of_stores h⟩

/-- A record rewritten with its own issuer and `manual` flag, and fields the invariant does not
read changed with it. -/
theorem of_updateSP {p : PropertyId} {e e' : CMPSPInfo.Entry} (hf : s'.frozen = s.frozen)
    (ht : s'.tally = s.tally) (hsps : s'.sps = s.sps.updateSP p e') (he : s.sps.getSP p = some e)
    (hman : e'.manual = e.manual) (hiss : e'.issuer = e.issuer) : FreezeKept s s' := by
  refine ⟨hf, fun a q _ => by simp only [TallyMap.money, ht, le_refl], fun hinv => ?_⟩
  exact (hinv.updateSP_same he hman hiss).congr hf hsps

/-- A record rewritten with its own issuer and `manual` flag. -/
theorem updateSP_same {p : PropertyId} {e e' : CMPSPInfo.Entry} (he : s.sps.getSP p = some e)
    (hman : e'.manual = e.manual) (hiss : e'.issuer = e.issuer) :
    FreezeKept s { s with sps := s.sps.updateSP p e' } :=
  of_updateSP rfl rfl rfl he hman hiss

/-- A new main-ecosystem record. -/
theorem putSP (e : CMPSPInfo.Entry) : FreezeKept s { s with sps := (s.sps.putSP omniPropertyWhc e).2 } :=
  ⟨rfl, fun _ _ _ => le_refl _, fun hinv => hinv.putSP e⟩

/-- A record of WHC that is not managed: nobody is frozen for WHC. -/
theorem updateSP_whc {e' : CMPSPInfo.Entry} (hman : e'.manual = false) :
    FreezeKept s { s with sps := s.sps.updateSP omniPropertyWhc e' } := by
  refine ⟨rfl, fun _ _ _ => le_refl _, fun hinv => ?_⟩
  refine hinv.updateSP hinv.whc_lt_nextSpid (fun _ => hman) fun a hf => ?_
  rw [hinv.not_frozen_whc a] at hf
  cases hf

end FreezeKept

/-! ## The tally and fee operations -/

theorem guarded_assertUpdateTallyMap {s : OmniState} {who : Address} {p : PropertyId} {a : Int}
    (h : 0 ≤ a ∨ isAddressFrozen s.frozen who p = false) :
    Guarded FreezeKept frozenAssert id s (s.assertUpdateTallyMap who p a) :=
  Guarded.of_ok_of_ne (fun _ hs' => FreezeKept.of_stores (OmniState.assertUpdateTallyMap_frame hs').1
      (OmniState.frozenMono_assertUpdateTallyMap hs'))
    (OmniState.assertUpdateTallyMap_ne_frozenAssert h)

theorem guarded_notifyTotalTokensChanged (debug : Bool) (s : OmniState) (p : PropertyId)
    (block : Int) :
    Guarded FreezeKept frozenAssert id s (s.notifyTotalTokensChanged debug p block) :=
  Guarded.of_ok_of_ne (fun _ hs' => FreezeKept.of_stores (OmniState.notifyTotalTokensChanged_ok hs').1
      (OmniState.notifyTotalTokensChanged_ok hs').2)
    (OmniState.notifyTotalTokensChanged_ne_frozenAssert debug s p block)

theorem guarded_addFee (debug : Bool) (s : OmniState) (p : PropertyId) (block amount : Int) :
    Guarded FreezeKept frozenAssert id s (s.addFee debug p block amount) :=
  Guarded.of_ok_of_ne (fun _ hs' => FreezeKept.of_stores (OmniState.addFee_ok hs').1
      (OmniState.addFee_ok hs').2)
    (OmniState.addFee_ne_frozenAssert debug s p block amount)

/-- The creation fee is WHC, for which nobody is frozen. -/
theorem guarded_payCreateFee {cfg : NodeConfig} {s : OmniState} (hinv : FreezeInv s) (a : Address) :
    Guarded FreezeKept frozenAssert id s (CMPTransaction.payCreateFee cfg a s) := by
  unfold CMPTransaction.payCreateFee
  refine Guarded.bind (guarded_assertUpdateTallyMap (.inr (hinv.not_frozen_whc a))) fun s₁ _ _ => ?_
  exact guarded_assertUpdateTallyMap (.inl (by unfold createTokenFee; decide))

/-- The credit of a positive amount, or nothing, then the rest: the shape in which closing a
crowdsale, its expiry and a purchase credit the issuer. -/
theorem guarded_creditPositive_bind {β : Type} {st : β → OmniState} {s : OmniState} {who : Address}
    {p : PropertyId} {m : Int} {k : OmniState → Except String β}
    (hk : ∀ s₁, FreezeKept s s₁ → Guarded FreezeKept frozenAssert st s₁ (k s₁)) :
    Guarded FreezeKept frozenAssert st s
      (if 0 < m then s.assertUpdateTallyMap who p m >>= k else pure s >>= k) := by
  split
  · exact Guarded.bind (guarded_assertUpdateTallyMap (.inl (le_of_lt ‹_›))) fun s₁ _ h₁ => hk s₁ h₁
  · exact Guarded.pure_bind id (Std.Refl.refl _) fun s₁ _ h₁ => hk s₁ h₁

/-! ## Sends -/

theorem logicMathSimpleSend_guarded (tx : CMPTransaction) (s : OmniState) :
    Guarded FreezeKept frozenAssert Prod.snd s (CMPTransaction.logicMathSimpleSend tx s) := by
  dsimp only [CMPTransaction.logicMathSimpleSend]
  refine Guarded.ite_pure rfl fun hsender => ?_
  refine Guarded.ite_pure rfl fun _ => ?_
  refine Guarded.ite_pure rfl fun _ => ?_
  refine Guarded.ite_pure rfl fun hvalue => ?_
  refine Guarded.ite_pure rfl fun _ => ?_
  refine Guarded.ite_pure rfl fun _ => ?_
  refine Guarded.bind (guarded_assertUpdateTallyMap (.inr (by simpa using hsender)))
    fun s₁ _ h₁ => ?_
  refine Guarded.bind (guarded_assertUpdateTallyMap (.inl (by omega))) fun s₂ _ _ => ?_
  exact Guarded.pure (Std.Refl.refl _)

/-- One receiver of a send-to-owners paid: the sender is debited the property the packet names,
for which it is not frozen; the receiver is credited. -/
theorem stoPay_guarded {property : PropertyId} {sender : Address} {acc : OmniState × Int}
    {r : Int × Address} (hsender : isAddressFrozen acc.1.frozen sender property = false)
    (hr : 0 < r.1) :
    Guarded FreezeKept frozenAssert Prod.fst acc.1 (CMPTransaction.stoPay property sender acc r) := by
  unfold CMPTransaction.stoPay
  refine Guarded.bind (guarded_assertUpdateTallyMap (.inr hsender)) fun s₁ _ _ => ?_
  refine Guarded.bind (guarded_assertUpdateTallyMap (.inl (le_of_lt hr))) fun s₂ _ _ => ?_
  exact Guarded.pure (Std.Refl.refl _)

/-- The payment loop of a send-to-owners. -/
theorem foldlM_stoPay_guarded {property : PropertyId} {sender : Address} {receivers : OwnerAddrType}
    (hpos : ∀ r ∈ receivers, 0 < r.1) {s : OmniState}
    (hsender : isAddressFrozen s.frozen sender property = false) :
    Guarded FreezeKept frozenAssert Prod.fst s
      (receivers.foldlM (CMPTransaction.stoPay property sender) (s, 0)) :=
  Guarded.foldlM_fst _ receivers s 0 fun _ hb r hr =>
    stoPay_guarded (hb.1 ▸ hsender) (hpos r hr)

/-- The property of a send-to-owners' fee: the sent property is valid, hence of the main
ecosystem while `nextTestSpid` is `TEST_ECO_PROPERTY_1`, and its fee is WHC. -/
theorem feeProperty_of_valid {s : OmniState} (hinv : FreezeInv s) {p : PropertyId}
    (hvalid : isPropertyIdValid s.sps p = true) : isTestEcosystemProperty p = false := by
  unfold isPropertyIdValid at hvalid
  by_cases h₀ : p = 0 ∨ p = omniPropertyTwhc
  · rw [if_pos h₀] at hvalid
    cases hvalid
  rw [if_neg h₀] at hvalid
  by_cases h₁ : p < testEcoProperty1
  · have h₂ : p ≠ omniPropertyTwhc := fun h => h₀ (.inr h)
    simp [isTestEcosystemProperty, h₂, not_le.mpr h₁]
  · -- a test-ecosystem identifier is below `nextTestSpid`, which never moved
    rw [if_neg h₁, decide_eq_true_eq] at hvalid
    have hnext : s.sps.peekNextSPID omniPropertyTwhc = testEcoProperty1 := hinv.nextTestSpid_eq
    exact absurd (hnext ▸ hvalid) h₁

theorem logicMathSendToOwners_guarded {cfg : NodeConfig} {tx : CMPTransaction} {s : OmniState}
    (hinv : FreezeInv s) :
    Guarded FreezeKept frozenAssert Prod.snd s (CMPTransaction.logicMathSendToOwners cfg tx s) := by
  dsimp only [CMPTransaction.logicMathSendToOwners]
  refine Guarded.ite_pure rfl fun hsender => ?_
  refine Guarded.ite_pure rfl fun _ => ?_
  refine Guarded.ite_pure rfl fun _ => ?_
  refine Guarded.ite_pure rfl fun hvalid => ?_
  refine Guarded.ite_pure rfl fun _ => ?_
  refine Guarded.ite_pure rfl fun _ => ?_
  refine Guarded.bind_const (L := stoErrors) (fun e he => stoGetReceivers_error he) (by decide)
    fun receivers hreceivers => ?_
  refine Guarded.ite_pure rfl fun hcount => ?_
  -- the fee is WHC, for which nobody is frozen, and it is positive
  have hfee := feeProperty_of_valid hinv (by simpa using hvalid)
  simp only [hfee, Bool.false_eq_true, if_false]
  have hpos : 0 < (if tx.version.toNat = mpTxPktV0 then transferFeePerOwner else transferFeePerOwnerV1) *
      (receivers.length : Int) := by
    have hn : (0 : Int) < receivers.length := by omega
    split <;> exact Int.mul_pos (by decide) hn
  have hpay := (stoGetReceivers_spec hreceivers).1
  -- the check of the sender's WHC, either way round
  refine Guarded.ite_ite_pure rfl rfl ?_
  refine Guarded.bind (guarded_assertUpdateTallyMap (.inr (hinv.not_frozen_whc _)))
    fun s₁ _ h₁ => ?_
  refine Guarded.bind (guarded_assertUpdateTallyMap (.inl (le_of_lt hpos))) fun s₂ _ h₂ => ?_
  -- version `0` burns the fee, version `1` also caches it
  split
  all_goals first
    | refine Guarded.pure_bind id (Std.Refl.refl _) fun s₃ _ h₃ => ?_
    | refine Guarded.bind (guarded_addFee _ _ _ _ _) fun s₃ _ h₃ => ?_
  all_goals
    refine Guarded.bind (foldlM_stoPay_guarded (fun r hr => (hpay r hr).1)
      (by rw [h₃.1, h₂.1, h₁.1]; simpa using hsender)) fun paid _ _ => ?_
  -- the assert on the amount paid, then the notification of version `0`
  all_goals split
  all_goals try exact Guarded.throw_bind (by decide)
  all_goals first
    | refine Guarded.bind (guarded_notifyTotalTokensChanged _ _ _ _) fun s₄ _ _ => ?_
    | refine Guarded.pure_bind id (Std.Refl.refl _) fun s₄ _ _ => ?_
  all_goals exact Guarded.pure (Std.Refl.refl _)

/-- One property of a send-all: a frozen sender or receiver is skipped, and only a positive balance
moves. -/
theorem sendAllStep_guarded (sender receiver : Address) (ecosystem : Nat) (acc : OmniState × Nat)
    (propertyId : PropertyId) :
    Guarded FreezeKept frozenAssert Prod.fst acc.1
      (CMPTransaction.sendAllStep sender receiver ecosystem acc propertyId) := by
  obtain ⟨s, n⟩ := acc
  dsimp only [CMPTransaction.sendAllStep]
  refine Guarded.ite_pure rfl fun _ => ?_
  refine Guarded.ite_pure rfl fun _ => ?_
  refine Guarded.ite_pure rfl fun hsender => ?_
  refine Guarded.ite_pure rfl fun _ => ?_
  split
  · refine Guarded.bind (guarded_assertUpdateTallyMap (.inr (by simpa using hsender)))
      fun s₁ _ _ => ?_
    refine Guarded.bind (guarded_assertUpdateTallyMap (.inl (by omega))) fun s₂ _ _ => ?_
    exact Guarded.pure (Std.Refl.refl _)
  · exact Guarded.pure (Std.Refl.refl _)

theorem logicMathSendAll_guarded (tx : CMPTransaction) (s : OmniState) :
    Guarded FreezeKept frozenAssert Prod.snd s (CMPTransaction.logicMathSendAll tx s) := by
  dsimp only [CMPTransaction.logicMathSendAll]
  refine Guarded.ite_pure rfl fun _ => ?_
  refine Guarded.ite_pure rfl fun _ => ?_
  split
  · refine Guarded.bind (Guarded.foldlM_fst _ _ s 0
      fun b _ p _ => sendAllStep_guarded _ _ _ b p) fun r _ _ => ?_
    refine Guarded.ite_pure rfl fun _ => ?_
    exact Guarded.pure (Std.Refl.refl _)
  · exact Guarded.pure (Std.Refl.refl _)

/-! ## Smart properties -/

theorem logicMathCreatePropertyFixed_guarded {cfg : NodeConfig} {tx : CMPTransaction}
    {s : OmniState} (hinv : FreezeInv s) :
    Guarded FreezeKept frozenAssert Prod.snd s
      (CMPTransaction.logicMathCreatePropertyFixed cfg tx s) := by
  dsimp only [CMPTransaction.logicMathCreatePropertyFixed]
  split
  case h_2 => exact Guarded.pure (Std.Refl.refl _)
  refine Guarded.ite_pure rfl fun heco => ?_
  refine Guarded.ite_pure rfl fun _ => ?_
  refine Guarded.ite_pure rfl fun _ => ?_
  refine Guarded.ite_pure rfl fun hvalue => ?_
  refine Guarded.ite_pure rfl fun _ => ?_
  refine Guarded.ite_pure rfl fun _ => ?_
  refine Guarded.ite_pure rfl fun _ => ?_
  rw [show tx.ecosystem.toNat = omniPropertyWhc from (not_not.mp heco).symm]
  split
  · exact Guarded.throw_bind (by decide)
  -- the new record, then the fee, the issuance and the notification
  refine Guarded.bind (Guarded.of_rel (FreezeKept.putSP _) (guarded_payCreateFee (hinv.putSP _) _))
    fun s₁ _ _ => ?_
  refine Guarded.bind (guarded_assertUpdateTallyMap (.inl (by omega))) fun s₂ _ _ => ?_
  refine Guarded.bind (guarded_notifyTotalTokensChanged _ _ _ _) fun s₃ _ _ => ?_
  exact Guarded.pure (Std.Refl.refl _)

theorem logicMathCreatePropertyVariable_guarded {cfg : NodeConfig} {tx : CMPTransaction}
    {s : OmniState} (hinv : FreezeInv s) :
    Guarded FreezeKept frozenAssert Prod.snd s
      (CMPTransaction.logicMathCreatePropertyVariable cfg tx s) := by
  dsimp only [CMPTransaction.logicMathCreatePropertyVariable]
  split
  case h_2 => exact Guarded.pure (Std.Refl.refl _)
  refine Guarded.ite_pure rfl fun heco => ?_
  refine Guarded.ite_pure rfl fun _ => ?_
  refine Guarded.ite_pure rfl fun _ => ?_
  refine Guarded.ite_pure rfl fun _ => ?_
  refine Guarded.ite_guard_pure rfl ?_
  refine Guarded.ite_pure rfl fun _ => ?_
  refine Guarded.ite_pure rfl fun _ => ?_
  refine Guarded.ite_pure rfl fun _ => ?_
  refine Guarded.ite_pure rfl fun _ => ?_
  refine Guarded.ite_pure rfl fun _ => ?_
  refine Guarded.ite_pure rfl fun _ => ?_
  rw [show tx.ecosystem.toNat = omniPropertyWhc from (not_not.mp heco).symm]
  split
  · exact Guarded.throw_bind (by decide)
  refine Guarded.bind (Guarded.of_rel (FreezeKept.putSP _) (guarded_payCreateFee (hinv.putSP _) _))
    fun s₁ _ _ => ?_
  -- the crowdsale is registered, or kept if the issuer had one
  refine Guarded.pure ?_
  split
  · exact Std.Refl.refl _
  · exact FreezeKept.of_eq rfl rfl rfl

theorem logicMathCreatePropertyManaged_guarded {cfg : NodeConfig} {tx : CMPTransaction}
    {s : OmniState} (hinv : FreezeInv s) :
    Guarded FreezeKept frozenAssert Prod.snd s
      (CMPTransaction.logicMathCreatePropertyManaged cfg tx s) := by
  dsimp only [CMPTransaction.logicMathCreatePropertyManaged]
  split
  case h_2 => exact Guarded.pure (Std.Refl.refl _)
  refine Guarded.ite_pure rfl fun heco => ?_
  refine Guarded.ite_pure rfl fun _ => ?_
  refine Guarded.ite_pure rfl fun _ => ?_
  refine Guarded.ite_pure rfl fun _ => ?_
  refine Guarded.ite_ite_pure rfl rfl ?_
  refine Guarded.ite_pure rfl fun _ => ?_
  rw [show tx.ecosystem.toNat = omniPropertyWhc from (not_not.mp heco).symm]
  split
  · exact Guarded.throw_bind (by decide)
  refine Guarded.bind (Guarded.of_rel (FreezeKept.putSP _) (guarded_payCreateFee (hinv.putSP _) _))
    fun s₁ _ _ => ?_
  exact Guarded.pure (Std.Refl.refl _)

theorem logicMathGrantTokens_guarded {cfg : NodeConfig} {tx : CMPTransaction} {s : OmniState} :
    Guarded FreezeKept frozenAssert Prod.snd s (CMPTransaction.logicMathGrantTokens cfg tx s) := by
  dsimp only [CMPTransaction.logicMathGrantTokens]
  split
  case h_2 => exact Guarded.pure (Std.Refl.refl _)
  refine Guarded.ite_pure rfl fun _ => ?_
  refine Guarded.ite_pure rfl fun _ => ?_
  refine Guarded.ite_pure rfl fun _ => ?_
  refine Guarded.ite_pure rfl fun hvalue => ?_
  refine Guarded.ite_pure rfl fun _ => ?_
  split
  case h_2 => exact Guarded.throw (by decide)
  rename_i sp hsp
  refine Guarded.ite_pure rfl fun _ => ?_
  refine Guarded.ite_pure rfl fun _ => ?_
  refine Guarded.ite_pure rfl fun _ => ?_
  -- the record keeps its issuer; the grant is credited, then the supply notified
  refine Guarded.bind (Guarded.of_rel (by exact FreezeKept.updateSP_same hsp rfl rfl)
    (guarded_assertUpdateTallyMap (.inl ?_))) fun s₁ _ _ => ?_
  · omega
  refine Guarded.bind (guarded_notifyTotalTokensChanged _ _ _ _) fun s₂ _ _ => ?_
  exact Guarded.pure (Std.Refl.refl _)

theorem logicMathRevokeTokens_guarded {cfg : NodeConfig} {tx : CMPTransaction} {s : OmniState}
    (hsender : isAddressFrozen s.frozen tx.sender tx.property.toNat = false) :
    Guarded FreezeKept frozenAssert Prod.snd s (CMPTransaction.logicMathRevokeTokens cfg tx s) := by
  dsimp only [CMPTransaction.logicMathRevokeTokens]
  split
  case h_2 => exact Guarded.pure (Std.Refl.refl _)
  refine Guarded.ite_pure rfl fun _ => ?_
  refine Guarded.ite_pure rfl fun _ => ?_
  refine Guarded.ite_pure rfl fun _ => ?_
  refine Guarded.ite_pure rfl fun _ => ?_
  split
  case h_2 => exact Guarded.throw (by decide)
  rename_i sp hsp
  refine Guarded.ite_pure rfl fun _ => ?_
  refine Guarded.ite_pure rfl fun _ => ?_
  refine Guarded.ite_pure rfl fun _ => ?_
  -- the debit of the sender, who passed the frozen check of `interpretPacket`
  refine Guarded.bind (guarded_assertUpdateTallyMap (.inr hsender)) fun s₁ hs₁ _ => ?_
  have hsps : s₁.sps = s.sps := congrArg (fun t => t.2.1) (OmniState.assertUpdateTallyMap_frame hs₁).1
  have hsp₁ : s₁.sps.getSP tx.property.toNat = some sp := hsps ▸ hsp
  refine Guarded.bind (Guarded.of_rel (by exact FreezeKept.updateSP_same hsp₁ rfl rfl)
    (guarded_notifyTotalTokensChanged _ _ _ _)) fun s₂ _ _ => ?_
  exact Guarded.pure (Std.Refl.refl _)

theorem logicMathChangeIssuer_guarded {tx : CMPTransaction} {s : OmniState} :
    Guarded FreezeKept frozenAssert Prod.snd s (CMPTransaction.logicMathChangeIssuer tx s) := by
  dsimp only [CMPTransaction.logicMathChangeIssuer]
  split
  case h_2 => exact Guarded.pure (Std.Refl.refl _)
  refine Guarded.ite_pure rfl fun _ => ?_
  refine Guarded.ite_pure rfl fun _ => ?_
  refine Guarded.ite_pure rfl fun _ => ?_
  split
  case h_2 => exact Guarded.throw (by decide)
  rename_i sp hsp
  refine Guarded.ite_pure rfl fun _ => ?_
  refine Guarded.ite_pure rfl fun _ => ?_
  refine Guarded.ite_pure rfl fun _ => ?_
  refine Guarded.ite_pure rfl fun hfrozen => ?_
  refine Guarded.ite_pure rfl fun _ => ?_
  -- the new issuer is not frozen for the property
  exact Guarded.pure ⟨rfl, fun _ _ _ => le_refl _,
    fun hinv => hinv.changeIssuer hsp (by simpa using hfrozen)⟩

theorem logicMathBurnBCHGetWHC_guarded {cfg : NodeConfig} {tx : CMPTransaction} {s : OmniState} :
    Guarded FreezeKept frozenAssert Prod.snd s (CMPTransaction.logicMathBurnBCHGetWHC cfg tx s) := by
  dsimp only [CMPTransaction.logicMathBurnBCHGetWHC]
  split
  · split
    · exact Guarded.pure (Std.Refl.refl _)
    · split
      · exact Guarded.pure (FreezeKept.of_eq rfl rfl rfl)
      · exact Guarded.pure (Std.Refl.refl _)
  · exact Guarded.pure (Std.Refl.refl _)

/-! ## Crowdsales -/

/-- The messages the fundraiser arithmetic and the missed-bonus computation can fail with. -/
def crowdsaleErrors : List String :=
  ["calculateFundraiser: assert(tokenPrecision <= 8)", "ConvertTo256: assert(number >= 0)",
    "ConvertTo64: assert(number <= max_int64)", "Division by zero", missedBonusAssert,
    "GetMissedIssuerBonus: assert(newTotal == totalAmount)"]

theorem errorsIn_convertTo256 (n : Int) : ErrorsIn crowdsaleErrors (convertTo256 n) :=
  ErrorsIn.of_eq (fun _ h => convertTo256_error h) (by decide)

theorem errorsIn_convertTo64 (n : Nat) : ErrorsIn crowdsaleErrors (convertTo64 n) :=
  ErrorsIn.of_eq (fun _ h => convertTo64_error h) (by decide)

theorem errorsIn_div (a b : Nat) : ErrorsIn crowdsaleErrors (Word256.div a b) :=
  ErrorsIn.of_eq (fun _ h => Word256.div_error h) (by decide)

theorem errorsIn_calculateFundraiser (tokenPrecision : Nat) (transfer : Int) (bonusPerc : Nat)
    (closeSeconds currentSeconds price soldTokens totalTokens : Int) :
    ErrorsIn crowdsaleErrors (calculateFundraiser tokenPrecision transfer bonusPerc closeSeconds
      currentSeconds price soldTokens totalTokens) := by
  unfold calculateFundraiser fundraiserOutcome modulo256
  repeat' first
    | exact ErrorsIn.pure
    | exact ErrorsIn.throw (by decide)
    | exact errorsIn_convertTo256 _
    | exact errorsIn_convertTo64 _
    | exact errorsIn_div _ _
    | refine ErrorsIn.bind ?_ fun _ => ?_
    | split

theorem errorsIn_getMissedIssuerBonus (s : OmniState) (sp : CMPSPInfo.Entry) (crowd : CMPCrowd) :
    ErrorsIn crowdsaleErrors (getMissedIssuerBonus s sp crowd) := by
  dsimp only [getMissedIssuerBonus]
  repeat' first
    | exact ErrorsIn.pure
    | exact ErrorsIn.throw (by decide)
    | exact errorsIn_convertTo256 _
    | exact errorsIn_convertTo64 _
    | refine ErrorsIn.bind ?_ fun _ => ?_
    | split

theorem logicMathCloseCrowdsale_guarded {tx : CMPTransaction} {s : OmniState} :
    Guarded FreezeKept frozenAssert Prod.snd s (CMPTransaction.logicMathCloseCrowdsale tx s) := by
  dsimp only [CMPTransaction.logicMathCloseCrowdsale]
  split
  case h_2 => exact Guarded.pure (Std.Refl.refl _)
  refine Guarded.ite_pure rfl fun _ => ?_
  refine Guarded.ite_pure rfl fun _ => ?_
  split
  case h_2 => exact Guarded.pure (Std.Refl.refl _)
  refine Guarded.ite_pure rfl fun _ => ?_
  split
  case h_2 => exact Guarded.throw (by decide)
  rename_i sp hsp
  refine Guarded.bind_const (errorsIn_getMissedIssuerBonus _ _ _) (by decide) fun missed _ => ?_
  -- the record keeps its issuer; missed tokens are credited to the issuer
  refine Guarded.of_rel (by exact FreezeKept.updateSP_same hsp rfl rfl)
    (guarded_creditPositive_bind fun s₁ _ => ?_)
  exact Guarded.pure (FreezeKept.of_eq rfl rfl rfl)

theorem guarded_eraseMaxedCrowdsale (s : OmniState) (address : Address) (blockTime : Int)
    (blockHash : Uint256) :
    Guarded FreezeKept frozenAssert id s (s.eraseMaxedCrowdsale address blockTime blockHash) := by
  unfold OmniState.eraseMaxedCrowdsale
  split
  · exact Guarded.pure (Std.Refl.refl _)
  · split
    · exact Guarded.throw (by decide)
    · rename_i sp hsp
      exact Guarded.pure (FreezeKept.of_updateSP rfl rfl rfl hsp rfl rfl)

theorem guarded_buyTokenFinish {cfg : NodeConfig} {tx : CMPTransaction} {crowd : CMPCrowd}
    {issuerTokens : Int} {closeCrowdsale : Bool} {s : OmniState} :
    Guarded FreezeKept frozenAssert id s
      (CMPTransaction.buyTokenFinish cfg tx crowd issuerTokens closeCrowdsale s) := by
  dsimp only [CMPTransaction.buyTokenFinish]
  -- the issuer's tokens, credited when positive
  refine guarded_creditPositive_bind fun s₁ _ => ?_
  refine Guarded.bind (guarded_notifyTotalTokensChanged _ _ _ _) fun s₂ _ _ => ?_
  split
  · split
    · exact Guarded.throw (by decide)
    · exact guarded_eraseMaxedCrowdsale _ _ _ _
  · exact Guarded.pure (Std.Refl.refl _)

theorem logicMathBuyToken_guarded {cfg : NodeConfig} {tx : CMPTransaction} {s : OmniState} :
    Guarded FreezeKept frozenAssert Prod.snd s (CMPTransaction.logicMathBuyToken cfg tx s) := by
  dsimp only [CMPTransaction.logicMathBuyToken]
  refine Guarded.ite_pure rfl fun hsender => ?_
  refine Guarded.ite_pure rfl fun _ => ?_
  refine Guarded.ite_pure rfl fun _ => ?_
  refine Guarded.ite_pure rfl fun _ => ?_
  refine Guarded.ite_pure rfl fun _ => ?_
  refine Guarded.ite_pure rfl fun _ => ?_
  split
  case h_2 => exact Guarded.pure (Std.Refl.refl _)
  rename_i crowd hcrowd
  refine Guarded.ite_pure rfl fun _ => ?_
  split
  case h_2 => exact Guarded.throw (by decide)
  rename_i sp hsp
  refine Guarded.ite_pure rfl fun _ => ?_
  refine Guarded.bind_const (errorsIn_calculateFundraiser _ _ _ _ _ _ _ _) (by decide)
    fun ⟨userTokens, closeCrowdsale, refund⟩ _ => ?_
  refine Guarded.ite_pure rfl fun _ => ?_
  -- the crowdsale's record of the purchase changes no field the invariant reads
  split
  · split
    · refine Guarded.bind (Guarded.of_rel (by exact FreezeKept.of_eq rfl rfl rfl)
        (guarded_assertUpdateTallyMap (.inl (le_of_lt ‹_›)))) fun s₁ _ h₁ => ?_
      -- the payment leaves the sender, who passed the frozen check
      refine Guarded.bind (guarded_assertUpdateTallyMap (.inr ?_)) fun s₂ _ _ => ?_
      · rw [h₁.1]
        simpa using hsender
      refine Guarded.bind (guarded_assertUpdateTallyMap (.inl (le_of_lt ‹_›))) fun s₃ _ _ => ?_
      refine Guarded.bind guarded_buyTokenFinish fun s₄ _ _ => ?_
      exact Guarded.pure (Std.Refl.refl _)
    · exact Guarded.pure (FreezeKept.of_eq rfl rfl rfl)
  · refine Guarded.pure_bind id (FreezeKept.of_eq rfl rfl rfl)
      fun s₁ _ _ => ?_
    refine Guarded.bind guarded_buyTokenFinish fun s₂ _ _ => ?_
    exact Guarded.pure (Std.Refl.refl _)

/-! ## ERC721 -/

/-- The ERC721 stores are not read by the invariant. -/
theorem FreezeKept.existToken {s t : OmniState} (h : FreezeKept s t) (propertyID tokenID : Uint256) :
    FreezeKept s (CMPTransaction.existToken t propertyID tokenID).2 := by
  refine h.trans ?_
  dsimp only [CMPTransaction.existToken]
  -- every branch changes the ERC721 stores only
  repeat' split
  all_goals exact FreezeKept.of_eq rfl rfl rfl

theorem nextFreeTokenId_guarded (propertyID : Uint256) :
    ∀ (fuel tmpTokenID : Nat) (s : OmniState),
      Guarded FreezeKept frozenAssert (fun r => r.2.2) s
        (CMPTransaction.nextFreeTokenId propertyID fuel tmpTokenID s)
  | 0, _, _ => Guarded.throw (by decide)
  | fuel + 1, tmpTokenID, s => by
    dsimp only [CMPTransaction.nextFreeTokenId]
    have hk := FreezeKept.existToken (Std.Refl.refl s) propertyID tmpTokenID
    split
    · exact Guarded.of_rel hk (nextFreeTokenId_guarded propertyID fuel _ _)
    · exact Guarded.pure hk

theorem logicMathErc721IssueToken_guarded {cfg : NodeConfig} {tx : CMPTransaction} {s : OmniState} :
    Guarded FreezeKept frozenAssert Prod.snd s (CMPTransaction.logicMathErc721IssueToken cfg tx s) := by
  dsimp only [CMPTransaction.logicMathErc721IssueToken]
  split
  case h_2 => exact Guarded.pure (Std.Refl.refl _)
  refine Guarded.ite_pure rfl fun _ => ?_
  split
  case h_2 => exact Guarded.pure (FreezeKept.of_eq rfl rfl rfl)
  -- from here on the state differs from the start in its ERC721 stores only
  refine Guarded.ite_pure_of_rel (FreezeKept.of_eq rfl rfl rfl) fun _ => ?_
  refine Guarded.ite_pure_of_rel (FreezeKept.of_eq rfl rfl rfl) fun _ => ?_
  refine Guarded.ite_pure_of_rel (FreezeKept.of_eq rfl rfl rfl) fun _ => ?_
  split
  · refine Guarded.ite_pure_of_rel ?_ fun _ => ?_
    · refine FreezeKept.existToken ?_ _ _
      exact FreezeKept.of_eq rfl rfl rfl
    refine Guarded.pure_bind (fun r => r.2.2) ?_ fun r _ _ => ?_
    · refine FreezeKept.existToken ?_ _ _
      exact FreezeKept.of_eq rfl rfl rfl
    -- the token is written, then the property's counters
    exact Guarded.ite_pure_of_rel (FreezeKept.of_eq rfl rfl rfl) fun _ =>
      Guarded.pure (FreezeKept.of_eq rfl rfl rfl)
  · refine Guarded.bind (Guarded.of_rel (by exact FreezeKept.of_eq rfl rfl rfl)
      (nextFreeTokenId_guarded _ _ _ _)) fun r _ _ => ?_
    refine Guarded.pure_bind (fun r => r.2.2) (Std.Refl.refl _) fun r' _ _ => ?_
    exact Guarded.ite_pure_of_rel (FreezeKept.of_eq rfl rfl rfl) fun _ =>
      Guarded.pure (FreezeKept.of_eq rfl rfl rfl)

theorem logicMathErc721IssueProperty_guarded {cfg : NodeConfig} {tx : CMPTransaction} {s : OmniState}
    (hinv : FreezeInv s) :
    Guarded FreezeKept frozenAssert Prod.snd s
      (CMPTransaction.logicMathErc721IssueProperty cfg tx s) := by
  dsimp only [CMPTransaction.logicMathErc721IssueProperty]
  split
  case h_2 => exact Guarded.pure (Std.Refl.refl _)
  refine Guarded.ite_pure rfl fun _ => ?_
  refine Guarded.ite_pure rfl fun _ => ?_
  refine Guarded.ite_pure rfl fun _ => ?_
  refine Guarded.ite_pure rfl fun _ => ?_
  -- the new ERC721 property, then the creation fee
  refine Guarded.bind (Guarded.of_rel (by exact FreezeKept.of_eq rfl rfl rfl)
    (guarded_payCreateFee (by exact hinv.congr rfl rfl) _)) fun s₁ _ _ => ?_
  exact Guarded.pure (Std.Refl.refl _)

theorem logicMathErc721TransferToken_guarded {cfg : NodeConfig} {tx : CMPTransaction}
    {s : OmniState} :
    Guarded FreezeKept frozenAssert Prod.snd s
      (CMPTransaction.logicMathErc721TransferToken cfg tx s) := by
  dsimp only [CMPTransaction.logicMathErc721TransferToken]
  split
  case h_2 => exact Guarded.pure (Std.Refl.refl _)
  refine Guarded.ite_pure rfl fun _ => ?_
  split
  case h_2 => exact Guarded.pure (FreezeKept.of_eq rfl rfl rfl)
  refine Guarded.ite_pure_of_rel (FreezeKept.of_eq rfl rfl rfl) fun _ => ?_
  refine Guarded.ite_pure_of_rel (FreezeKept.of_eq rfl rfl rfl) fun _ => ?_
  exact Guarded.pure (FreezeKept.of_eq rfl rfl rfl)

theorem logicMathErc721DestroyToken_guarded {cfg : NodeConfig} {tx : CMPTransaction}
    {s : OmniState} :
    Guarded FreezeKept frozenAssert Prod.snd s
      (CMPTransaction.logicMathErc721DestroyToken cfg tx s) := by
  dsimp only [CMPTransaction.logicMathErc721DestroyToken]
  split
  case h_2 => exact Guarded.pure (Std.Refl.refl _)
  refine Guarded.ite_pure rfl fun _ => ?_
  split
  case h_2 => exact Guarded.pure (FreezeKept.of_eq rfl rfl rfl)
  split
  case h_2 => exact Guarded.pure (FreezeKept.of_eq rfl rfl rfl)
  refine Guarded.ite_pure_of_rel (FreezeKept.of_eq rfl rfl rfl) fun _ => ?_
  exact Guarded.pure (FreezeKept.of_eq rfl rfl rfl)

theorem logicMathErc721_guarded {cfg : NodeConfig} {tx : CMPTransaction} {s : OmniState}
    (hinv : FreezeInv s) :
    Guarded FreezeKept frozenAssert Prod.snd s (CMPTransaction.logicMathErc721 cfg tx s) := by
  unfold CMPTransaction.logicMathErc721
  split
  · exact logicMathErc721IssueProperty_guarded hinv
  split
  · exact logicMathErc721IssueToken_guarded
  split
  · exact logicMathErc721TransferToken_guarded
  split
  · exact logicMathErc721DestroyToken_guarded
  · exact Guarded.pure (Std.Refl.refl _)

/-! ## Freezing -/

/-- The one message the checks of freezing fail with. -/
theorem CMPTransaction.errorsIn_freezeCheck (tx : CMPTransaction) (s : OmniState) :
    ErrorsIn ["logicMath_FreezeTokens: assert(_my_sps->getSP(property, sp))"]
      (CMPTransaction.freezeCheck tx s) := by
  dsimp only [CMPTransaction.freezeCheck]
  repeat' first
    | exact ErrorsIn.pure
    | exact ErrorsIn.throw (by decide)
    | split

/-- The checks of freezing passed: the property is managed and the receiver is not its issuer. -/
theorem CMPTransaction.freezeCheck_none {tx : CMPTransaction} {s : OmniState}
    (h : CMPTransaction.freezeCheck tx s = .ok none) :
    ∃ e, s.sps.getSP tx.property.toNat = some e ∧ e.manual = true ∧ e.issuer ≠ tx.receiver := by
  dsimp only [CMPTransaction.freezeCheck] at h
  split at h
  case h_2 => cases h
  -- every early return is a code, not `none`
  split at h
  · cases h
  split at h
  · cases h
  split at h
  case h_2 => cases h
  rename_i sp hsp
  split at h
  · cases h
  split at h
  · cases h
  split at h
  · cases h
  rename_i hman hissuer hself
  refine ⟨sp, hsp, by simpa using hman, fun hrecv => hself ?_⟩
  rw [← hrecv]
  exact not_not.mp hissuer

/-- **A transaction, as the frozen balances see it**: no frozen balance went down, and the
invariant is kept. Freezing and unfreezing change the frozen pairs, so these are not kept. -/
def FreezeStep (s s' : OmniState) : Prop := FrozenMono s s' ∧ (FreezeInv s → FreezeInv s')

theorem FreezeStep.refl (s : OmniState) : FreezeStep s s := ⟨FrozenMono.refl s, id⟩

theorem FreezeKept.step {s s' : OmniState} (h : FreezeKept s s') : FreezeStep s s' := ⟨h.2.1, h.2.2⟩

theorem logicMathFreezeTokens_guarded {tx : CMPTransaction} {s : OmniState} :
    Guarded FreezeStep frozenAssert Prod.snd s (CMPTransaction.logicMathFreezeTokens tx s) := by
  dsimp only [CMPTransaction.logicMathFreezeTokens]
  refine Guarded.bind_const (CMPTransaction.errorsIn_freezeCheck tx s) (by decide) fun r hr => ?_
  cases r with
  | some code => exact Guarded.pure (FreezeStep.refl s)
  | none =>
    -- the checks passed: the property is managed and the receiver is not its issuer
    obtain ⟨e, he, hman, hiss⟩ := CMPTransaction.freezeCheck_none hr
    exact Guarded.pure ⟨fun _ _ _ => le_refl _, fun hinv => hinv.freeze he hman hiss⟩

theorem logicMathUnfreezeTokens_guarded {tx : CMPTransaction} {s : OmniState} :
    Guarded FreezeStep frozenAssert Prod.snd s (CMPTransaction.logicMathUnfreezeTokens tx s) := by
  dsimp only [CMPTransaction.logicMathUnfreezeTokens]
  refine Guarded.bind_const (CMPTransaction.errorsIn_freezeCheck tx s) (by decide) fun r _ => ?_
  cases r with
  | some code => exact Guarded.pure (FreezeStep.refl s)
  | none => exact Guarded.pure ⟨fun _ _ _ => le_refl _, fun hinv => hinv.unfreeze _ _⟩

/-! ## A transaction -/

/-- **Every handler**, from a state of the invariant, for a sender that is not frozen for the
packet's property. -/
theorem logicMath_guarded {cfg : NodeConfig} {tx : CMPTransaction} {s : OmniState}
    (hinv : FreezeInv s) (hsender : isAddressFrozen s.frozen tx.sender tx.property.toNat = false) :
    Guarded FreezeStep frozenAssert Prod.snd s (CMPTransaction.logicMath cfg tx s) := by
  unfold CMPTransaction.logicMath
  split
  case h_12 => exact logicMathFreezeTokens_guarded
  case h_13 => exact logicMathUnfreezeTokens_guarded
  -- every other handler keeps the frozen pairs
  all_goals refine Guarded.mono (fun _ _ h => FreezeKept.step h) ?_
  case h_1 => exact logicMathSimpleSend_guarded tx s
  case h_2 => exact logicMathBuyToken_guarded
  case h_3 => exact logicMathSendToOwners_guarded hinv
  case h_4 => exact logicMathSendAll_guarded tx s
  case h_5 => exact logicMathCreatePropertyFixed_guarded hinv
  case h_6 => exact logicMathCreatePropertyVariable_guarded hinv
  case h_7 => exact logicMathCloseCrowdsale_guarded
  case h_8 => exact logicMathCreatePropertyManaged_guarded hinv
  case h_9 => exact logicMathGrantTokens_guarded
  case h_10 => exact logicMathRevokeTokens_guarded hsender
  case h_11 => exact logicMathChangeIssuer_guarded
  case h_14 => exact logicMathBurnBCHGetWHC_guarded
  case h_15 => exact logicMathErc721_guarded hinv
  case h_16 => exact Guarded.pure (Std.Refl.refl _)

/-- **`interpretPacket`**: its check of the sender against the packet's property is what the
handlers that debit that property rely on. -/
theorem interpretPacket_guarded {cfg : NodeConfig} {tx : CMPTransaction} {s : OmniState}
    (hinv : FreezeInv s) :
    Guarded FreezeStep frozenAssert Prod.snd s (CMPTransaction.interpretPacket cfg tx s) := by
  unfold CMPTransaction.interpretPacket
  split
  · exact Guarded.pure (FreezeStep.refl s)
  · split
    · exact Guarded.pure (FreezeStep.refl s)
    · exact logicMath_guarded hinv (Bool.not_eq_true _ ▸ ‹_›)

theorem mastercoreHandlerTx_guarded {cfg : NodeConfig} {tx : CMPTransaction} {s : OmniState}
    (hinv : FreezeInv s) :
    Guarded FreezeStep frozenAssert Prod.snd s (mastercoreHandlerTx cfg tx s) := by
  unfold mastercoreHandlerTx
  refine Guarded.bind_of (interpretPacket_guarded hinv) fun r _ hstep => ?_
  obtain ⟨code, s'⟩ := r
  dsimp only at hstep ⊢
  -- recording the transaction in `p_txlistdb` changes nothing the frozen balances read
  split
  · exact Guarded.pure ⟨hstep.1, fun hinv => (hstep.2 hinv).congr rfl rfl⟩
  · exact Guarded.pure hstep

/-! ## The beginning and the end of a block -/

theorem eraseExpiredStep_guarded (blockTime : Int) (blockHash : Uint256) (acc : OmniState × Nat)
    (entry : Address × CMPCrowd) :
    Guarded FreezeKept frozenAssert Prod.fst acc.1
      (OmniState.eraseExpiredStep blockTime blockHash acc entry) := by
  obtain ⟨s, n⟩ := acc
  obtain ⟨address, crowd⟩ := entry
  dsimp only [OmniState.eraseExpiredStep]
  split
  case isFalse => exact Guarded.pure (Std.Refl.refl _)
  split
  case h_1 => exact Guarded.throw (by decide)
  rename_i sp hsp
  refine Guarded.bind_const (errorsIn_getMissedIssuerBonus _ _ _) (by decide) fun missed _ => ?_
  -- the record keeps its issuer; missed tokens are credited to the issuer
  refine Guarded.of_rel (by exact FreezeKept.updateSP_same hsp rfl rfl)
    (guarded_creditPositive_bind fun s₁ _ => ?_)
  exact Guarded.pure (FreezeKept.of_eq rfl rfl rfl)

theorem eraseExpiredCrowdsale_guarded (s : OmniState) (blockTime : Int) (blockHash : Uint256) :
    Guarded FreezeKept frozenAssert Prod.snd s (s.eraseExpiredCrowdsale blockTime blockHash) := by
  unfold OmniState.eraseExpiredCrowdsale
  refine Guarded.bind (Guarded.foldlM_fst _ _ s 0
    fun b _ e _ => eraseExpiredStep_guarded _ _ b e) fun r _ _ => ?_
  exact Guarded.pure (Std.Refl.refl _)

/-- **The walk of `DistributeWHCToBurner`** credits WHC only, for which nobody is frozen: it never
fails the frozen-address assert, and where it finishes it has kept the frozen balances and the
invariant, and its WHC record keeps its `manual` flag. The induction follows the walk. -/
theorem distributeWalk_guarded (maxHeight : Int) :
    ∀ (rest kept : List PendingBurn) (s : OmniState) (sp : CMPSPInfo.Entry) (update : Nat),
      (∀ a, isAddressFrozen s.frozen a omniPropertyWhc = false) →
      distributeWalk maxHeight rest kept s sp update ≠ .error frozenAssert ∧
      ∀ pending s' sp' update', distributeWalk maxHeight rest kept s sp update =
        .ok (.finished pending s' sp' update') → FreezeKept s s' ∧ sp'.manual = sp.manual
  | [], kept, s, sp, update, _ => by
    refine ⟨Except.pure_ne_error, fun pending s' sp' update' h => ?_⟩
    rw [distributeWalk, Except.pure_eq_ok, BurnWalk.finished.injEq] at h
    obtain ⟨-, rfl, rfl, -⟩ := h
    exact ⟨Std.Refl.refl s, rfl⟩
  | e :: rest, kept, s, sp, update, hwhc => by
    rw [distributeWalk]
    split
    case isFalse => exact distributeWalk_guarded maxHeight rest (e :: kept) s sp update hwhc
    split
    case isFalse =>
      -- already credited: a rescan, or the loop that never ends
      split
      · exact ⟨Except.pure_ne_error, fun _ _ _ _ h => by simp at h⟩
      · exact ⟨fun h => absurd (Except.throw_eq_error.mp h) (by decide), fun _ _ _ _ h => by simp at h⟩
    -- the credit of the entry, in WHC
    have hcredit : Guarded FreezeKept frozenAssert id s
        (s.assertUpdateTallyMap e.address omniPropertyWhc e.amount) :=
      guarded_assertUpdateTallyMap (.inr (hwhc e.address))
    cases hs₁ : s.assertUpdateTallyMap e.address omniPropertyWhc e.amount with
    | error err =>
      refine ⟨fun h => hcredit.ne_error ?_, fun _ _ _ _ h => by simp at h⟩
      rw [hs₁]
      simpa using h
    | ok s₁ =>
      have hk : FreezeKept s s₁ := hcredit.rel_of_ok hs₁
      have hwhc₁ : ∀ a, isAddressFrozen s₁.frozen a omniPropertyWhc = false := by
        rw [hk.1]
        exact hwhc
      -- the walk goes on from the credited state, with the entry recorded in the WHC record
      dsimp only [bind, Except.bind]
      split
      · exact ⟨Except.pure_ne_error, fun _ _ _ _ h => by simp at h⟩
      · obtain ⟨hne, hok⟩ := distributeWalk_guarded maxHeight rest kept s₁ _ (update + 1) hwhc₁
        refine ⟨hne, fun pending s' sp' update' h => ?_⟩
        obtain ⟨hk', hman⟩ := hok pending s' sp' update' h
        exact ⟨hk.trans hk', hman⟩

theorem distributeWHCToBurner_guarded {cfg : NodeConfig} {s : OmniState} (hinv : FreezeInv s)
    (height : Int) (blockHash : Uint256) :
    distributeWHCToBurner cfg s height blockHash ≠ .error frozenAssert ∧
      ∀ s', distributeWHCToBurner cfg s height blockHash = .ok (.done s') → FreezeKept s s' := by
  -- the walk starts from the record of WHC, or the default `Entry()`: neither is managed
  have hsp : ((s.sps.getSP omniPropertyWhc).getD {}).manual = false := by
    cases he : s.sps.getSP omniPropertyWhc with
    | none => rfl
    | some e => exact hinv.whc_not_managed e he
  obtain ⟨hne, hok⟩ := distributeWalk_guarded (height - distributeHeightOf cfg.network + 1)
    s.pendingCreateWHC [] s _ 0 hinv.not_frozen_whc
  refine ⟨fun h => ?_, fun s' h => ?_⟩
  · simp only [distributeWHCToBurner, Except.bind_eq_error] at h
    rcases h with h | ⟨w, -, h⟩
    · exact hne h
    · cases w with
      | reparse pending => simp at h
      | finished pending s₁ sp₁ update =>
        dsimp only at h
        split at h <;> simp at h
  · simp only [distributeWHCToBurner, Except.bind_eq_ok] at h
    obtain ⟨w, hw, h⟩ := h
    cases w with
    | reparse pending => simp at h
    | finished pending s₁ sp₁ update =>
      obtain ⟨hk, hman⟩ := hok _ _ _ _ hw
      -- the entries left are stored, then the record, stamped, if anything was credited
      have hk₁ : FreezeKept s { s₁ with pendingCreateWHC := pending } :=
        hk.trans (FreezeKept.of_eq rfl rfl rfl)
      dsimp only at h
      split at h
      · rw [Except.pure_eq_ok, BurnOutcome.done.injEq] at h
        subst h
        exact hk₁.trans (FreezeKept.updateSP_whc (hman.trans hsp))
      · rw [Except.pure_eq_ok, BurnOutcome.done.injEq] at h
        subst h
        exact hk₁

/-! ## Every reachable state -/

/-- **The invariant holds in every reachable state.** A fresh node and the wipe of a rescan have no
frozen pair and the store of a fresh node; every other step keeps it. -/
theorem FreezeInv.of_reachable {cfg : NodeConfig} {s : OmniState} (hs : Reachable cfg s) :
    FreezeInv s := by
  induction hs with
  | fresh => exact FreezeInv.of_fresh_sps rfl rfl
  | tx tx _ hrun ih => exact ((mastercoreHandlerTx_guarded ih).rel_of_ok hrun).2 ih
  | expire blockTime blockHash _ h ih =>
    exact ((eraseExpiredCrowdsale_guarded _ blockTime blockHash).rel_of_ok h).2.2 ih
  | credit height blockHash _ h ih =>
    exact ((distributeWHCToBurner_guarded ih height blockHash).2 _ h).2.2 ih
  | flush blockHash _ ih => exact ih.congr rfl rfl
  | rescan height blockHash _ _ _ => exact FreezeInv.of_fresh_sps rfl rfl

/-- **What the holder of a frozen balance can rely on in a state**: the issuer of a property is
not frozen for it, and neither a packet, nor the burn crediting at a block's end, nor the crowdsale
expiry at a block's beginning fails the frozen-address assert of `update_tally_map` or lowers a
frozen balance. -/
structure FrozenBalancesSafe (cfg : NodeConfig) (s : OmniState) : Prop where
  issuer_not_frozen :
    ∀ p e, s.sps.getSP p = some e → isAddressFrozen s.frozen e.issuer p = false
  interpretPacket_ne :
    ∀ tx, CMPTransaction.interpretPacket cfg tx s ≠ .error frozenAssert
  interpretPacket_mono :
    ∀ tx r s', CMPTransaction.interpretPacket cfg tx s = .ok (r, s') → FrozenMono s s'
  distribute_ne :
    ∀ height blockHash, distributeWHCToBurner cfg s height blockHash ≠ .error frozenAssert
  distribute_mono : ∀ height blockHash s',
    distributeWHCToBurner cfg s height blockHash = .ok (.done s') → FrozenMono s s'
  expire_ne :
    ∀ blockTime blockHash, s.eraseExpiredCrowdsale blockTime blockHash ≠ .error frozenAssert
  expire_mono : ∀ blockTime blockHash n s',
    s.eraseExpiredCrowdsale blockTime blockHash = .ok (n, s') → FrozenMono s s'

/-- **Frozen balances never go down**, in every state a node reaches processing blocks forward. -/
theorem frozen_balances_never_decrease {cfg : NodeConfig} {s : OmniState} (hs : Reachable cfg s) :
    FrozenBalancesSafe cfg s := by
  have hinv := FreezeInv.of_reachable hs
  exact {
    issuer_not_frozen := fun _ _ he => hinv.issuer_not_frozen he
    interpretPacket_ne := fun _ => (interpretPacket_guarded hinv).ne_error
    interpretPacket_mono := fun _ _ _ h => ((interpretPacket_guarded hinv).rel_of_ok h).1
    distribute_ne := fun height blockHash => (distributeWHCToBurner_guarded hinv height blockHash).1
    distribute_mono := fun height blockHash s' h =>
      ((distributeWHCToBurner_guarded hinv height blockHash).2 s' h).2.1
    expire_ne := fun blockTime blockHash => (eraseExpiredCrowdsale_guarded s blockTime blockHash).ne_error
    expire_mono := fun blockTime blockHash _ _ h =>
      ((eraseExpiredCrowdsale_guarded s blockTime blockHash).rel_of_ok h).2.1 }

/-- A managed property (type 54) of the main ecosystem, `prev_prop_id` odd so that it may freeze. -/
def managedProperty : CMPTransaction :=
  { txid := 2, block := 0, blockHash := none, blockTime := 0, sender := "issuer", receiver := "",
    type := 54, version := 0, ecosystem := 1, propType := 1, prevPropId := 1, name := "M" }

/-- A grant (type 55) of `100` tokens of property `3` to `holder`. -/
def grantToHolder : CMPTransaction :=
  { txid := 3, block := 0, blockHash := none, blockTime := 0, sender := "issuer",
    receiver := "holder", type := 55, version := 0, property := 3, nValue := 100 }

/-- The issuer freezes (type 185) `holder` for property `3`. -/
def freezeHolder : CMPTransaction :=
  { txid := 4, block := 0, blockHash := none, blockTime := 0, sender := "issuer",
    receiver := "holder", type := 185, version := 0, property := 3 }

/-- Regtest: the issuer burns one BCH at block `101`, then creates the property, grants and freezes
at block `102`. -/
def holderFrozen : List Block :=
  [⟨101, 101, 1000, [burnOneBch 1 "issuer"]⟩,
   ⟨102, 102, 1000, [managedProperty, grantToHolder, freezeHolder]⟩]

/-- A reachable state with a frozen balance, where the guarantees hold. -/
theorem holder_frozen_balance_safe :
    ∃ s, Reachable regtest s ∧ isAddressFrozen s.frozen "holder" 3 = true ∧
      FrozenBalancesSafe regtest s := by
  obtain ⟨s, hs, hfrozen⟩ := Reachable.exists_of_runChain regtest holderFrozen
    (fun s => isAddressFrozen s.frozen "holder" 3) (by decide)
  exact ⟨s, hs, hfrozen, frozen_balances_never_decrease hs⟩

end WormholeCore
