/-
# `WormholeCore.Issuance` — where a packet creates or destroys tokens.

The supply of a property is what the tally holds of it plus what the fee cache holds of it: the
sum `getTotalTokens` returns for WHC and for a managed property. A packet creates or destroys tokens in four places only:

* a grant (type 55) and a revocation (type 56) of a managed property, by their amount;
* the issuance of a fixed property (type 50), of a property that had no record;
* the sale of an active crowdsale: a purchase (type 1) and the close (type 53) credit the tokens
  of the property it sells.

Every other movement takes from one balance what it gives to another: a send, a send-all, a
send-to-owners of version `0` (its fee goes to the burn address), a creation fee, a distribution
of the fee cache. A send-to-owners of another version is left out: it counts its fee twice
(`sto_v1_fee_counted_twice`).

The handlers are walked with the rules of `Lib.WP`, with `Moved`: a state still sound at the
packet's block (every counter in range, no cached fee after the block) whose supplies moved by a
given function from those of the start.

## What is proved here

* `packet_supply_ledger` — in every state a node reaches processing blocks forward that is sound at a
  packet's block, the packet keeps the state sound, and moves the supply of every property that has a record and that no active
  crowdsale sells by what it grants or revokes of it, and by nothing else; with
  `managed_grant_supply_ledger`, a grant of a managed property by its issuer.
-/
import WormholeCore.CrowdSafety

namespace WormholeCore

open Lib Lib.Except

namespace OmniState

/-- **The supply of a property**: what the tally holds of it plus what the fee cache holds of it. -/
def supply (s : OmniState) (p : PropertyId) : Int :=
  s.tally.sumHolding p + s.feeCache.getCachedAmount p

end OmniState

/-! ## Moved supplies -/

/-- **A state sound at `block` whose supplies moved by `d` from those of `s`.** -/
structure Moved (block : Int) (s : OmniState) (d : PropertyId → Int) (s' : OmniState) : Prop where
  sound : s'.Sound block
  supply : ∀ q, s'.supply q = s.supply q + d q

namespace Moved

variable {block : Int} {s s' s₁ s₂ : OmniState} {d d₁ d₂ : PropertyId → Int}

theorem refl (hs : s.Sound block) : Moved block s 0 s :=
  ⟨hs, fun q => by rw [Pi.zero_apply, add_zero]⟩

theorem trans (h₁ : Moved block s d₁ s₁) (h₂ : Moved block s₁ d₂ s₂) : Moved block s (d₁ + d₂) s₂ :=
  ⟨h₂.sound, fun q => by rw [h₂.supply, h₁.supply, Pi.add_apply, add_assoc]⟩

/-- A change of the fields the supplies do not read. -/
theorem of_eq (hs : s.Sound block) (ht : s'.tally = s.tally) (hc : s'.feeCache = s.feeCache) :
    Moved block s 0 s' := by
  refine ⟨⟨fun p => ?_, fun p => ?_, ?_⟩, fun q => ?_⟩
  · rw [ht]
    exact hs.inRange p
  · rw [hc]
    exact hs.cached p
  · rw [hc]
    exact hs.before
  · rw [Pi.zero_apply, add_zero, OmniState.supply, OmniState.supply, ht, hc]

/-- A new or rewritten record. -/
theorem of_sps (hs : s.Sound block) (sps : CMPSPInfo) : Moved block s 0 { s with sps := sps } :=
  of_eq hs rfl rfl

/-- A crowdsale stored or dropped. -/
theorem of_crowds (hs : s.Sound block) (crowds : CrowdMap) : Moved block s 0 { s with crowds := crowds } :=
  of_eq hs rfl rfl

/-- **An early return with an error code**: nothing moved, whatever a success would have moved. -/
theorem refused (hs : s.Sound block) {c : Int} (hc : c ≠ 0) (d : PropertyId → Int) :
    (fun r : Int × OmniState => Moved block s (if r.1 = 0 then d else 0) r.2) (c, s) := by
  show Moved block s (if c = 0 then d else 0) s
  rw [if_neg hc]
  exact refl hs

theorem trans_zero (h₁ : Moved block s 0 s₁) (h₂ : Moved block s₁ 0 s₂) : Moved block s 0 s₂ :=
  add_zero (0 : PropertyId → Int) ▸ h₁.trans h₂

theorem congr (h : Moved block s d s') (hd : ∀ q, d q = d₁ q) : Moved block s d₁ s' :=
  ⟨h.sound, fun q => by rw [h.supply, hd]⟩

/-- A debit given back by a credit. -/
theorem single_neg_add_single (p : PropertyId) (a : Int) :
    (Pi.single p (-a) + Pi.single p a : PropertyId → Int) = 0 := by
  rw [← Pi.single_add, neg_add_cancel, Pi.single_zero]

end Moved

/-! ## The steps -/

section Steps

variable {block : Int} {s : OmniState}

theorem wp_assertUpdateTallyMap (hs : s.Sound block) (who : Address) (p : PropertyId) (a : Int) :
    WP (s.assertUpdateTallyMap who p a) (Moved block s (Pi.single p a)) fun _ => True := by
  cases h : s.assertUpdateTallyMap who p a with
  | error e => exact True.intro
  | ok s' =>
    refine ⟨hs.assertUpdateTallyMap h, fun q => ?_⟩
    rw [OmniState.supply, OmniState.supply, OmniState.sumHolding_assertUpdateTallyMap h q,
      (OmniState.assertUpdateTallyMap_frame h).2, Pi.single_apply]
    omega

/-- **A move**: the debit of an amount, then its credit, of one property, then the rest. -/
theorem wp_move_bind {β : Type} (hs : s.Sound block) (src dst : Address) (p : PropertyId) (a : Int)
    {k : OmniState → Except String β} {Q : β → Prop}
    (hk : ∀ s₂, Moved block s 0 s₂ → WP (k s₂) Q fun _ => True) :
    WP (s.assertUpdateTallyMap src p (-a) >>= fun s₁ => s₁.assertUpdateTallyMap dst p a >>= k) Q
      fun _ => True := by
  refine WP.bind (wp_assertUpdateTallyMap hs src p (-a)) fun s₁ h₁ => ?_
  refine WP.bind (wp_assertUpdateTallyMap h₁.sound dst p a) fun s₂ h₂ => ?_
  exact hk s₂ (Moved.single_neg_add_single p a ▸ h₁.trans h₂)

/-- The distribution thresholds are not read by the supplies. -/
theorem moved_updateDistributionThresholds (hs : s.Sound block) (p : PropertyId) :
    Moved block s 0 (s.updateDistributionThresholds p) :=
  ⟨⟨hs.inRange, hs.cached, hs.before⟩, fun q => by rw [Pi.zero_apply, add_zero]; rfl⟩

/-- **The notification** distributes the fee cache, which hands over exactly what it held. -/
theorem wp_notifyTotalTokensChanged (hs : s.Sound block) (debug : Bool) (p : PropertyId) :
    WP (s.notifyTotalTokensChanged debug p block) (Moved block s 0) fun _ => True := by
  have h₁ := moved_updateDistributionThresholds hs p
  cases h : s.notifyTotalTokensChanged debug p block with
  | error e => exact True.intro
  | ok s' =>
    obtain ⟨hs', hsupply, -⟩ := OmniState.evalCache_supply h₁.sound h
    have h₂ : Moved block (s.updateDistributionThresholds p) 0 s' :=
      ⟨hs', fun q => by rw [Pi.zero_apply, add_zero]; exact hsupply q⟩
    exact h₁.trans_zero h₂

/-- The creation fee goes to the burn address. -/
theorem wp_payCreateFee (hs : s.Sound block) (cfg : NodeConfig) (a : Address) :
    WP (CMPTransaction.payCreateFee cfg a s) (Moved block s 0) fun _ => True := by
  unfold CMPTransaction.payCreateFee
  refine WP.bind (wp_assertUpdateTallyMap hs a omniPropertyWhc _) fun s₁ h₁ => ?_
  refine (wp_assertUpdateTallyMap h₁.sound _ omniPropertyWhc _).mono (fun s₂ h₂ => ?_) fun _ h => h
  exact Moved.single_neg_add_single _ _ ▸ h₁.trans h₂

/-- **Supplies moved only off `S`**: moved by some `d` that is zero on every property of `S`. -/
def MovedOff (block : Int) (s : OmniState) (S : PropertyId → Prop) (s' : OmniState) : Prop :=
  ∃ d, Moved block s d s' ∧ ∀ p, S p → d p = 0

namespace MovedOff

variable {S : PropertyId → Prop} {s₁ s₂ : OmniState}

theorem of_moved (h : Moved block s 0 s₁) : MovedOff block s S s₁ := ⟨0, h, fun _ _ => rfl⟩

theorem sound (h : MovedOff block s S s₁) : s₁.Sound block := by
  obtain ⟨d, hd, -⟩ := h
  exact hd.sound

theorem trans_zero (h₁ : MovedOff block s S s₁) (h₂ : Moved block s₁ 0 s₂) : MovedOff block s S s₂ := by
  obtain ⟨d, hd, hS⟩ := h₁
  exact ⟨d + 0, hd.trans h₂, fun p hp => by rw [Pi.add_apply, hS p hp, Pi.zero_apply, add_zero]⟩

/-- A credit of a property off `S`. -/
theorem trans_single {q : PropertyId} {a : Int} (h₁ : MovedOff block s S s₁)
    (h₂ : Moved block s₁ (Pi.single q a) s₂) (hq : ¬S q) : MovedOff block s S s₂ := by
  obtain ⟨d, hd, hS⟩ := h₁
  refine ⟨d + Pi.single q a, hd.trans h₂, fun p hp => ?_⟩
  have hpq : p ≠ q := fun h => hq (h ▸ hp)
  rw [Pi.add_apply, hS p hp, Pi.single_apply, if_neg hpq, add_zero]

end MovedOff

/-- The credit of a positive amount of a property off `S`, or nothing, then the rest: the shape in
which closing a crowdsale and a purchase credit the issuer. -/
theorem wp_creditPositive_bind {β : Type} {S : PropertyId → Prop} {s₀ : OmniState}
    (h₀ : MovedOff block s₀ S s) {who : Address} {p : PropertyId} {m : Int}
    {k : OmniState → Except String β} {Q : β → Prop} (hp : 0 < m → ¬S p)
    (hk : ∀ s₁, MovedOff block s₀ S s₁ → WP (k s₁) Q fun _ => True) :
    WP (if 0 < m then s.assertUpdateTallyMap who p m >>= k else pure s >>= k) Q fun _ => True := by
  split
  · exact WP.bind (wp_assertUpdateTallyMap h₀.sound who p m) fun s₁ h₁ =>
      hk s₁ (h₀.trans_single h₁ (hp ‹_›))
  · exact WP.bind (WP.pure h₀) hk

end Steps

/-! ## Sends: every token taken is given -/

section Handlers

variable {cfg : NodeConfig} {tx : CMPTransaction} {s : OmniState}

theorem logicMathSimpleSend_moved (hs : s.Sound tx.block) :
    WP (CMPTransaction.logicMathSimpleSend tx s) (fun r => Moved tx.block s 0 r.2) fun _ => True := by
  dsimp only [CMPTransaction.logicMathSimpleSend]
  -- six refusals, each with the state unchanged
  iterate 6 refine WP.ite_pure (Moved.refl hs) fun _ => ?_
  exact wp_move_bind hs _ _ _ _ fun s₂ h₂ => WP.pure h₂

theorem stoPay_moved {block : Int} {property : PropertyId} {sender : Address}
    {acc : OmniState × Int} (hacc : Moved block s 0 acc.1) (r : Int × Address) :
    WP (CMPTransaction.stoPay property sender acc r) (fun acc' => Moved block s 0 acc'.1)
      fun _ => True := by
  unfold CMPTransaction.stoPay
  exact wp_move_bind hacc.sound _ _ _ _ fun s₂ h₂ => WP.pure (hacc.trans_zero h₂)

/-- **A send-to-owners of version `0`**: its fee is WHC, since the sent property is valid, and goes
to the burn address; the owners get what the sender gives. -/
theorem logicMathSendToOwners_moved (hfreeze : FreezeInv s) (hs : s.Sound tx.block)
    (hv : tx.version.toNat = mpTxPktV0) :
    WP (CMPTransaction.logicMathSendToOwners cfg tx s) (fun r => Moved tx.block s 0 r.2)
      fun _ => True := by
  dsimp only [CMPTransaction.logicMathSendToOwners]
  iterate 3 refine WP.ite_pure (Moved.refl hs) fun _ => ?_
  refine WP.ite_pure (Moved.refl hs) fun hvalid => ?_
  iterate 2 refine WP.ite_pure (Moved.refl hs) fun _ => ?_
  refine WP.bind (WP.trivial _) fun receivers _ => ?_
  refine WP.ite_pure (Moved.refl hs) fun _ => ?_
  have hfee := feeProperty_of_valid hfreeze (by simpa using hvalid)
  simp only [hfee, Bool.false_eq_true, if_false, hv, if_true]
  refine WP.ite_ite_pure (Moved.refl hs) (Moved.refl hs) ?_
  -- the fee, from the sender to the burn address
  refine wp_move_bind hs _ _ _ _ fun s₂ h₂ => ?_
  refine WP.bind (WP.pure h₂) fun s₃ h₃ => ?_
  refine WP.bind (WP.foldlM (P := fun acc => Moved tx.block s 0 acc.1) _ receivers (s₃, 0) h₃
    fun acc hacc r _ => stoPay_moved hacc r) fun paid hpaid => ?_
  refine WP.ite (fun _ => WP.throw_bind True.intro) fun _ => ?_
  refine WP.bind (wp_notifyTotalTokensChanged hpaid.sound _ _) fun s₄ h₄ => ?_
  exact WP.pure (hpaid.trans_zero h₄)

theorem sendAllStep_moved {block : Int} {sender receiver : Address} {ecosystem : Nat}
    {acc : OmniState × Nat} (hacc : Moved block s 0 acc.1) (propertyId : PropertyId) :
    WP (CMPTransaction.sendAllStep sender receiver ecosystem acc propertyId)
      (fun acc' => Moved block s 0 acc'.1) fun _ => True := by
  obtain ⟨s₁, n⟩ := acc
  dsimp only [CMPTransaction.sendAllStep]
  iterate 4 refine WP.ite_pure hacc fun _ => ?_
  split
  · exact wp_move_bind hacc.sound _ _ _ _ fun s₂ h₂ => WP.pure (hacc.trans_zero h₂)
  · exact WP.pure hacc

theorem logicMathSendAll_moved (hs : s.Sound tx.block) :
    WP (CMPTransaction.logicMathSendAll tx s) (fun r => Moved tx.block s 0 r.2) fun _ => True := by
  dsimp only [CMPTransaction.logicMathSendAll]
  iterate 2 refine WP.ite_pure (Moved.refl hs) fun _ => ?_
  split
  · refine WP.bind (WP.foldlM (P := fun acc => Moved tx.block s 0 acc.1) _ _ (s, 0) (Moved.refl hs)
      fun acc hacc p _ => sendAllStep_moved hacc p) fun r hr => ?_
    exact WP.ite_pure hr fun _ => WP.pure hr
  · exact WP.pure (Moved.refl hs)

/-! ## Smart properties -/

/-- **The issuance of a fixed property** credits a property that had no record. -/
theorem logicMathCreatePropertyFixed_moved (hfreeze : FreezeInv s) (hs : s.Sound tx.block) :
    WP (CMPTransaction.logicMathCreatePropertyFixed cfg tx s)
      (fun r => MovedOff tx.block s (fun p => (s.sps.getSP p).isSome) r.2) fun _ => True := by
  dsimp only [CMPTransaction.logicMathCreatePropertyFixed]
  split
  case h_2 => exact WP.pure (MovedOff.of_moved (Moved.refl hs))
  refine WP.ite_pure (MovedOff.of_moved (Moved.refl hs)) fun heco => ?_
  iterate 6 refine WP.ite_pure (MovedOff.of_moved (Moved.refl hs)) fun _ => ?_
  rw [show tx.ecosystem.toNat = omniPropertyWhc from (not_not.mp heco).symm]
  split
  · exact WP.throw_bind True.intro
  -- the new record, then the fee, the issuance and the notification
  refine WP.bind (wp_payCreateFee (Moved.of_sps hs _).sound _ _) fun s₁ h₁ => ?_
  refine WP.bind (wp_assertUpdateTallyMap h₁.sound _ _ _) fun s₂ h₂ => ?_
  refine WP.bind (wp_notifyTotalTokensChanged h₂.sound _ _) fun s₃ h₃ => ?_
  refine WP.pure ((MovedOff.of_moved ((Moved.of_sps hs _).trans_zero h₁)).trans_single h₂ ?_
    |>.trans_zero h₃)
  -- the new identifier is `nextSpid`, where no record was
  intro hnew
  rw [CMPSPInfo.putSP_fst, CMPSPInfo.peekNextSPID_whc, hfreeze.getSP_of_ge _ le_rfl] at hnew
  cases hnew

theorem logicMathCreatePropertyVariable_moved (hs : s.Sound tx.block) :
    WP (CMPTransaction.logicMathCreatePropertyVariable cfg tx s) (fun r => Moved tx.block s 0 r.2)
      fun _ => True := by
  dsimp only [CMPTransaction.logicMathCreatePropertyVariable]
  split
  case h_2 => exact WP.pure (Moved.refl hs)
  iterate 4 refine WP.ite_pure (Moved.refl hs) fun _ => ?_
  refine WP.ite_guard_pure (Moved.refl hs) ?_
  iterate 6 refine WP.ite_pure (Moved.refl hs) fun _ => ?_
  split
  · exact WP.throw_bind True.intro
  -- the new record, the fee, then the crowdsale
  refine WP.bind (wp_payCreateFee (Moved.of_sps hs _).sound _ _) fun s₁ h₁ => ?_
  refine WP.pure ?_
  split
  · exact (Moved.of_sps hs _).trans_zero h₁
  · exact ((Moved.of_sps hs _).trans_zero h₁).trans_zero (Moved.of_eq h₁.sound rfl rfl)

theorem logicMathCreatePropertyManaged_moved (hs : s.Sound tx.block) :
    WP (CMPTransaction.logicMathCreatePropertyManaged cfg tx s) (fun r => Moved tx.block s 0 r.2)
      fun _ => True := by
  dsimp only [CMPTransaction.logicMathCreatePropertyManaged]
  split
  case h_2 => exact WP.pure (Moved.refl hs)
  iterate 4 refine WP.ite_pure (Moved.refl hs) fun _ => ?_
  refine WP.ite_ite_pure (Moved.refl hs) (Moved.refl hs) ?_
  refine WP.ite_pure (Moved.refl hs) fun _ => ?_
  split
  · exact WP.throw_bind True.intro
  refine WP.bind (wp_payCreateFee (Moved.of_sps hs _).sound _ _) fun s₁ h₁ => ?_
  exact WP.pure ((Moved.of_sps hs _).trans_zero h₁)

/-- **A grant** adds its amount to its property, and only when it succeeds. -/
theorem logicMathGrantTokens_moved (hs : s.Sound tx.block) :
    WP (CMPTransaction.logicMathGrantTokens cfg tx s)
      (fun r => Moved tx.block s
        (if r.1 = 0 then Pi.single tx.property.toNat (tx.nValue.toNat : Int) else 0) r.2)
      fun _ => True := by
  dsimp only [CMPTransaction.logicMathGrantTokens]
  split
  case h_2 => exact WP.pure (Moved.refused hs (by decide) _)
  iterate 5 refine WP.ite_pure (Moved.refused hs (by decide) _) fun _ => ?_
  split
  case h_2 => exact WP.throw True.intro
  iterate 3 refine WP.ite_pure (Moved.refused hs (by decide) _) fun _ => ?_
  -- the record rewritten, the grant credited, the supply notified
  refine WP.bind (wp_assertUpdateTallyMap (Moved.of_sps hs _).sound _ _ _) fun s₁ h₁ => ?_
  refine WP.bind (wp_notifyTotalTokensChanged h₁.sound _ _) fun s₂ h₂ => ?_
  refine WP.pure (((Moved.of_sps hs _).trans h₁).trans h₂ |>.congr fun q => ?_)
  simp

/-- **A revocation** takes its amount from its property, and only when it succeeds. -/
theorem logicMathRevokeTokens_moved (hs : s.Sound tx.block) :
    WP (CMPTransaction.logicMathRevokeTokens cfg tx s)
      (fun r => Moved tx.block s
        (if r.1 = 0 then Pi.single tx.property.toNat (-(tx.nValue.toNat : Int)) else 0) r.2)
      fun _ => True := by
  dsimp only [CMPTransaction.logicMathRevokeTokens]
  split
  case h_2 => exact WP.pure (Moved.refused hs (by decide) _)
  iterate 4 refine WP.ite_pure (Moved.refused hs (by decide) _) fun _ => ?_
  split
  case h_2 => exact WP.throw True.intro
  iterate 3 refine WP.ite_pure (Moved.refused hs (by decide) _) fun _ => ?_
  -- the debit, the record rewritten, the supply notified
  refine WP.bind (wp_assertUpdateTallyMap hs _ _ _) fun s₁ h₁ => ?_
  refine WP.bind (wp_notifyTotalTokensChanged (Moved.of_sps h₁.sound _).sound _ _) fun s₂ h₂ => ?_
  refine WP.pure ((h₁.trans (Moved.of_sps h₁.sound _)).trans h₂ |>.congr fun q => ?_)
  simp

theorem logicMathChangeIssuer_moved (hs : s.Sound tx.block) :
    WP (CMPTransaction.logicMathChangeIssuer tx s) (fun r => Moved tx.block s 0 r.2)
      fun _ => True := by
  dsimp only [CMPTransaction.logicMathChangeIssuer]
  split
  case h_2 => exact WP.pure (Moved.refl hs)
  iterate 3 refine WP.ite_pure (Moved.refl hs) fun _ => ?_
  split
  case h_2 => exact WP.throw True.intro
  iterate 5 refine WP.ite_pure (Moved.refl hs) fun _ => ?_
  exact WP.pure (Moved.of_sps hs _)

theorem logicMathFreezeTokens_moved (hs : s.Sound tx.block) :
    WP (CMPTransaction.logicMathFreezeTokens tx s) (fun r => Moved tx.block s 0 r.2)
      fun _ => True := by
  dsimp only [CMPTransaction.logicMathFreezeTokens]
  refine WP.bind (WP.trivial _) fun r _ => ?_
  cases r with
  | some code => exact WP.pure (Moved.refl hs)
  | none => exact WP.pure (Moved.of_eq hs rfl rfl)

theorem logicMathUnfreezeTokens_moved (hs : s.Sound tx.block) :
    WP (CMPTransaction.logicMathUnfreezeTokens tx s) (fun r => Moved tx.block s 0 r.2)
      fun _ => True := by
  dsimp only [CMPTransaction.logicMathUnfreezeTokens]
  refine WP.bind (WP.trivial _) fun r _ => ?_
  cases r with
  | some code => exact WP.pure (Moved.refl hs)
  | none => exact WP.pure (Moved.of_eq hs rfl rfl)

/-- A burn of BCH is queued, to be credited at the end of a later block. -/
theorem logicMathBurnBCHGetWHC_moved (hs : s.Sound tx.block) :
    WP (CMPTransaction.logicMathBurnBCHGetWHC cfg tx s) (fun r => Moved tx.block s 0 r.2)
      fun _ => True := by
  dsimp only [CMPTransaction.logicMathBurnBCHGetWHC]
  split
  · split
    · exact WP.pure (Moved.refl hs)
    · split
      · exact WP.pure (Moved.of_eq hs rfl rfl)
      · exact WP.pure (Moved.refl hs)
  · exact WP.pure (Moved.refl hs)

/-! ## Crowdsales -/

/-- **No active crowdsale of `s` sells `p`.** -/
def NotSold (s : OmniState) (p : PropertyId) : Prop :=
  ∀ e ∈ s.crowds.entries, e.2.propertyId ≠ p

instance (s : OmniState) : DecidablePred (NotSold s) := fun _ =>
  inferInstanceAs (Decidable (∀ e ∈ _, _))

/-- The crowdsale of an address sells a property that is not `NotSold`. -/
theorem not_notSold {a : Address} {c : CMPCrowd} (hc : s.getCrowd a = some c) :
    ¬NotSold s c.propertyId := fun h =>
  h (a, c) (OrdMap.mem_of_find? hc) rfl

/-- **The close of a crowdsale** credits its missed tokens, of the property it sells. -/
theorem logicMathCloseCrowdsale_moved (hs : s.Sound tx.block) :
    WP (CMPTransaction.logicMathCloseCrowdsale tx s) (fun r => MovedOff tx.block s (NotSold s) r.2)
      fun _ => True := by
  dsimp only [CMPTransaction.logicMathCloseCrowdsale]
  split
  case h_2 => exact WP.pure (MovedOff.of_moved (Moved.refl hs))
  iterate 2 refine WP.ite_pure (MovedOff.of_moved (Moved.refl hs)) fun _ => ?_
  split
  case h_2 => exact WP.pure (MovedOff.of_moved (Moved.refl hs))
  rename_i crowd hcrowd
  refine WP.ite_pure (MovedOff.of_moved (Moved.refl hs)) fun hproperty => ?_
  split
  case h_2 => exact WP.throw True.intro
  refine WP.bind (WP.trivial _) fun missed _ => ?_
  -- the sender's crowdsale sells the closed property
  have hsold : ¬NotSold s tx.property.toNat := (not_not.mp hproperty) ▸ not_notSold hcrowd
  refine wp_creditPositive_bind (MovedOff.of_moved (Moved.of_sps hs _)) (fun _ => hsold)
    fun s₁ h₁ => ?_
  exact WP.pure (h₁.trans_zero (Moved.of_crowds h₁.sound _))

omit cfg in
theorem eraseMaxedCrowdsale_moved {block : Int} (hs : s.Sound block) (address : Address)
    (blockTime : Int) (blockHash : Uint256) :
    WP (s.eraseMaxedCrowdsale address blockTime blockHash) (Moved block s 0) fun _ => True := by
  unfold OmniState.eraseMaxedCrowdsale
  split
  · exact WP.pure (Moved.refl hs)
  · split
    · exact WP.throw True.intro
    · exact WP.pure (Moved.of_eq hs rfl rfl)

theorem buyTokenFinish_moved {S : PropertyId → Prop} {s₀ : OmniState} {crowd : CMPCrowd}
    {issuerTokens : Int} {closeCrowdsale : Bool} (h₀ : MovedOff tx.block s₀ S s)
    (hp : ¬S crowd.propertyId) :
    WP (CMPTransaction.buyTokenFinish cfg tx crowd issuerTokens closeCrowdsale s)
      (MovedOff tx.block s₀ S) fun _ => True := by
  dsimp only [CMPTransaction.buyTokenFinish]
  refine wp_creditPositive_bind h₀ (fun _ => hp) fun s₁ h₁ => ?_
  refine WP.bind (wp_notifyTotalTokensChanged h₁.sound _ _) fun s₂ h₂ => ?_
  split
  · split
    · exact WP.throw True.intro
    · exact (eraseMaxedCrowdsale_moved (h₁.trans_zero h₂).sound _ _ _).mono
        (fun s₃ h₃ => (h₁.trans_zero h₂).trans_zero h₃) fun _ h => h
  · exact WP.pure (h₁.trans_zero h₂)

/-- **A purchase** credits the tokens of the property the receiver's crowdsale sells; what the
buyer pays goes to the issuer. -/
theorem logicMathBuyToken_moved (hs : s.Sound tx.block) :
    WP (CMPTransaction.logicMathBuyToken cfg tx s) (fun r => MovedOff tx.block s (NotSold s) r.2)
      fun _ => True := by
  dsimp only [CMPTransaction.logicMathBuyToken]
  iterate 6 refine WP.ite_pure (MovedOff.of_moved (Moved.refl hs)) fun _ => ?_
  split
  case h_2 => exact WP.pure (MovedOff.of_moved (Moved.refl hs))
  rename_i crowd hcrowd
  refine WP.ite_pure (MovedOff.of_moved (Moved.refl hs)) fun _ => ?_
  split
  case h_2 => exact WP.throw True.intro
  refine WP.ite_pure (MovedOff.of_moved (Moved.refl hs)) fun _ => ?_
  refine WP.bind (WP.trivial _) fun ⟨userTokens, closeCrowdsale, refund⟩ _ => ?_
  refine WP.ite_pure (MovedOff.of_moved (Moved.refl hs)) fun _ => ?_
  -- the receiver's crowdsale sells the property credited, before and after its write-back
  have hsold' := (CMPCrowd.insertDatabase_keys ((crowd.incTokensUserCreated userTokens).incTokensIssuerCreated 0)
    tx.txid [tx.nValue.toNat - refund, tx.blockTime, userTokens, 0]).1 ▸ not_notSold hcrowd
  split
  · split
    · refine WP.bind (wp_assertUpdateTallyMap (Moved.of_crowds hs _).sound _ _ _) fun s₁ h₁ => ?_
      refine wp_move_bind h₁.sound _ _ _ _ fun s₃ h₃ => ?_
      refine WP.bind (buyTokenFinish_moved
        (((MovedOff.of_moved (Moved.of_crowds hs _)).trans_single h₁ hsold').trans_zero h₃) hsold')
        fun s₄ h₄ => ?_
      exact WP.pure h₄
    · exact WP.pure (MovedOff.of_moved (Moved.of_crowds hs _))
  · refine WP.bind (WP.pure (MovedOff.of_moved (S := NotSold s) (Moved.of_crowds hs _)))
      fun s₁ h₁ => ?_
    refine WP.bind (buyTokenFinish_moved h₁ hsold') fun s₂ h₂ => ?_
    exact WP.pure h₂

/-! ## ERC721: only the creation fee moves a balance -/

/-- A look-up of an ERC721 token loads the ERC721 caches only. -/
theorem Moved.existToken {block : Int} {t : OmniState} (h : Moved block s 0 t)
    (propertyID tokenID : Uint256) : Moved block s 0 (CMPTransaction.existToken t propertyID tokenID).2 := by
  refine h.trans_zero ?_
  dsimp only [CMPTransaction.existToken]
  repeat' split
  all_goals exact Moved.of_eq h.sound rfl rfl

theorem Moved.of_erc721sps {block : Int} (hs : s.Sound block) (erc721sps : CMPSPERC721Info) :
    Moved block s 0 { s with erc721sps := erc721sps } :=
  of_eq hs rfl rfl

theorem nextFreeTokenId_moved {block : Int} (propertyID : Uint256) :
    ∀ (fuel tmpTokenID : Nat) (s : OmniState), s.Sound block →
      WP (CMPTransaction.nextFreeTokenId propertyID fuel tmpTokenID s)
        (fun r => Moved block s 0 r.2.2) fun _ => True
  | 0, _, _, _ => WP.throw True.intro
  | fuel + 1, tmpTokenID, s, hs => by
    dsimp only [CMPTransaction.nextFreeTokenId]
    have hk := (Moved.refl hs).existToken propertyID tmpTokenID
    split
    · exact (nextFreeTokenId_moved propertyID fuel _ _ hk.sound).mono
        (fun r hr => hk.trans_zero hr) fun _ h => h
    · exact WP.pure hk

theorem logicMathErc721IssueProperty_moved (hs : s.Sound tx.block) :
    WP (CMPTransaction.logicMathErc721IssueProperty cfg tx s) (fun r => Moved tx.block s 0 r.2)
      fun _ => True := by
  dsimp only [CMPTransaction.logicMathErc721IssueProperty]
  split
  case h_2 => exact WP.pure (Moved.refl hs)
  iterate 4 refine WP.ite_pure (Moved.refl hs) fun _ => ?_
  -- the new ERC721 property, then the creation fee
  refine WP.bind (wp_payCreateFee (Moved.of_erc721sps hs _).sound _ _) fun s₁ h₁ => ?_
  exact WP.pure ((Moved.of_erc721sps hs _).trans_zero h₁)

theorem logicMathErc721IssueToken_moved (hs : s.Sound tx.block) :
    WP (CMPTransaction.logicMathErc721IssueToken cfg tx s) (fun r => Moved tx.block s 0 r.2)
      fun _ => True := by
  dsimp only [CMPTransaction.logicMathErc721IssueToken]
  split
  case h_2 => exact WP.pure (Moved.refl hs)
  refine WP.ite_pure (Moved.refl hs) fun _ => ?_
  split
  case h_2 => exact WP.pure (Moved.of_eq hs rfl rfl)
  -- from here on the state differs from the start in its ERC721 stores only
  iterate 3 refine WP.ite_pure (Moved.of_eq hs rfl rfl) fun _ => ?_
  split
  · refine WP.ite_pure ?_ fun _ => ?_
    · exact (Moved.of_erc721sps hs _).existToken _ _
    refine WP.bind (P := fun r : Nat × Option Nat × OmniState => Moved tx.block s 0 r.2.2) (WP.pure ?_) fun r hr => ?_
    · exact (Moved.of_erc721sps hs _).existToken _ _
    -- the token is written, then the property's counters
    exact WP.ite_pure (hr.trans_zero (Moved.of_eq hr.sound rfl rfl)) fun _ =>
      WP.pure (hr.trans_zero (Moved.of_eq hr.sound rfl rfl))
  · refine WP.bind (nextFreeTokenId_moved _ _ _ _ (Moved.of_erc721sps hs _).sound) fun r hr => ?_
    have hr' := (Moved.of_erc721sps hs _).trans_zero hr
    refine WP.bind (P := fun r : Nat × Option Nat × OmniState => Moved tx.block s 0 r.2.2) (WP.pure hr') fun r' hr'' => ?_
    exact WP.ite_pure (hr''.trans_zero (Moved.of_eq hr''.sound rfl rfl)) fun _ =>
      WP.pure (hr''.trans_zero (Moved.of_eq hr''.sound rfl rfl))

theorem logicMathErc721TransferToken_moved (hs : s.Sound tx.block) :
    WP (CMPTransaction.logicMathErc721TransferToken cfg tx s) (fun r => Moved tx.block s 0 r.2)
      fun _ => True := by
  dsimp only [CMPTransaction.logicMathErc721TransferToken]
  split
  case h_2 => exact WP.pure (Moved.refl hs)
  refine WP.ite_pure (Moved.refl hs) fun _ => ?_
  split
  case h_2 => exact WP.pure (Moved.of_eq hs rfl rfl)
  iterate 2 refine WP.ite_pure (Moved.of_eq hs rfl rfl) fun _ => ?_
  exact WP.pure (Moved.of_eq hs rfl rfl)

theorem logicMathErc721DestroyToken_moved (hs : s.Sound tx.block) :
    WP (CMPTransaction.logicMathErc721DestroyToken cfg tx s) (fun r => Moved tx.block s 0 r.2)
      fun _ => True := by
  dsimp only [CMPTransaction.logicMathErc721DestroyToken]
  split
  case h_2 => exact WP.pure (Moved.refl hs)
  refine WP.ite_pure (Moved.refl hs) fun _ => ?_
  split
  case h_2 => exact WP.pure (Moved.of_eq hs rfl rfl)
  split
  case h_2 => exact WP.pure (Moved.of_eq hs rfl rfl)
  refine WP.ite_pure (Moved.of_eq hs rfl rfl) fun _ => ?_
  exact WP.pure (Moved.of_eq hs rfl rfl)

theorem logicMathErc721_moved (hs : s.Sound tx.block) :
    WP (CMPTransaction.logicMathErc721 cfg tx s) (fun r => Moved tx.block s 0 r.2) fun _ => True := by
  unfold CMPTransaction.logicMathErc721
  split
  · exact logicMathErc721IssueProperty_moved hs
  split
  · exact logicMathErc721IssueToken_moved hs
  split
  · exact logicMathErc721TransferToken_moved hs
  split
  · exact logicMathErc721DestroyToken_moved hs
  · exact WP.pure (Moved.refl hs)

/-! ## A packet -/

/-- **What a packet issues**: a grant adds its amount to its property, a revocation takes it; no
other type issues anything. -/
def packetIssued (tx : CMPTransaction) : PropertyId → Int :=
  if tx.type.toNat = 55 then Pi.single tx.property.toNat (tx.nValue.toNat : Int)
  else if tx.type.toNat = 56 then Pi.single tx.property.toNat (-(tx.nValue.toNat : Int))
  else 0

theorem packetIssued_of_ne {tx : CMPTransaction} (h55 : tx.type.toNat ≠ 55) (h56 : tx.type.toNat ≠ 56) :
    packetIssued tx = 0 := by
  rw [packetIssued, if_neg h55, if_neg h56]

/-- A packet read back with another property, for a type that issues nothing. -/
theorem keeps_of_property {tx : CMPTransaction} (q : UInt32) (h55 : tx.type.toNat ≠ 55)
    (h56 : tx.type.toNat ≠ 56) :
    ({ tx with property := q } : CMPTransaction).block = tx.block ∧
      ({ tx with property := q } : CMPTransaction).type = tx.type ∧
      ({ tx with property := q } : CMPTransaction).version = tx.version ∧
      packetIssued { tx with property := q } = packetIssued tx :=
  ⟨rfl, rfl, rfl, by rw [@packetIssued_of_ne { tx with property := q } h55 h56, packetIssued_of_ne h55 h56]⟩

/-- The parsers keep what a packet issues: they rewrite the property of no grant or revocation. -/
theorem interpretTransaction_keeps {tx tx' : CMPTransaction} (h : tx.interpretTransaction = some tx') :
    tx'.block = tx.block ∧ tx'.type = tx.type ∧ tx'.version = tx.version ∧
      packetIssued tx' = packetIssued tx := by
  unfold CMPTransaction.interpretTransaction at h
  split at h
  · cases h
  split at h
  -- send-all, fixed and managed issuance, burns and ERC721 read back another property
  case h_10 | h_11 | h_12 | h_13 =>
    cases h
    exact keeps_of_property _ (by omega) (by omega)
  case h_15 =>
    split at h
    · cases h
      exact keeps_of_property _ (by omega) (by omega)
    · cases h
  case h_16 => cases h
  case h_14 =>
    split at h
    · cases h
    · cases h
      exact ⟨rfl, rfl, rfl, rfl⟩
  all_goals
    cases h
    exact ⟨rfl, rfl, rfl, rfl⟩

/-- **A settled property of `s`**: it has a record, and no active crowdsale sells it. -/
structure Settled (s : OmniState) (p : PropertyId) : Prop where
  recorded : (s.sps.getSP p).isSome
  notSold : NotSold s p

instance (s : OmniState) (p : PropertyId) : Decidable (Settled s p) :=
  decidable_of_iff ((s.sps.getSP p).isSome ∧ NotSold s p)
    ⟨fun h => ⟨h.1, h.2⟩, fun h => ⟨h.1, h.2⟩⟩

/-- **One packet's step of the ledger**: the supplies moved by some `d` that is, on every settled
property, what the packet issues when it succeeds and nothing when it is refused. -/
def LedgerStep (block : Int) (tx : CMPTransaction) (s : OmniState) (r : Int × OmniState) : Prop :=
  ∃ d, Moved block s d r.2 ∧ ∀ p, Settled s p → d p = if r.1 = 0 then packetIssued tx p else 0

namespace LedgerStep

variable {block : Int} {r : Int × OmniState}

theorem sound (h : LedgerStep block tx s r) : r.2.Sound block := by
  obtain ⟨d, hd, -⟩ := h
  exact hd.sound

theorem of_movedOff {S : PropertyId → Prop} (hS : ∀ p, Settled s p → S p)
    (hissued : packetIssued tx = 0) (h : MovedOff block s S r.2) : LedgerStep block tx s r := by
  obtain ⟨d, hd, hzero⟩ := h
  refine ⟨d, hd, fun p hp => ?_⟩
  rw [hzero p (hS p hp), hissued, Pi.zero_apply, ite_self]

theorem of_moved (hissued : packetIssued tx = 0) (h : Moved block s 0 r.2) : LedgerStep block tx s r :=
  of_movedOff (S := fun _ => True) (fun _ _ => trivial) hissued (MovedOff.of_moved h)

theorem of_issued (h : Moved block s (if r.1 = 0 then packetIssued tx else 0) r.2) :
    LedgerStep block tx s r :=
  ⟨_, h, fun p _ => by split <;> rfl⟩

/-- A refusal moves nothing. -/
theorem refused (hs : s.Sound block) {c : Int} (hc : c ≠ 0) : LedgerStep block tx s (c, s) :=
  ⟨0, Moved.refl hs, fun p _ => by rw [if_neg hc]; rfl⟩

theorem trans_zero {c : Int} {s₁ s₂ : OmniState} (h : LedgerStep block tx s (c, s₁))
    (h' : Moved block s₁ 0 s₂) : LedgerStep block tx s (c, s₂) := by
  obtain ⟨d, hd, hsettled⟩ := h
  refine ⟨d + 0, hd.trans h', fun p hp => ?_⟩
  rw [add_zero]
  exact hsettled p hp

/-- The step of a packet that issues what another does. -/
theorem congr_issued {tx' : CMPTransaction} (h : LedgerStep block tx' s r)
    (hissued : packetIssued tx' = packetIssued tx) : LedgerStep block tx s r := by
  obtain ⟨d, hd, hsettled⟩ := h
  exact ⟨d, hd, fun p hp => by rw [hsettled p hp, hissued]⟩

end LedgerStep

theorem wp_ledger_of_moved {x : Outcome} (hissued : packetIssued tx = 0)
    (h : WP x (fun r => Moved tx.block s 0 r.2) fun _ => True) :
    WP x (LedgerStep tx.block tx s) fun _ => True :=
  h.mono (fun _ hr => LedgerStep.of_moved hissued hr) fun _ h => h

theorem wp_ledger_of_movedOff {x : Outcome} {S : PropertyId → Prop} (hS : ∀ p, Settled s p → S p)
    (hissued : packetIssued tx = 0) (h : WP x (fun r => MovedOff tx.block s S r.2) fun _ => True) :
    WP x (LedgerStep tx.block tx s) fun _ => True :=
  h.mono (fun _ hr => LedgerStep.of_movedOff hS hissued hr) fun _ h => h

/-- **Every handler** moves the settled supplies by what the packet issues. -/
theorem logicMath_ledger (hfreeze : FreezeInv s) (hs : s.Sound tx.block)
    (hsto : tx.type.toNat = 3 → tx.version.toNat = mpTxPktV0) :
    WP (CMPTransaction.logicMath cfg tx s) (LedgerStep tx.block tx s) fun _ => True := by
  unfold CMPTransaction.logicMath
  split
  -- a grant and a revocation issue their amount
  case h_9 _ heq =>
    refine (logicMathGrantTokens_moved hs).mono (fun r hr => LedgerStep.of_issued ?_) fun _ h => h
    rwa [packetIssued, if_pos heq]
  case h_10 _ heq =>
    refine (logicMathRevokeTokens_moved hs).mono (fun r hr => LedgerStep.of_issued ?_) fun _ h => h
    rwa [packetIssued, if_neg (show tx.type.toNat ≠ 55 by omega), if_pos heq]
  -- no other type issues anything
  all_goals have hissued : packetIssued tx = 0 := packetIssued_of_ne (by omega) (by omega)
  case h_1 => exact wp_ledger_of_moved hissued (logicMathSimpleSend_moved hs)
  case h_2 => exact wp_ledger_of_movedOff (fun _ hp => hp.notSold) hissued (logicMathBuyToken_moved hs)
  case h_3 => exact wp_ledger_of_moved hissued (logicMathSendToOwners_moved hfreeze hs (hsto ‹_›))
  case h_4 => exact wp_ledger_of_moved hissued (logicMathSendAll_moved hs)
  case h_5 =>
    exact wp_ledger_of_movedOff (fun _ hp => hp.recorded) hissued
      (logicMathCreatePropertyFixed_moved hfreeze hs)
  case h_6 => exact wp_ledger_of_moved hissued (logicMathCreatePropertyVariable_moved hs)
  case h_7 =>
    exact wp_ledger_of_movedOff (fun _ hp => hp.notSold) hissued (logicMathCloseCrowdsale_moved hs)
  case h_8 => exact wp_ledger_of_moved hissued (logicMathCreatePropertyManaged_moved hs)
  case h_11 => exact wp_ledger_of_moved hissued (logicMathChangeIssuer_moved hs)
  case h_12 => exact wp_ledger_of_moved hissued (logicMathFreezeTokens_moved hs)
  case h_13 => exact wp_ledger_of_moved hissued (logicMathUnfreezeTokens_moved hs)
  case h_14 => exact wp_ledger_of_moved hissued (logicMathBurnBCHGetWHC_moved hs)
  case h_15 => exact wp_ledger_of_moved hissued (logicMathErc721_moved hs)
  case h_16 => exact WP.pure (LedgerStep.refused hs (by decide))

theorem interpretPacket_ledger (hfreeze : FreezeInv s) (hs : s.Sound tx.block)
    (hsto : tx.type.toNat = 3 → tx.version.toNat = mpTxPktV0) :
    WP (CMPTransaction.interpretPacket cfg tx s) (LedgerStep tx.block tx s) fun _ => True := by
  unfold CMPTransaction.interpretPacket
  split
  · exact WP.pure (LedgerStep.refused hs (by decide))
  rename_i tx' htx'
  -- the parsed packet is at the same block, of the same type, and issues the same
  obtain ⟨hblock, htype, hversion, hissued⟩ := interpretTransaction_keeps htx'
  have hs' : s.Sound tx'.block := by rwa [hblock]
  have hsto' : tx'.type.toNat = 3 → tx'.version.toNat = mpTxPktV0 := by rwa [htype, hversion]
  split
  · exact WP.pure (LedgerStep.refused hs (by decide))
  · refine (logicMath_ledger hfreeze hs' hsto').mono (fun r hr => ?_) fun _ h => h
    rw [hblock] at hr
    exact hr.congr_issued hissued

theorem mastercoreHandlerTx_ledger (hfreeze : FreezeInv s) (hs : s.Sound tx.block)
    (hsto : tx.type.toNat = 3 → tx.version.toNat = mpTxPktV0) :
    WP (mastercoreHandlerTx cfg tx s) (LedgerStep tx.block tx s) fun _ => True := by
  unfold mastercoreHandlerTx
  refine WP.bind (interpretPacket_ledger hfreeze hs hsto) fun r hr => ?_
  obtain ⟨code, s'⟩ := r
  dsimp only
  -- recording the transaction in `p_txlistdb` moves no supply
  split
  · exact WP.pure (hr.trans_zero (Moved.of_eq hr.sound rfl rfl))
  · exact WP.pure hr

end Handlers

/-- **The supply ledger of a packet.** From every state a node reaches processing blocks forward
that is sound at the packet's block, a packet (a send-to-owners of version `0`) keeps the state
sound, and moves the supply of every property that has a record and that no active crowdsale
sells by what it grants or revokes of it when it succeeds, and by nothing else. -/
theorem packet_supply_ledger {cfg : NodeConfig} {s : OmniState} (hs : Reachable cfg s)
    {tx : CMPTransaction} (hsound : s.Sound tx.block)
    (hsto : tx.type.toNat = 3 → tx.version.toNat = mpTxPktV0) {code : Int} {s' : OmniState}
    (h : mastercoreHandlerTx cfg tx s = .ok (code, s')) :
    s'.Sound tx.block ∧
      ∀ p, Settled s p → s'.supply p = s.supply p + if code = 0 then packetIssued tx p else 0 := by
  obtain ⟨d, hd, hsettled⟩ := WP.ok (mastercoreHandlerTx_ledger (FreezeInv.of_reachable hs) hsound hsto) h
  refine ⟨hd.sound, fun p hp => ?_⟩
  rw [hd.supply, hsettled p hp]

/-- Regtest blocks `101` and `102`: the issuer burns one BCH, then creates the managed property
`3`. -/
def managedIssued : List Block :=
  [⟨101, 101, 1000, [burnOneBch 1 "issuer"]⟩, ⟨102, 102, 1000, [managedProperty]⟩]

/-- The grant of `grantToHolder`, `100` tokens of property `3`, in block `103`. -/
def grantAt103 : CMPTransaction := (⟨103, 103, 1000, []⟩ : Block).place grantToHolder

/-- The issuer's grant succeeds, and the supply of the settled property `3` rises by `100`. -/
theorem managed_grant_supply_ledger :
    ∃ s s', Reachable regtest s ∧ mastercoreHandlerTx regtest grantAt103 s = .ok (0, s') ∧
      s'.Sound grantAt103.block ∧ Settled s 3 ∧ s'.supply 3 = s.supply 3 + 100 := by
  obtain ⟨s, s', hs, hok, hh⟩ := Reachable.exists_of_runChain_code regtest managedIssued
    (mastercoreHandlerTx regtest grantAt103) 0
    (fun s => decide (Settled s 3 ∧ (∀ e ∈ s.tally.entries, ∀ r ∈ e.2.mpToken.entries, e.2.InRange r.1) ∧
        s.feeCache.db.entries.isEmpty = true)) (by decide)
  obtain ⟨hsettled, htally, hcache⟩ := of_decide_eq_true hok
  -- the run left every counter in range and no fee in the cache
  have hsound : s.Sound grantAt103.block := by
    refine OmniState.Sound.of_entries htally fun h hh => ?_
    rw [List.isEmpty_iff.1 hcache] at hh
    cases hh
  obtain ⟨hsound', hsupply⟩ := packet_supply_ledger hs hsound (by decide) hh
  refine ⟨s, s', hs, hh, hsound', hsettled, ?_⟩
  rw [hsupply 3 hsettled, if_pos rfl]
  simp [packetIssued, grantAt103, grantToHolder, Block.place]

end WormholeCore
