/-
# `WormholeCore.CrowdSafety` — an active crowdsale always has its property's record.

Four places look up the record of an active crowdsale's property and ASSERT that it is there:
`logicMath_BuyToken`, `logicMath_CloseCrowdsale`, `eraseMaxedCrowdsale` and
`eraseExpiredCrowdsale`. Nothing checks it where a crowdsale is stored; it holds because of how
the handlers are spread over the code:

* `CreatePropertyVariable` stores the crowdsale right after the record, under the sender, who is
  the record's issuer, with a record that is neither fixed nor managed;
* a purchase stores the crowdsale again under the address it was found at, with its property;
* no record is ever removed, and every rewrite of a record keeps its issuer and its two flags, but
  `ChangeIssuer`, which refuses a sender that has a crowdsale, so that no crowdsale's record is
  rewritten there.

`CrowdInv` is the invariant; it also says what a crowdsale sells for (WHC). Each handler is walked
with the rules of `Lib.Guarded`, as in `Freeze`, for any one of the four messages: a successful run
keeps every record and the invariant (`CrowdKept`), and no run fails one of the four asserts.

## What is proved here

* `CrowdInv.of_reachable` — the invariant holds in every reachable state;
* `crowdsale_records_never_missing` — in every reachable state, neither a packet nor the crowdsale
  expiry of a block's beginning fails one of the four asserts, with
  `crowdsale_open_records_safe`, a reachable state with an open crowdsale.
-/
import WormholeCore.Freeze

namespace WormholeCore

open Lib Lib.Except

/-- The four asserts on the record of an active crowdsale's property, as the handlers throw them. -/
def crowdAsserts : List String :=
  ["logicMath_BuyToken: assert(_my_sps->getSP(pcrowdsale->getPropertyId(), sp))",
    "logicMath_CloseCrowdsale: assert(_my_sps->getSP(property, sp))",
    "eraseMaxedCrowdsale: assert(_my_sps->getSP(crowdsale.getPropertyId(), sp))",
    "eraseExpiredCrowdsale: assert(_my_sps->getSP(crowdsale.getPropertyId(), sp))"]

/-! ## The invariant -/

/-- The record a crowdsale of `a` sells: issued by `a`, neither fixed nor managed, so that
`getSaledTokens` counts it as a crowdsale. -/
def CrowdRecord (a : Address) (e : CMPSPInfo.Entry) : Prop :=
  e.issuer = a ∧ e.fixed = false ∧ e.manual = false

/-- **The invariant behind the crowdsale asserts.** -/
structure CrowdInv (s : OmniState) : Prop where
  /-- The property of the crowdsale of `a` has a record, issued by `a`, of a crowdsale. -/
  crowd_record : ∀ a c, s.crowds.find? a = some c →
    ∃ e, s.sps.getSP c.propertyId = some e ∧ CrowdRecord a e
  /-- A crowdsale sells its property for WHC. -/
  desired_whc : ∀ a c, s.crowds.find? a = some c → c.propertyDesired = omniPropertyWhc

namespace CrowdInv

variable {s s' : OmniState}

theorem congr (hinv : CrowdInv s) (hsps : s'.sps = s.sps) (hcrowds : s'.crowds = s.crowds) :
    CrowdInv s' := by
  obtain ⟨h₁, h₂⟩ := hinv
  rw [← hsps, ← hcrowds] at *
  exact ⟨h₁, h₂⟩

/-- No crowdsale at all. -/
theorem of_empty (h : s.crowds = OrdMap.empty) : CrowdInv s where
  crowd_record a c hc := by
    rw [h, OrdMap.find?_empty] at hc
    cases hc
  desired_whc a c hc := by
    rw [h, OrdMap.find?_empty] at hc
    cases hc

/-- The property of an active crowdsale has a record. -/
theorem getSP_isSome (hinv : CrowdInv s) {a : Address} {c : CMPCrowd} (hc : s.crowds.find? a = some c) :
    (s.sps.getSP c.propertyId).isSome := by
  obtain ⟨e, he, -⟩ := hinv.crowd_record a c hc
  rw [he]
  rfl

/-- **The lookup the four asserts make** finds the record. -/
theorem getSP_ne_none (hinv : CrowdInv s) {a : Address} {c : CMPCrowd} (hc : s.crowds.find? a = some c) :
    s.sps.getSP c.propertyId ≠ none :=
  Option.isSome_iff_ne_none.mp (hinv.getSP_isSome hc)

/-- **A record rewritten in place**: the invariant holds when a record of a crowdsale's kind stays
one for the same issuer. -/
theorem updateSP (hinv : CrowdInv s) {p : PropertyId} {e' : CMPSPInfo.Entry}
    (hkeep : ∀ e, s.sps.getSP p = some e → ∀ a, CrowdRecord a e → CrowdRecord a e') :
    CrowdInv { s with sps := s.sps.updateSP p e' } where
  crowd_record a c hc := by
    obtain ⟨e, he, hrec⟩ := hinv.crowd_record a c hc
    by_cases hp : p = c.propertyId
    · subst hp
      exact ⟨e', by simp, hkeep e he a hrec⟩
    · exact ⟨e, by simpa [hp] using he, hrec⟩
  desired_whc := hinv.desired_whc

/-- **A record no crowdsale sells**, rewritten in any way. -/
theorem updateSP_of_not_crowd (hinv : CrowdInv s) {p : PropertyId} (e' : CMPSPInfo.Entry)
    (hnot : ∀ a c, s.crowds.find? a = some c → c.propertyId ≠ p) :
    CrowdInv { s with sps := s.sps.updateSP p e' } where
  crowd_record a c hc := by
    obtain ⟨e, he, hrec⟩ := hinv.crowd_record a c hc
    have hp : p ≠ c.propertyId := (hnot a c hc).symm
    exact ⟨e, by simpa [hp] using he, hrec⟩
  desired_whc := hinv.desired_whc

/-- **A new main-ecosystem record**, at `nextSpid`, where no record was: no crowdsale sells it. -/
theorem putSP (hinv : CrowdInv s) (hfreeze : FreezeInv s) (e : CMPSPInfo.Entry) :
    CrowdInv { s with sps := (s.sps.putSP omniPropertyWhc e).2 } where
  crowd_record a c hc := by
    obtain ⟨e₀, he₀, hrec⟩ := hinv.crowd_record a c hc
    have hp : s.sps.peekNextSPID omniPropertyWhc ≠ c.propertyId := by
      intro hp
      rw [← hp, CMPSPInfo.peekNextSPID_whc, hfreeze.getSP_of_ge _ le_rfl] at he₀
      cases he₀
    exact ⟨e₀, by simpa [hp] using he₀, hrec⟩
  desired_whc := hinv.desired_whc

/-- A crowdsale dropped. -/
theorem erase (hinv : CrowdInv s) (a : Address) : CrowdInv { s with crowds := s.crowds.erase a } where
  crowd_record a' c hc := by
    by_cases ha : a = a'
    · simp [ha] at hc
    · exact hinv.crowd_record a' c (by simpa [ha] using hc)
  desired_whc a' c hc := by
    by_cases ha : a = a'
    · simp [ha] at hc
    · exact hinv.desired_whc a' c (by simpa [ha] using hc)

/-- **A crowdsale stored** under the issuer of its property's record, selling for WHC. -/
theorem insert (hinv : CrowdInv s) {a : Address} {c : CMPCrowd}
    (hrec : ∃ e, s.sps.getSP c.propertyId = some e ∧ CrowdRecord a e)
    (hdesired : c.propertyDesired = omniPropertyWhc) :
    CrowdInv { s with crowds := s.crowds.insert a c } where
  crowd_record a' c' hc := by
    by_cases ha : a = a'
    · subst ha
      rw [OrdMap.find?_insert_self, Option.some.injEq] at hc
      exact hc ▸ hrec
    · exact hinv.crowd_record a' c' (by simpa [ha] using hc)
  desired_whc a' c' hc := by
    by_cases ha : a = a'
    · subst ha
      rw [OrdMap.find?_insert_self, Option.some.injEq] at hc
      exact hc ▸ hdesired
    · exact hinv.desired_whc a' c' (by simpa [ha] using hc)

end CrowdInv

/-- **A step of a handler, as the crowdsales see it**: every record is still there, and the
invariant is kept. -/
structure CrowdKept (s s' : OmniState) : Prop where
  records : ∀ p, (s.sps.getSP p).isSome → (s'.sps.getSP p).isSome
  inv : CrowdInv s → CrowdInv s'

instance : Std.Refl CrowdKept := ⟨fun _ => ⟨fun _ h => h, id⟩⟩

instance : IsTrans OmniState CrowdKept :=
  ⟨fun _ _ _ h₁ h₂ => ⟨fun p h => h₂.records p (h₁.records p h), h₂.inv ∘ h₁.inv⟩⟩

namespace CrowdKept

variable {s s' : OmniState}

theorem trans {s₁ s₂ s₃ : OmniState} (h₁ : CrowdKept s₁ s₂) (h₂ : CrowdKept s₂ s₃) :
    CrowdKept s₁ s₃ :=
  IsTrans.trans _ _ _ h₁ h₂

/-- A change of the fields the invariant does not read. -/
theorem of_eq (hsps : s'.sps = s.sps) (hcrowds : s'.crowds = s.crowds) : CrowdKept s s' :=
  ⟨fun _ h => hsps ▸ h, fun hinv => hinv.congr hsps hcrowds⟩

/-- A change of the tally and the fee cache alone. -/
theorem of_stores (h : s'.stores = s.stores) : CrowdKept s s' :=
  of_eq (congrArg (fun t => t.2.1) h) (congrArg (fun t => t.2.2.1) h)

/-- A rewrite of a record leaves a record there. -/
theorem records_updateSP {p : PropertyId} {e' : CMPSPInfo.Entry} (q : PropertyId)
    (hq : (s.sps.getSP q).isSome) : ((s.sps.updateSP p e').getSP q).isSome := by
  rw [CMPSPInfo.getSP_updateSP]
  split
  · rfl
  · exact hq

/-- A record rewritten in place, of a crowdsale's kind for the same issuer whenever it was one. -/
theorem updateSP {p : PropertyId} {e' : CMPSPInfo.Entry}
    (hkeep : ∀ e, s.sps.getSP p = some e → ∀ a, CrowdRecord a e → CrowdRecord a e') :
    CrowdKept s { s with sps := s.sps.updateSP p e' } :=
  ⟨records_updateSP, fun hinv => hinv.updateSP hkeep⟩

/-- The record found, rewritten with the fields the invariant reads. -/
theorem updateSP_same {p : PropertyId} {e e' : CMPSPInfo.Entry} (he : s.sps.getSP p = some e)
    (hkeep : ∀ a, CrowdRecord a e → CrowdRecord a e') :
    CrowdKept s { s with sps := s.sps.updateSP p e' } :=
  updateSP fun e₀ he₀ => by
    rw [he, Option.some.injEq] at he₀
    exact he₀ ▸ hkeep

/-- A record that no crowdsale of a state of the invariant sells, rewritten in any way. -/
theorem updateSP_of_not_crowd {p : PropertyId} (e' : CMPSPInfo.Entry)
    (hnot : CrowdInv s → ∀ a c, s.crowds.find? a = some c → c.propertyId ≠ p) :
    CrowdKept s { s with sps := s.sps.updateSP p e' } :=
  ⟨records_updateSP, fun hinv => hinv.updateSP_of_not_crowd e' (hnot hinv)⟩

/-- A new main-ecosystem record, in a store whose counters are right. -/
theorem putSP (hfreeze : FreezeInv s) (e : CMPSPInfo.Entry) :
    CrowdKept s { s with sps := (s.sps.putSP omniPropertyWhc e).2 } := by
  refine ⟨fun q hq => ?_, fun hinv => hinv.putSP hfreeze e⟩
  rw [CMPSPInfo.getSP_putSP]
  split
  · rfl
  · exact hq

theorem erase (s : OmniState) (a : Address) : CrowdKept s { s with crowds := s.crowds.erase a } :=
  ⟨fun _ h => h, fun hinv => hinv.erase a⟩

/-- A new crowdsale, under the issuer of its property's record, selling for WHC. -/
theorem insert {a : Address} {c : CMPCrowd}
    (hrec : ∃ e, s.sps.getSP c.propertyId = some e ∧ CrowdRecord a e)
    (hdesired : c.propertyDesired = omniPropertyWhc) :
    CrowdKept s { s with crowds := s.crowds.insert a c } :=
  ⟨fun _ h => h, fun hinv => hinv.insert hrec hdesired⟩

/-- **A crowdsale stored again** under its address, with its property and what it sells for. -/
theorem insert_same {a : Address} {c c' : CMPCrowd} (hc : s.crowds.find? a = some c)
    (hp : c'.propertyId = c.propertyId) (hd : c'.propertyDesired = c.propertyDesired) :
    CrowdKept s { s with crowds := s.crowds.insert a c' } :=
  ⟨fun _ h => h, fun hinv =>
    hinv.insert (hp ▸ hinv.crowd_record a c hc) (hd.trans (hinv.desired_whc a c hc))⟩

end CrowdKept

/-- What a purchase writes back keeps the crowdsale's property and what it sells for. -/
theorem CMPCrowd.insertDatabase_keys (c : CMPCrowd) (txHash : Uint256) (txData : List Int) :
    (c.insertDatabase txHash txData).propertyId = c.propertyId ∧
      (c.insertDatabase txHash txData).propertyDesired = c.propertyDesired := by
  unfold CMPCrowd.insertDatabase
  split <;> exact ⟨rfl, rfl⟩

/-- **What a purchase writes back**: the crowdsale found, with its counters and its participation
record moved, under the same address. -/
theorem CrowdKept.insert_purchase {s : OmniState} {a : Address} {c : CMPCrowd}
    (hc : s.crowds.find? a = some c) (userTokens issuerTokens : Int) (txHash : Uint256)
    (txData : List Int) :
    CrowdKept s
      { s with
        crowds := s.crowds.insert a
          (((c.incTokensUserCreated userTokens).incTokensIssuerCreated issuerTokens).insertDatabase
            txHash txData) } :=
  CrowdKept.insert_same hc (CMPCrowd.insertDatabase_keys _ txHash txData).1
    (CMPCrowd.insertDatabase_keys _ txHash txData).2

/-- The ERC721 stores are not read by the invariant. -/
theorem CrowdKept.existToken {s t : OmniState} (h : CrowdKept s t) (propertyID tokenID : Uint256) :
    CrowdKept s (CMPTransaction.existToken t propertyID tokenID).2 := by
  refine h.trans ?_
  dsimp only [CMPTransaction.existToken]
  -- every branch changes the ERC721 stores only
  repeat' split
  all_goals exact CrowdKept.of_eq rfl rfl

/-! ## The walks

Each lemma holds for any one of the four messages, `bad`. -/

section Walk

variable {bad : String} (hbad : bad ∈ crowdAsserts)
include hbad

/-- A message that is not one of the four is not `bad`. -/
theorem ne_crowdAssert {m : String} (hm : m ∉ crowdAsserts) : m ≠ bad :=
  fun h => hm (h ▸ hbad)

/-- A list of messages none of which is one of the four does not hold `bad`. -/
theorem crowdAssert_not_mem {L : List String} (hL : ∀ m ∈ crowdAsserts, m ∉ L) : bad ∉ L :=
  hL bad hbad

/-! ### The tally and fee operations -/

theorem assertUpdateTallyMap_crowdKept (s : OmniState) (who : Address) (p : PropertyId) (a : Int) :
    Guarded CrowdKept bad id s (s.assertUpdateTallyMap who p a) :=
  Guarded.of_ok_of_ne (fun _ hs' => CrowdKept.of_stores (OmniState.assertUpdateTallyMap_frame hs').1)
    ((OmniState.errorsIn_assertUpdateTallyMap s who p a).ne_error (crowdAssert_not_mem hbad (by decide)))

theorem notifyTotalTokensChanged_crowdKept (debug : Bool) (s : OmniState) (p : PropertyId)
    (block : Int) :
    Guarded CrowdKept bad id s (s.notifyTotalTokensChanged debug p block) :=
  Guarded.of_ok_of_ne (fun _ hs' => CrowdKept.of_stores (OmniState.notifyTotalTokensChanged_ok hs').1)
    ((OmniState.errorsIn_notifyTotalTokensChanged debug s p block).ne_error
      (crowdAssert_not_mem hbad (by decide)))

theorem addFee_crowdKept (debug : Bool) (s : OmniState) (p : PropertyId) (block amount : Int) :
    Guarded CrowdKept bad id s (s.addFee debug p block amount) :=
  Guarded.of_ok_of_ne (fun _ hs' => CrowdKept.of_stores (OmniState.addFee_ok hs').1)
    ((OmniState.errorsIn_addFee debug s p block amount).ne_error (crowdAssert_not_mem hbad (by decide)))

theorem payCreateFee_crowdKept (cfg : NodeConfig) (a : Address) (s : OmniState) :
    Guarded CrowdKept bad id s (CMPTransaction.payCreateFee cfg a s) := by
  unfold CMPTransaction.payCreateFee
  refine Guarded.bind (assertUpdateTallyMap_crowdKept hbad _ _ _ _) fun s₁ _ _ => ?_
  exact assertUpdateTallyMap_crowdKept hbad _ _ _ _

/-- The credit of a positive amount, or nothing, then the rest. -/
theorem creditPositive_bind_crowdKept {β : Type} {st : β → OmniState} {s : OmniState} {who : Address}
    {p : PropertyId} {m : Int} {k : OmniState → Except String β}
    (hk : ∀ s₁, CrowdKept s s₁ → Guarded CrowdKept bad st s₁ (k s₁)) :
    Guarded CrowdKept bad st s
      (if 0 < m then s.assertUpdateTallyMap who p m >>= k else pure s >>= k) := by
  split
  · exact Guarded.bind (assertUpdateTallyMap_crowdKept hbad _ _ _ _) fun s₁ _ h₁ => hk s₁ h₁
  · exact Guarded.pure_bind id (Std.Refl.refl _) fun s₁ _ h₁ => hk s₁ h₁

/-! ### Sends -/

theorem logicMathSimpleSend_crowdKept (tx : CMPTransaction) (s : OmniState) :
    Guarded CrowdKept bad Prod.snd s (CMPTransaction.logicMathSimpleSend tx s) := by
  dsimp only [CMPTransaction.logicMathSimpleSend]
  -- six refusals, each with the state unchanged
  iterate 6 refine Guarded.ite_pure rfl fun _ => ?_
  refine Guarded.bind (assertUpdateTallyMap_crowdKept hbad _ _ _ _) fun s₁ _ _ => ?_
  refine Guarded.bind (assertUpdateTallyMap_crowdKept hbad _ _ _ _) fun s₂ _ _ => ?_
  exact Guarded.pure (Std.Refl.refl _)

theorem stoPay_crowdKept (property : PropertyId) (sender : Address) (acc : OmniState × Int)
    (r : Int × Address) :
    Guarded CrowdKept bad Prod.fst acc.1 (CMPTransaction.stoPay property sender acc r) := by
  unfold CMPTransaction.stoPay
  refine Guarded.bind (assertUpdateTallyMap_crowdKept hbad _ _ _ _) fun s₁ _ _ => ?_
  refine Guarded.bind (assertUpdateTallyMap_crowdKept hbad _ _ _ _) fun s₂ _ _ => ?_
  exact Guarded.pure (Std.Refl.refl _)

theorem logicMathSendToOwners_crowdKept (cfg : NodeConfig) (tx : CMPTransaction) (s : OmniState) :
    Guarded CrowdKept bad Prod.snd s (CMPTransaction.logicMathSendToOwners cfg tx s) := by
  dsimp only [CMPTransaction.logicMathSendToOwners]
  iterate 6 refine Guarded.ite_pure rfl fun _ => ?_
  refine Guarded.bind_const (L := stoErrors) (fun e he => stoGetReceivers_error he)
    (crowdAssert_not_mem hbad (by decide)) fun receivers _ => ?_
  refine Guarded.ite_pure rfl fun _ => ?_
  refine Guarded.ite_ite_pure rfl rfl ?_
  refine Guarded.bind (assertUpdateTallyMap_crowdKept hbad _ _ _ _) fun s₁ _ _ => ?_
  refine Guarded.bind (assertUpdateTallyMap_crowdKept hbad _ _ _ _) fun s₂ _ _ => ?_
  -- version `0` burns the fee, version `1` also caches it
  split
  all_goals first
    | refine Guarded.pure_bind id (Std.Refl.refl _) fun s₃ _ _ => ?_
    | refine Guarded.bind (addFee_crowdKept hbad _ _ _ _ _) fun s₃ _ _ => ?_
  all_goals
    refine Guarded.bind (Guarded.foldlM_fst _ receivers s₃ 0
      fun b _ r _ => stoPay_crowdKept hbad _ _ b r) fun paid _ _ => ?_
  -- the assert on the amount paid, then the notification of version `0`
  all_goals split
  all_goals try exact Guarded.throw_bind (ne_crowdAssert hbad (by decide))
  all_goals first
    | refine Guarded.bind (notifyTotalTokensChanged_crowdKept hbad _ _ _ _) fun s₄ _ _ => ?_
    | refine Guarded.pure_bind id (Std.Refl.refl _) fun s₄ _ _ => ?_
  all_goals exact Guarded.pure (Std.Refl.refl _)

theorem sendAllStep_crowdKept (sender receiver : Address) (ecosystem : Nat) (acc : OmniState × Nat)
    (propertyId : PropertyId) :
    Guarded CrowdKept bad Prod.fst acc.1
      (CMPTransaction.sendAllStep sender receiver ecosystem acc propertyId) := by
  obtain ⟨s, n⟩ := acc
  dsimp only [CMPTransaction.sendAllStep]
  iterate 4 refine Guarded.ite_pure rfl fun _ => ?_
  split
  · refine Guarded.bind (assertUpdateTallyMap_crowdKept hbad _ _ _ _) fun s₁ _ _ => ?_
    refine Guarded.bind (assertUpdateTallyMap_crowdKept hbad _ _ _ _) fun s₂ _ _ => ?_
    exact Guarded.pure (Std.Refl.refl _)
  · exact Guarded.pure (Std.Refl.refl _)

theorem logicMathSendAll_crowdKept (tx : CMPTransaction) (s : OmniState) :
    Guarded CrowdKept bad Prod.snd s (CMPTransaction.logicMathSendAll tx s) := by
  dsimp only [CMPTransaction.logicMathSendAll]
  iterate 2 refine Guarded.ite_pure rfl fun _ => ?_
  split
  · refine Guarded.bind (Guarded.foldlM_fst _ _ s 0
      fun b _ p _ => sendAllStep_crowdKept hbad _ _ _ b p) fun r _ _ => ?_
    refine Guarded.ite_pure rfl fun _ => ?_
    exact Guarded.pure (Std.Refl.refl _)
  · exact Guarded.pure (Std.Refl.refl _)

/-! ### Smart properties -/

theorem logicMathCreatePropertyFixed_crowdKept {cfg : NodeConfig} {tx : CMPTransaction}
    {s : OmniState} (hfreeze : FreezeInv s) :
    Guarded CrowdKept bad Prod.snd s (CMPTransaction.logicMathCreatePropertyFixed cfg tx s) := by
  dsimp only [CMPTransaction.logicMathCreatePropertyFixed]
  split
  case h_2 => exact Guarded.pure (Std.Refl.refl _)
  refine Guarded.ite_pure rfl fun heco => ?_
  iterate 6 refine Guarded.ite_pure rfl fun _ => ?_
  rw [show tx.ecosystem.toNat = omniPropertyWhc from (not_not.mp heco).symm]
  split
  · exact Guarded.throw_bind (ne_crowdAssert hbad (by decide))
  -- the new record, then the fee, the issuance and the notification
  refine Guarded.bind (Guarded.of_rel (CrowdKept.putSP hfreeze _) (payCreateFee_crowdKept hbad _ _ _))
    fun s₁ _ _ => ?_
  refine Guarded.bind (assertUpdateTallyMap_crowdKept hbad _ _ _ _) fun s₂ _ _ => ?_
  refine Guarded.bind (notifyTotalTokensChanged_crowdKept hbad _ _ _ _) fun s₃ _ _ => ?_
  exact Guarded.pure (Std.Refl.refl _)

theorem logicMathCreatePropertyVariable_crowdKept {cfg : NodeConfig} {tx : CMPTransaction}
    {s : OmniState} (hfreeze : FreezeInv s) :
    Guarded CrowdKept bad Prod.snd s (CMPTransaction.logicMathCreatePropertyVariable cfg tx s) := by
  dsimp only [CMPTransaction.logicMathCreatePropertyVariable]
  split
  case h_2 => exact Guarded.pure (Std.Refl.refl _)
  refine Guarded.ite_pure rfl fun heco => ?_
  iterate 3 refine Guarded.ite_pure rfl fun _ => ?_
  refine Guarded.ite_guard_pure rfl ?_
  iterate 6 refine Guarded.ite_pure rfl fun _ => ?_
  rw [show tx.ecosystem.toNat = omniPropertyWhc from (not_not.mp heco).symm]
  split
  · exact Guarded.throw_bind (ne_crowdAssert hbad (by decide))
  refine Guarded.bind (Guarded.of_rel (CrowdKept.putSP hfreeze _) (payCreateFee_crowdKept hbad _ _ _))
    fun s₁ hs₁ _ => ?_
  -- the crowdsale is stored under the sender, the issuer of the new record
  have hsps : s₁.sps = (s.sps.putSP omniPropertyWhc _).2 :=
    congrArg (fun t => t.2.1) (CMPTransaction.payCreateFee_ok hs₁).1.1
  refine Guarded.pure ?_
  split
  · exact Std.Refl.refl _
  · refine CrowdKept.insert ?_ rfl
    -- the crowdsale's property is the identifier `putSP` took
    simp only [id_eq, hsps, CMPSPInfo.getSP_putSP, CMPSPInfo.putSP_fst, if_true]
    exact ⟨_, rfl, rfl, rfl, rfl⟩

theorem logicMathCreatePropertyManaged_crowdKept {cfg : NodeConfig} {tx : CMPTransaction}
    {s : OmniState} (hfreeze : FreezeInv s) :
    Guarded CrowdKept bad Prod.snd s (CMPTransaction.logicMathCreatePropertyManaged cfg tx s) := by
  dsimp only [CMPTransaction.logicMathCreatePropertyManaged]
  split
  case h_2 => exact Guarded.pure (Std.Refl.refl _)
  refine Guarded.ite_pure rfl fun heco => ?_
  iterate 3 refine Guarded.ite_pure rfl fun _ => ?_
  refine Guarded.ite_ite_pure rfl rfl ?_
  refine Guarded.ite_pure rfl fun _ => ?_
  rw [show tx.ecosystem.toNat = omniPropertyWhc from (not_not.mp heco).symm]
  split
  · exact Guarded.throw_bind (ne_crowdAssert hbad (by decide))
  refine Guarded.bind (Guarded.of_rel (CrowdKept.putSP hfreeze _) (payCreateFee_crowdKept hbad _ _ _))
    fun s₁ _ _ => ?_
  exact Guarded.pure (Std.Refl.refl _)

theorem logicMathGrantTokens_crowdKept {cfg : NodeConfig} {tx : CMPTransaction} {s : OmniState} :
    Guarded CrowdKept bad Prod.snd s (CMPTransaction.logicMathGrantTokens cfg tx s) := by
  dsimp only [CMPTransaction.logicMathGrantTokens]
  split
  case h_2 => exact Guarded.pure (Std.Refl.refl _)
  iterate 5 refine Guarded.ite_pure rfl fun _ => ?_
  split
  case h_2 => exact Guarded.throw (ne_crowdAssert hbad (by decide))
  rename_i sp hsp
  iterate 3 refine Guarded.ite_pure rfl fun _ => ?_
  -- the record keeps its issuer and its kind; the grant is credited, then the supply notified
  refine Guarded.bind (Guarded.of_rel (by exact CrowdKept.updateSP_same hsp fun _ h => h)
    (assertUpdateTallyMap_crowdKept hbad _ _ _ _)) fun s₁ _ _ => ?_
  refine Guarded.bind (notifyTotalTokensChanged_crowdKept hbad _ _ _ _) fun s₂ _ _ => ?_
  exact Guarded.pure (Std.Refl.refl _)

theorem logicMathRevokeTokens_crowdKept {cfg : NodeConfig} {tx : CMPTransaction} {s : OmniState} :
    Guarded CrowdKept bad Prod.snd s (CMPTransaction.logicMathRevokeTokens cfg tx s) := by
  dsimp only [CMPTransaction.logicMathRevokeTokens]
  split
  case h_2 => exact Guarded.pure (Std.Refl.refl _)
  iterate 4 refine Guarded.ite_pure rfl fun _ => ?_
  split
  case h_2 => exact Guarded.throw (ne_crowdAssert hbad (by decide))
  rename_i sp hsp
  iterate 3 refine Guarded.ite_pure rfl fun _ => ?_
  -- the debit, then the record rewritten with its issuer and its kind
  refine Guarded.bind (assertUpdateTallyMap_crowdKept hbad _ _ _ _) fun s₁ hs₁ _ => ?_
  have hsps : s₁.sps = s.sps := congrArg (fun t => t.2.1) (OmniState.assertUpdateTallyMap_frame hs₁).1
  have hsp₁ : s₁.sps.getSP tx.property.toNat = some sp := hsps ▸ hsp
  refine Guarded.bind (Guarded.of_rel (by exact CrowdKept.updateSP_same hsp₁ fun _ h => h)
    (notifyTotalTokensChanged_crowdKept hbad _ _ _ _)) fun s₂ _ _ => ?_
  exact Guarded.pure (Std.Refl.refl _)

/-- **A new issuer**: the sender, the issuer, has no crowdsale, so no crowdsale sells the
property. -/
theorem logicMathChangeIssuer_crowdKept {tx : CMPTransaction} {s : OmniState} :
    Guarded CrowdKept bad Prod.snd s (CMPTransaction.logicMathChangeIssuer tx s) := by
  dsimp only [CMPTransaction.logicMathChangeIssuer]
  split
  case h_2 => exact Guarded.pure (Std.Refl.refl _)
  iterate 3 refine Guarded.ite_pure rfl fun _ => ?_
  split
  case h_2 => exact Guarded.throw (ne_crowdAssert hbad (by decide))
  rename_i sp hsp
  refine Guarded.ite_pure rfl fun hissuer => ?_
  refine Guarded.ite_pure rfl fun hcrowd => ?_
  iterate 3 refine Guarded.ite_pure rfl fun _ => ?_
  refine Guarded.pure (CrowdKept.updateSP_of_not_crowd _ fun hinv a c hc hp => hcrowd ?_)
  -- a crowdsale of the property is the issuer's, hence the sender's
  obtain ⟨e, he, hrec⟩ := hinv.crowd_record a c hc
  rw [hp, hsp, Option.some.injEq] at he
  have ha : a = tx.sender := by
    rw [← hrec.1, ← he]
    exact (not_not.mp hissuer).symm
  rw [← ha]
  simp [OmniState.getCrowd, hc]

omit hbad in
theorem logicMathBurnBCHGetWHC_crowdKept {cfg : NodeConfig} {tx : CMPTransaction} {s : OmniState} :
    Guarded CrowdKept bad Prod.snd s (CMPTransaction.logicMathBurnBCHGetWHC cfg tx s) := by
  dsimp only [CMPTransaction.logicMathBurnBCHGetWHC]
  split
  · split
    · exact Guarded.pure (Std.Refl.refl _)
    · split
      · exact Guarded.pure (CrowdKept.of_eq rfl rfl)
      · exact Guarded.pure (Std.Refl.refl _)
  · exact Guarded.pure (Std.Refl.refl _)

/-! ### Freezing -/

theorem logicMathFreezeTokens_crowdKept {tx : CMPTransaction} {s : OmniState} :
    Guarded CrowdKept bad Prod.snd s (CMPTransaction.logicMathFreezeTokens tx s) := by
  dsimp only [CMPTransaction.logicMathFreezeTokens]
  refine Guarded.bind_const (CMPTransaction.errorsIn_freezeCheck tx s)
    (crowdAssert_not_mem hbad (by decide)) fun r _ => ?_
  cases r with
  | some code => exact Guarded.pure (Std.Refl.refl _)
  | none => exact Guarded.pure (CrowdKept.of_eq rfl rfl)

theorem logicMathUnfreezeTokens_crowdKept {tx : CMPTransaction} {s : OmniState} :
    Guarded CrowdKept bad Prod.snd s (CMPTransaction.logicMathUnfreezeTokens tx s) := by
  dsimp only [CMPTransaction.logicMathUnfreezeTokens]
  refine Guarded.bind_const (CMPTransaction.errorsIn_freezeCheck tx s)
    (crowdAssert_not_mem hbad (by decide)) fun r _ => ?_
  cases r with
  | some code => exact Guarded.pure (Std.Refl.refl _)
  | none => exact Guarded.pure (CrowdKept.of_eq rfl rfl)

/-! ### Crowdsales -/

/-- **`logicMath_CloseCrowdsale`**: the sender's crowdsale sells the closed property, whose record
the invariant provides. -/
theorem logicMathCloseCrowdsale_crowdKept {tx : CMPTransaction} {s : OmniState} (hinv : CrowdInv s) :
    Guarded CrowdKept bad Prod.snd s (CMPTransaction.logicMathCloseCrowdsale tx s) := by
  dsimp only [CMPTransaction.logicMathCloseCrowdsale]
  split
  case h_2 => exact Guarded.pure (Std.Refl.refl _)
  iterate 2 refine Guarded.ite_pure rfl fun _ => ?_
  split
  case h_2 => exact Guarded.pure (Std.Refl.refl _)
  rename_i crowd hcrowd
  refine Guarded.ite_pure rfl fun hproperty => ?_
  split
  case h_2 hnone =>
    obtain ⟨e, he, -⟩ := hinv.crowd_record _ _ hcrowd
    rw [← not_not.mp hproperty] at he
    exact absurd he (hnone e)
  rename_i sp hsp
  refine Guarded.bind_const (errorsIn_getMissedIssuerBonus _ _ _)
    (crowdAssert_not_mem hbad (by decide)) fun missed _ => ?_
  -- the record keeps its issuer and its kind; missed tokens are credited; the crowdsale goes
  refine Guarded.of_rel (by exact CrowdKept.updateSP_same hsp fun _ h => h)
    (creditPositive_bind_crowdKept hbad fun s₁ _ => ?_)
  exact Guarded.pure (CrowdKept.erase _ _)

omit hbad in
theorem eraseMaxedCrowdsale_crowdKept {s : OmniState} (hinv : CrowdInv s) (address : Address)
    (blockTime : Int) (blockHash : Uint256) :
    Guarded CrowdKept bad id s (s.eraseMaxedCrowdsale address blockTime blockHash) := by
  unfold OmniState.eraseMaxedCrowdsale
  split
  · exact Guarded.pure (Std.Refl.refl _)
  · rename_i crowd hcrowd
    split
    · exact absurd ‹_› (hinv.getSP_ne_none hcrowd)
    · rename_i sp hsp
      refine Guarded.pure ((CrowdKept.updateSP_same hsp ?_).trans (CrowdKept.erase _ _))
      exact fun _ h => h

theorem buyTokenFinish_crowdKept {cfg : NodeConfig} {tx : CMPTransaction} {crowd : CMPCrowd}
    {issuerTokens : Int} {closeCrowdsale : Bool} {s : OmniState} (hinv : CrowdInv s) :
    Guarded CrowdKept bad id s
      (CMPTransaction.buyTokenFinish cfg tx crowd issuerTokens closeCrowdsale s) := by
  dsimp only [CMPTransaction.buyTokenFinish]
  refine creditPositive_bind_crowdKept hbad fun s₁ h₁ => ?_
  refine Guarded.bind (notifyTotalTokensChanged_crowdKept hbad _ _ _ _) fun s₂ _ h₂ => ?_
  split
  · split
    · exact Guarded.throw (ne_crowdAssert hbad (by decide))
    · exact eraseMaxedCrowdsale_crowdKept (h₂.inv (h₁.inv hinv)) _ _ _
  · exact Guarded.pure (Std.Refl.refl _)

/-- **`logicMath_BuyToken`**: the receiver's crowdsale has its record; it is stored again with its
property, also on the early return that follows. -/
theorem logicMathBuyToken_crowdKept {cfg : NodeConfig} {tx : CMPTransaction} {s : OmniState}
    (hinv : CrowdInv s) :
    Guarded CrowdKept bad Prod.snd s (CMPTransaction.logicMathBuyToken cfg tx s) := by
  dsimp only [CMPTransaction.logicMathBuyToken]
  iterate 6 refine Guarded.ite_pure rfl fun _ => ?_
  split
  case h_2 => exact Guarded.pure (Std.Refl.refl _)
  rename_i crowd hcrowd
  refine Guarded.ite_pure rfl fun _ => ?_
  split
  case h_2 hnone =>
    obtain ⟨e, he, -⟩ := hinv.crowd_record _ _ hcrowd
    exact absurd he (hnone e)
  rename_i sp hsp
  refine Guarded.ite_pure rfl fun _ => ?_
  refine Guarded.bind_const (errorsIn_calculateFundraiser _ _ _ _ _ _ _ _)
    (crowdAssert_not_mem hbad (by decide)) fun ⟨userTokens, closeCrowdsale, refund⟩ _ => ?_
  refine Guarded.ite_pure rfl fun _ => ?_
  -- the crowdsale written back before the payment, also on the early return
  have hkept := CrowdKept.insert_purchase hcrowd userTokens 0 tx.txid
    [tx.nValue.toNat - refund, tx.blockTime, userTokens, 0]
  split
  · split
    · refine Guarded.bind (Guarded.of_rel hkept (assertUpdateTallyMap_crowdKept hbad _ _ _ _))
        fun s₁ _ h₁ => ?_
      refine Guarded.bind (assertUpdateTallyMap_crowdKept hbad _ _ _ _) fun s₂ _ h₂ => ?_
      refine Guarded.bind (assertUpdateTallyMap_crowdKept hbad _ _ _ _) fun s₃ _ h₃ => ?_
      refine Guarded.bind (buyTokenFinish_crowdKept hbad (h₃.inv (h₂.inv (h₁.inv hinv))))
        fun s₄ _ _ => ?_
      exact Guarded.pure (Std.Refl.refl _)
    · exact Guarded.pure hkept
  · refine Guarded.pure_bind id hkept fun s₁ _ h₁ => ?_
    refine Guarded.bind (buyTokenFinish_crowdKept hbad (h₁.inv hinv)) fun s₂ _ _ => ?_
    exact Guarded.pure (Std.Refl.refl _)

/-! ### ERC721 -/

theorem nextFreeTokenId_crowdKept (propertyID : Uint256) :
    ∀ (fuel tmpTokenID : Nat) (s : OmniState),
      Guarded CrowdKept bad (fun r => r.2.2) s
        (CMPTransaction.nextFreeTokenId propertyID fuel tmpTokenID s)
  | 0, _, _ => Guarded.throw (ne_crowdAssert hbad (by decide))
  | fuel + 1, tmpTokenID, s => by
    dsimp only [CMPTransaction.nextFreeTokenId]
    have hk := CrowdKept.existToken (Std.Refl.refl s) propertyID tmpTokenID
    split
    · exact Guarded.of_rel hk (nextFreeTokenId_crowdKept propertyID fuel _ _)
    · exact Guarded.pure hk

theorem logicMathErc721IssueToken_crowdKept {cfg : NodeConfig} {tx : CMPTransaction}
    {s : OmniState} :
    Guarded CrowdKept bad Prod.snd s (CMPTransaction.logicMathErc721IssueToken cfg tx s) := by
  dsimp only [CMPTransaction.logicMathErc721IssueToken]
  split
  case h_2 => exact Guarded.pure (Std.Refl.refl _)
  refine Guarded.ite_pure rfl fun _ => ?_
  split
  case h_2 => exact Guarded.pure (CrowdKept.of_eq rfl rfl)
  -- from here on the state differs from the start in its ERC721 stores only
  iterate 3 refine Guarded.ite_pure_of_rel (CrowdKept.of_eq rfl rfl) fun _ => ?_
  split
  · refine Guarded.ite_pure_of_rel ?_ fun _ => ?_
    · refine CrowdKept.existToken ?_ _ _
      exact CrowdKept.of_eq rfl rfl
    refine Guarded.pure_bind (fun r => r.2.2) ?_ fun r _ _ => ?_
    · refine CrowdKept.existToken ?_ _ _
      exact CrowdKept.of_eq rfl rfl
    -- the token is written, then the property's counters
    exact Guarded.ite_pure_of_rel (CrowdKept.of_eq rfl rfl) fun _ =>
      Guarded.pure (CrowdKept.of_eq rfl rfl)
  · refine Guarded.bind (Guarded.of_rel (by exact CrowdKept.of_eq rfl rfl)
      (nextFreeTokenId_crowdKept hbad _ _ _ _)) fun r _ _ => ?_
    refine Guarded.pure_bind (fun r => r.2.2) (Std.Refl.refl _) fun r' _ _ => ?_
    exact Guarded.ite_pure_of_rel (CrowdKept.of_eq rfl rfl) fun _ =>
      Guarded.pure (CrowdKept.of_eq rfl rfl)

theorem logicMathErc721IssueProperty_crowdKept {cfg : NodeConfig} {tx : CMPTransaction}
    {s : OmniState} :
    Guarded CrowdKept bad Prod.snd s (CMPTransaction.logicMathErc721IssueProperty cfg tx s) := by
  dsimp only [CMPTransaction.logicMathErc721IssueProperty]
  split
  case h_2 => exact Guarded.pure (Std.Refl.refl _)
  iterate 4 refine Guarded.ite_pure rfl fun _ => ?_
  -- the new ERC721 property, then the creation fee
  refine Guarded.bind (Guarded.of_rel (by exact CrowdKept.of_eq rfl rfl)
    (payCreateFee_crowdKept hbad _ _ _)) fun s₁ _ _ => ?_
  exact Guarded.pure (Std.Refl.refl _)

omit hbad in
theorem logicMathErc721TransferToken_crowdKept {cfg : NodeConfig} {tx : CMPTransaction}
    {s : OmniState} :
    Guarded CrowdKept bad Prod.snd s (CMPTransaction.logicMathErc721TransferToken cfg tx s) := by
  dsimp only [CMPTransaction.logicMathErc721TransferToken]
  split
  case h_2 => exact Guarded.pure (Std.Refl.refl _)
  refine Guarded.ite_pure rfl fun _ => ?_
  split
  case h_2 => exact Guarded.pure (CrowdKept.of_eq rfl rfl)
  iterate 2 refine Guarded.ite_pure_of_rel (CrowdKept.of_eq rfl rfl) fun _ => ?_
  exact Guarded.pure (CrowdKept.of_eq rfl rfl)

omit hbad in
theorem logicMathErc721DestroyToken_crowdKept {cfg : NodeConfig} {tx : CMPTransaction}
    {s : OmniState} :
    Guarded CrowdKept bad Prod.snd s (CMPTransaction.logicMathErc721DestroyToken cfg tx s) := by
  dsimp only [CMPTransaction.logicMathErc721DestroyToken]
  split
  case h_2 => exact Guarded.pure (Std.Refl.refl _)
  refine Guarded.ite_pure rfl fun _ => ?_
  split
  case h_2 => exact Guarded.pure (CrowdKept.of_eq rfl rfl)
  split
  case h_2 => exact Guarded.pure (CrowdKept.of_eq rfl rfl)
  refine Guarded.ite_pure_of_rel (CrowdKept.of_eq rfl rfl) fun _ => ?_
  exact Guarded.pure (CrowdKept.of_eq rfl rfl)

theorem logicMathErc721_crowdKept {cfg : NodeConfig} {tx : CMPTransaction} {s : OmniState} :
    Guarded CrowdKept bad Prod.snd s (CMPTransaction.logicMathErc721 cfg tx s) := by
  unfold CMPTransaction.logicMathErc721
  split
  · exact logicMathErc721IssueProperty_crowdKept hbad
  split
  · exact logicMathErc721IssueToken_crowdKept hbad
  split
  · exact logicMathErc721TransferToken_crowdKept
  split
  · exact logicMathErc721DestroyToken_crowdKept
  · exact Guarded.pure (Std.Refl.refl _)

/-! ### A transaction -/

/-- **Every handler**, from a state of both invariants. -/
theorem logicMath_crowdKept {cfg : NodeConfig} {tx : CMPTransaction} {s : OmniState}
    (hfreeze : FreezeInv s) (hinv : CrowdInv s) :
    Guarded CrowdKept bad Prod.snd s (CMPTransaction.logicMath cfg tx s) := by
  unfold CMPTransaction.logicMath
  split
  case h_1 => exact logicMathSimpleSend_crowdKept hbad tx s
  case h_2 => exact logicMathBuyToken_crowdKept hbad hinv
  case h_3 => exact logicMathSendToOwners_crowdKept hbad cfg tx s
  case h_4 => exact logicMathSendAll_crowdKept hbad tx s
  case h_5 => exact logicMathCreatePropertyFixed_crowdKept hbad hfreeze
  case h_6 => exact logicMathCreatePropertyVariable_crowdKept hbad hfreeze
  case h_7 => exact logicMathCloseCrowdsale_crowdKept hbad hinv
  case h_8 => exact logicMathCreatePropertyManaged_crowdKept hbad hfreeze
  case h_9 => exact logicMathGrantTokens_crowdKept hbad
  case h_10 => exact logicMathRevokeTokens_crowdKept hbad
  case h_11 => exact logicMathChangeIssuer_crowdKept hbad
  case h_12 => exact logicMathFreezeTokens_crowdKept hbad
  case h_13 => exact logicMathUnfreezeTokens_crowdKept hbad
  case h_14 => exact logicMathBurnBCHGetWHC_crowdKept
  case h_15 => exact logicMathErc721_crowdKept hbad
  case h_16 => exact Guarded.pure (Std.Refl.refl _)

theorem interpretPacket_crowdKept {cfg : NodeConfig} {tx : CMPTransaction} {s : OmniState}
    (hfreeze : FreezeInv s) (hinv : CrowdInv s) :
    Guarded CrowdKept bad Prod.snd s (CMPTransaction.interpretPacket cfg tx s) := by
  unfold CMPTransaction.interpretPacket
  split
  · exact Guarded.pure (Std.Refl.refl _)
  · split
    · exact Guarded.pure (Std.Refl.refl _)
    · exact logicMath_crowdKept hbad hfreeze hinv

theorem mastercoreHandlerTx_crowdKept {cfg : NodeConfig} {tx : CMPTransaction} {s : OmniState}
    (hfreeze : FreezeInv s) (hinv : CrowdInv s) :
    Guarded CrowdKept bad Prod.snd s (mastercoreHandlerTx cfg tx s) := by
  unfold mastercoreHandlerTx
  refine Guarded.bind (interpretPacket_crowdKept hbad hfreeze hinv) fun r _ _ => ?_
  obtain ⟨code, s'⟩ := r
  dsimp only
  -- recording the transaction in `p_txlistdb` changes nothing the crowdsales read
  split
  · exact Guarded.pure (CrowdKept.of_eq rfl rfl)
  · exact Guarded.pure (Std.Refl.refl _)

/-! ### The beginning of a block -/

/-- One crowdsale of the expiry walk. Its record was there at the start of the walk, and the walk
removes no record. -/
theorem eraseExpiredStep_crowdKept {s₀ : OmniState} (hinv : CrowdInv s₀) (blockTime : Int)
    (blockHash : Uint256) (acc : OmniState × Nat) (hacc : CrowdKept s₀ acc.1)
    {entry : Address × CMPCrowd} (hentry : entry ∈ s₀.crowds.entries) :
    Guarded CrowdKept bad Prod.fst acc.1 (OmniState.eraseExpiredStep blockTime blockHash acc entry) := by
  obtain ⟨s, n⟩ := acc
  obtain ⟨address, crowd⟩ := entry
  dsimp only [OmniState.eraseExpiredStep]
  split
  case isFalse => exact Guarded.pure (Std.Refl.refl _)
  split
  case h_1 hnone =>
    have hsome := hacc.records _ (hinv.getSP_isSome (OrdMap.find?_of_mem hentry))
    exact absurd hnone (Option.isSome_iff_ne_none.mp hsome)
  rename_i sp hsp
  refine Guarded.bind_const (errorsIn_getMissedIssuerBonus _ _ _)
    (crowdAssert_not_mem hbad (by decide)) fun missed _ => ?_
  -- the record keeps its issuer and its kind; missed tokens are credited; the crowdsale goes
  refine Guarded.of_rel (by exact CrowdKept.updateSP_same hsp fun _ h => h)
    (creditPositive_bind_crowdKept hbad fun s₁ _ => ?_)
  exact Guarded.pure (CrowdKept.erase _ _)

theorem eraseExpiredCrowdsale_crowdKept {s : OmniState} (hinv : CrowdInv s) (blockTime : Int)
    (blockHash : Uint256) :
    Guarded CrowdKept bad Prod.snd s (s.eraseExpiredCrowdsale blockTime blockHash) := by
  unfold OmniState.eraseExpiredCrowdsale
  refine Guarded.bind (Guarded.foldlM_fst _ _ s 0 fun b hb e he =>
    eraseExpiredStep_crowdKept hbad hinv blockTime blockHash b hb he) fun r _ _ => ?_
  exact Guarded.pure (Std.Refl.refl _)

end Walk

/-! ## The end of a block -/

/-- **The walk of `DistributeWHCToBurner`** credits WHC and nothing else: where it finishes, the
stores are those it started from, and its WHC record keeps the fields the invariant reads. The
induction follows the walk. -/
theorem distributeWalk_finished (maxHeight : Int) :
    ∀ (rest kept : List PendingBurn) (s : OmniState) (sp : CMPSPInfo.Entry) (update : Nat)
      (pending : List PendingBurn) (s' : OmniState) (sp' : CMPSPInfo.Entry) (update' : Nat),
      distributeWalk maxHeight rest kept s sp update = .ok (.finished pending s' sp' update') →
      s'.stores = s.stores ∧ ∀ a, CrowdRecord a sp → CrowdRecord a sp'
  | [], kept, s, sp, update, pending, s', sp', update', h => by
    rw [distributeWalk, Except.pure_eq_ok, BurnWalk.finished.injEq] at h
    obtain ⟨-, rfl, rfl, -⟩ := h
    exact ⟨rfl, fun _ h => h⟩
  | e :: rest, kept, s, sp, update, pending, s', sp', update', h => by
    rw [distributeWalk] at h
    split at h
    case isFalse => exact distributeWalk_finished maxHeight rest (e :: kept) s sp update _ _ _ _ h
    split at h
    case isFalse =>
      -- already credited: a rescan, or the loop that never ends
      split at h <;> simp at h
    -- the credit of the entry, in WHC, and the entry recorded in the WHC record
    simp only [Except.bind_eq_ok] at h
    obtain ⟨s₁, hs₁, h⟩ := h
    split at h
    · simp at h
    · obtain ⟨hst, hrec⟩ := distributeWalk_finished maxHeight rest kept s₁ _ (update + 1) _ _ _ _ h
      exact ⟨hst.trans (OmniState.assertUpdateTallyMap_frame hs₁).1, fun a ha => hrec a ha⟩

/-- **`DistributeWHCToBurner`** keeps every record and the invariant: the WHC record it stores is
the one it found, with its issuer and its kind. -/
theorem distributeWHCToBurner_crowdKept {cfg : NodeConfig} {s s' : OmniState} {height : Int}
    {blockHash : Uint256} (h : distributeWHCToBurner cfg s height blockHash = .ok (.done s')) :
    CrowdKept s s' := by
  simp only [distributeWHCToBurner, Except.bind_eq_ok] at h
  obtain ⟨w, hw, h⟩ := h
  cases w with
  | reparse pending => simp at h
  | finished pending s₁ sp₁ update =>
    obtain ⟨hst, hrec⟩ := distributeWalk_finished _ _ _ _ _ _ _ _ _ _ hw
    have hsps : s₁.sps = s.sps := congrArg (fun t => t.2.1) hst
    -- the entries left are stored, then the record, stamped, if anything was credited
    have hk₁ : CrowdKept s { s₁ with pendingCreateWHC := pending } :=
      CrowdKept.of_eq hsps (congrArg (fun t => t.2.2.1) hst)
    dsimp only at h
    split at h
    · rw [Except.pure_eq_ok, BurnOutcome.done.injEq] at h
      subst h
      refine hk₁.trans (CrowdKept.updateSP fun e he a ha => hrec a ?_)
      -- the walk started from the record found
      dsimp only at he
      rw [← hsps, he]
      exact ha
    · rw [Except.pure_eq_ok, BurnOutcome.done.injEq] at h
      subst h
      exact hk₁

/-! ## Every reachable state -/

/-- **The invariant holds in every reachable state.** A fresh node and the wipe of a rescan have no
crowdsale; every other step keeps it, from a state of `FreezeInv`, whose counters say where a new
record lands. -/
theorem CrowdInv.of_reachable {cfg : NodeConfig} {s : OmniState} (hs : Reachable cfg s) :
    CrowdInv s := by
  induction hs with
  | fresh => exact CrowdInv.of_empty rfl
  | tx tx hs hrun ih =>
    exact ((mastercoreHandlerTx_crowdKept List.mem_cons_self (FreezeInv.of_reachable hs) ih).rel_of_ok
      hrun).inv ih
  | expire blockTime blockHash _ h ih =>
    exact ((eraseExpiredCrowdsale_crowdKept List.mem_cons_self ih blockTime blockHash).rel_of_ok
      h).inv ih
  | credit height blockHash _ h ih => exact (distributeWHCToBurner_crowdKept h).inv ih
  | flush blockHash _ ih => exact ih.congr rfl rfl
  | rescan height blockHash _ _ _ => exact CrowdInv.of_empty rfl

/-- **What the buyer and the issuer of a crowdsale can rely on in a state**: the property of every
active crowdsale has its record, issued by the crowdsale's address, of a crowdsale, and the
crowdsale sells for WHC; and neither a packet nor the crowdsale expiry at a block's beginning fails
one of the four asserts on that record. -/
structure CrowdsalesSafe (cfg : NodeConfig) (s : OmniState) : Prop where
  crowd_record : ∀ a c, s.getCrowd a = some c →
    ∃ e, s.sps.getSP c.propertyId = some e ∧ CrowdRecord a e
  desired_whc : ∀ a c, s.getCrowd a = some c → c.propertyDesired = omniPropertyWhc
  handlerTx_ne : ∀ tx, ∀ m ∈ crowdAsserts, mastercoreHandlerTx cfg tx s ≠ .error m
  expire_ne : ∀ blockTime blockHash, ∀ m ∈ crowdAsserts,
    s.eraseExpiredCrowdsale blockTime blockHash ≠ .error m

/-- **An active crowdsale's record is never missing**, in every state a node reaches processing
blocks forward. -/
theorem crowdsale_records_never_missing {cfg : NodeConfig} {s : OmniState} (hs : Reachable cfg s) :
    CrowdsalesSafe cfg s := by
  have hinv := CrowdInv.of_reachable hs
  have hfreeze := FreezeInv.of_reachable hs
  exact {
    crowd_record := hinv.crowd_record
    desired_whc := hinv.desired_whc
    handlerTx_ne := fun _ _ hm => (mastercoreHandlerTx_crowdKept hm hfreeze hinv).ne_error
    expire_ne := fun blockTime blockHash _ hm =>
      (eraseExpiredCrowdsale_crowdKept hm hinv blockTime blockHash).ne_error }

/-- A reachable state with an open crowdsale, where the guarantees hold. -/
theorem crowdsale_open_records_safe :
    ∃ s, Reachable regtest s ∧ (s.getCrowd "issuer").isSome ∧ CrowdsalesSafe regtest s := by
  obtain ⟨s, hs, hopen⟩ := Reachable.exists_of_runChain regtest crowdsaleOpened
    (fun s => (s.getCrowd "issuer").isSome) (by decide)
  exact ⟨s, hs, hopen, crowdsale_records_never_missing hs⟩

end WormholeCore
