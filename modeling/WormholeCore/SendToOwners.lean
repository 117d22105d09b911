/-
# `WormholeCore.SendToOwners` — a send-to-owners hands out exactly what it takes
(`logicMath_SendToOwners`, tx.cpp; `STO_GetReceivers`, sto.cpp).

A send-to-owners takes `nValue` of a property from its sender, splits it between the holders of the
distributed property with `STO_GetReceivers`, pays each receiver in turn, and then asserts
`sent_so_far == nValue`. The split rounds every share UP, so it is exact only thanks to its cap
(`stoGetReceivers_exact`, in `Sto`); the pay loop moves exactly the receivers' amounts out of the
sender's balance (`foldlM_stoPay_paid`). Together they keep the assert from firing.

## What is proved here

* `foldlM_stoPay_paid` — the pay loop counts, and debits from the sender, exactly the sum of the
  receivers' amounts;
* `logicMathSendToOwners_ne_sentAssert` — for a tally whose holdings of the distributed property
  are in range, `logicMath_SendToOwners` never aborts on its `sent_so_far` assert: a non-empty
  receiver set contains an address that can receive, so the amounts add up to `nValue`;
* `sendToOwners_split_exact` — the split, the pay loop and the assert together, for every tally
  map whose counted holdings fit `int64_t`, and every transaction;
* `stoFullTally_split_not_exact` — where they do not, `totalTokens` wraps and an owner gets more
  than its share.

The holdings are in range in every tally the node builds, since `update_tally_map` keeps them so
(`TallyMap.InRange.updateTallyMap`).
-/
import WormholeCore.Tx

namespace WormholeCore

open Lib Lib.Except

namespace CMPTransaction

/-! ## The pay loop -/

theorem errorsIn_stoPay (property : PropertyId) (sender : Address) (acc : OmniState × Int)
    (r : Int × Address) : ErrorsIn OmniState.tallyErrors (stoPay property sender acc r) :=
  ErrorsIn.bind (OmniState.errorsIn_assertUpdateTallyMap _ _ _ _) fun _ =>
    ErrorsIn.bind (OmniState.errorsIn_assertUpdateTallyMap _ _ _ _) fun _ => ErrorsIn.pure

/-- One payment counts `r.1` and takes it out of the sender's balance. -/
theorem stoPay_ok {property : PropertyId} {sender : Address} {acc out : OmniState × Int}
    {r : Int × Address} (hr : r.2 ≠ sender) (h : stoPay property sender acc r = .ok out) :
    out.2 = acc.2 + r.1 ∧
      getMPbalance out.1.tally sender property .balance =
        getMPbalance acc.1.tally sender property .balance - r.1 := by
  simp only [stoPay, Except.bind_eq_ok, Except.pure_eq_ok] at h
  obtain ⟨s₁, h₁, s₂, h₂, rfl⟩ := h
  refine ⟨rfl, ?_⟩
  -- the debit is the sender's, the credit the receiver's
  rw [getMPbalance_balance, getMPbalance_balance, OmniState.money_assertUpdateTallyMap h₂,
    if_neg (fun h => hr h.1.symm), OmniState.money_assertUpdateTallyMap h₁,
    if_pos ⟨rfl, rfl, rfl⟩]
  omega

/-- **The pay loop debits exactly what it counts**: over receivers other than the sender, it adds
their amounts to the count and takes them out of the sender's balance. -/
theorem foldlM_stoPay_paid {property : PropertyId} {sender : Address} :
    ∀ (receivers : OwnerAddrType) (acc paid : OmniState × Int), (∀ r ∈ receivers, r.2 ≠ sender) →
      receivers.foldlM (stoPay property sender) acc = .ok paid →
      paid.2 = acc.2 + (receivers.map Prod.fst).sum ∧
        getMPbalance paid.1.tally sender property .balance =
          getMPbalance acc.1.tally sender property .balance - (receivers.map Prod.fst).sum
  | [], acc, paid, _, h => by
    rw [List.foldlM_nil, Except.pure_eq_ok] at h
    subst h
    simp
  | r :: rest, acc, paid, hns, h => by
    rw [List.foldlM_cons, Except.bind_eq_ok] at h
    obtain ⟨acc', h₁, h₂⟩ := h
    obtain ⟨hcount, hdebit⟩ := stoPay_ok (hns r List.mem_cons_self) h₁
    obtain ⟨hcount', hdebit'⟩ := foldlM_stoPay_paid rest acc' paid
      (fun r' hr' => hns r' (List.mem_cons_of_mem _ hr')) h₂
    simp only [List.map_cons, List.sum_cons]
    omega

/-! ## The assert that closes the loop -/

/-- **The `sent_so_far` assert of a send-to-owners never fires** when the holdings of the
distributed property are in range: once there is a receiver the amounts add up to `nValue`, and
the pay loop counts exactly those. -/
theorem logicMathSendToOwners_ne_sentAssert {cfg : NodeConfig} {tx : CMPTransaction}
    {s : OmniState} (hrange : s.tally.InRange tx.distributionProperty.toNat)
    (hfits : stoEligibleTotal s.tally s.frozen tx.sender tx.distributionProperty.toNat
      tx.property.toNat ≤ int64Max) :
    logicMathSendToOwners cfg tx s ≠
      .error "logicMath_SendToOwners: assert(sent_so_far == (int64_t)nValue)" := by
  -- nothing to relate along the way: a `Guarded` run over `Unit` only avoids the message
  suffices h : Guarded (· = ·) "logicMath_SendToOwners: assert(sent_so_far == (int64_t)nValue)"
      (fun _ : Int × OmniState => ()) () (logicMathSendToOwners cfg tx s) from h.ne_error
  dsimp only [logicMathSendToOwners]
  refine Guarded.ite_pure rfl fun _ => ?_
  refine Guarded.ite_pure rfl fun _ => ?_
  refine Guarded.ite_pure rfl fun hvalue => ?_
  refine Guarded.ite_pure rfl fun _ => ?_
  refine Guarded.ite_pure rfl fun _ => ?_
  refine Guarded.ite_pure rfl fun _ => ?_
  refine Guarded.bind_const (L := stoErrors) (fun e he => stoGetReceivers_error he) (by decide)
    fun receivers hreceivers => ?_
  refine Guarded.ite_pure rfl fun hcount => ?_
  -- the receivers are an exact split of `nValue`, and there is one
  have hpos : (0 : Int) < tx.nValue.toNat := by omega
  have hmax : (tx.nValue.toNat : Int) ≤ int64Max := by
    rw [← maxInt8Bytes_eq_int64Max]
    omega
  obtain ⟨receivers', hreceivers', hexact⟩ := @stoGetReceivers_exact s.tally s.frozen tx.sender
    tx.distributionProperty.toNat tx.nValue.toNat tx.property.toNat hrange hfits hpos hmax
  rw [hreceivers', Except.ok.injEq] at hreceivers
  subst hreceivers
  have hsum := hexact.sum_eq_of_ne_nil (fun h => by simp [h] at hcount)
  -- the fee checks, the fee, and its caching in version `1`
  refine Guarded.ite_ite_pure rfl rfl ?_
  refine Guarded.bind_const (OmniState.errorsIn_assertUpdateTallyMap _ _ _ _) (by decide)
    fun _ _ => ?_
  refine Guarded.bind_const (OmniState.errorsIn_assertUpdateTallyMap _ _ _ _) (by decide)
    fun _ _ => ?_
  -- version `0` burns the fee, version `1` also caches it
  split
  all_goals first
    | refine Guarded.bind_const (L := OmniState.feeErrors) ErrorsIn.pure (by decide) fun s₃ _ => ?_
    | refine Guarded.bind_const (OmniState.errorsIn_addFee _ _ _ _ _) (by decide) fun s₃ _ => ?_
  -- the pay loop counts exactly `nValue`, so the assert holds
  all_goals
    refine Guarded.bind_const (ErrorsIn.foldlM _ (errorsIn_stoPay _ _) _ _) (by decide)
      fun paid hpaid => ?_
    have hpaid_eq := (foldlM_stoPay_paid receivers' (s₃, 0) paid hexact.not_sender hpaid).1
    rw [if_neg (by rw [hpaid_eq, zero_add, hsum]; exact not_not_intro rfl)]
  -- then the notification of version `0`
  all_goals first
    | refine Guarded.bind_const (L := OmniState.feeErrors) ErrorsIn.pure (by decide) fun _ _ => ?_
    | refine Guarded.bind_const (OmniState.errorsIn_notifyTotalTokensChanged _ _ _ _) (by decide)
        fun _ _ => ?_
  all_goals exact Guarded.pure rfl

/-! ## A send-to-owners hands out exactly what it takes -/

/-- **A send-to-owners hands out exactly what it takes.** For every tally map whose holdings of the
distributed property are in range and whose counted holdings (every address but the sender's and
those frozen for the sent property) add up to at most `INT64_MAX`, every sender, pair of properties
and `0 < amount ≤ INT64_MAX`, `STO_GetReceivers` returns an exact split of `amount` (`StoExact`),
and the pay loop over a non-empty split counts `amount` and takes exactly `amount` out of the
sender's balance; and `logicMath_SendToOwners` never aborts on its `sent_so_far == nValue` assert. -/
theorem sendToOwners_split_exact :
    (∀ (m : TallyMap) (frozen : FrozenSet) (sender : Address) (property pwd : PropertyId)
        (amount : Int), m.InRange property →
        stoEligibleTotal m frozen sender property pwd ≤ int64Max → 0 < amount → amount ≤ int64Max →
      ∃ receivers, stoGetReceivers m frozen sender property amount pwd = .ok receivers ∧
        StoExact m frozen sender property pwd amount receivers ∧
        (receivers ≠ [] → ∀ acc paid : OmniState × Int,
          receivers.foldlM (stoPay pwd sender) acc = .ok paid →
          paid.2 = acc.2 + amount ∧
            getMPbalance paid.1.tally sender pwd .balance =
              getMPbalance acc.1.tally sender pwd .balance - amount)) ∧
    ∀ (cfg : NodeConfig) (tx : CMPTransaction) (s : OmniState),
      s.tally.InRange tx.distributionProperty.toNat →
      stoEligibleTotal s.tally s.frozen tx.sender tx.distributionProperty.toNat tx.property.toNat ≤
        int64Max →
      logicMathSendToOwners cfg tx s ≠
        .error "logicMath_SendToOwners: assert(sent_so_far == (int64_t)nValue)" := by
  refine ⟨fun m frozen sender property pwd amount hrange hfits hpos hmax => ?_,
    fun _ _ _ hrange hfits => logicMathSendToOwners_ne_sentAssert hrange hfits⟩
  obtain ⟨receivers, hreceivers, hexact⟩ :=
    @stoGetReceivers_exact m frozen sender property amount pwd hrange hfits hpos hmax
  refine ⟨receivers, hreceivers, hexact, fun hne acc paid hpaid => ?_⟩
  rw [← hexact.sum_eq_of_ne_nil hne]
  exact foldlM_stoPay_paid receivers acc paid hexact.not_sender hpaid

/-- A tally holding `n` of property `3`. -/
def stoHolder (n : Int) : CMPTally := ⟨OrdMap.empty.insert 3 { balance := n }⟩

/-- Three holders of property `3`. -/
def stoSampleTally : TallyMap :=
  ((OrdMap.empty.insert "alice" (stoHolder 60)).insert "bob" (stoHolder 30)).insert "carol"
    (stoHolder 10)

/-- Seven units of property `4` sent to the holders of property `3`. -/
theorem stoSample_split_exact : ∃ receivers,
    stoGetReceivers stoSampleTally OrdMap.empty "dave" 3 7 4 = .ok receivers ∧
      StoExact stoSampleTally OrdMap.empty "dave" 3 4 7 receivers :=
  (sendToOwners_split_exact.1 _ _ _ _ _ _ (by decide) (by decide) (by decide) (by decide)).imp
    fun _ h => ⟨h.1, h.2.1⟩

-- the shares `⌈60·7/100⌉ = 5` and `⌈30·7/100⌉ = 3`, capped to the `2` left; nothing for carol
example : stoGetReceivers stoSampleTally OrdMap.empty "dave" 3 7 4 =
    .ok [(5, "alice"), (2, "bob")] := by
  decide +kernel

/-- Three holders of `INT64_MAX` of property `3`. -/
def stoFullTally : TallyMap :=
  ((OrdMap.empty.insert "alice" (stoHolder int64Max)).insert "bob" (stoHolder int64Max)).insert
    "carol" (stoHolder int64Max)

/-- **Where the counted holdings pass `INT64_MAX`, the split is not exact.** The three holdings add
up to `3 * INT64_MAX`, which `totalTokens` wraps round to `INT64_MAX - 2`. The first owner's share
`⌈INT64_MAX * 100 / (INT64_MAX - 2)⌉ = 101` is capped to all `100` units, above its share
`⌈100 / 3⌉ = 34` of the holdings. -/
theorem stoFullTally_split_not_exact :
    stoGetReceivers stoFullTally OrdMap.empty "dave" 3 100 4 = .ok [(100, "alice")] ∧
      ¬StoExact stoFullTally OrdMap.empty "dave" 3 4 100 [(100, "alice")] := by
  refine ⟨by decide +kernel, fun h => ?_⟩
  have hshare := h.le_share (100, "alice") List.mem_cons_self
  have hhold : stoFullTally.holding "alice" 3 = int64Max := by decide
  have htotal : stoEligibleTotal stoFullTally OrdMap.empty "dave" 3 4 = 3 * int64Max := by decide
  rw [hhold, htotal] at hshare
  -- alice's share of the true total is a third of the amount, rounded up
  have hceil : ⌈((int64Max * 100 : ℤ) : ℚ) / ((3 * int64Max : ℤ) : ℚ)⌉ ≤ 34 :=
    Int.ceil_le.2 (by norm_num [int64Max])
  exact absurd (hshare.trans hceil) (by decide)

end CMPTransaction

end WormholeCore
