/-
# `WormholeCore.Expiry` — the beginning of a block: closing the expired crowdsales.

Outside a reorganisation, `mastercore_handler_block_begin` runs `eraseExpiredCrowdsale` with the
block's time. Every crowdsale whose deadline is before that time is closed: the missed issuer
tokens are credited to the issuer of its property, the record of the property is stamped, and the
crowdsale is erased from `my_crowds`.

The walk is a fold over the crowdsales in address order (`eraseExpiredStep`). Its invariant,
`ExpiryInv`, is stated against the crowdsales still to visit: a crowdsale not yet visited is as it
was, a visited one is kept exactly when it is within its deadline, the count is the number of
expired crowdsales visited, and the supplies moved only for properties an expired crowdsale sells.
The keys of `my_crowds` are distinct, so erasing the crowdsale being visited leaves the others
alone.

## What is proved here

* `eraseExpiredCrowdsale_exact` — from every state sound at a block, a successful walk returns the
  number of crowdsales past their deadline, keeps exactly the crowdsales within their deadline,
  keeps the state sound, and leaves the supply of every property no expired crowdsale sells.
-/
import WormholeCore.Issuance

namespace WormholeCore

open Lib Lib.Except

namespace OmniState

/-- An asserted update leaves every store alone. -/
theorem wp_assertUpdateTallyMap_stores (s : OmniState) (who : Address) (p : PropertyId) (a : Int) :
    WP (s.assertUpdateTallyMap who p a) (fun s' => s'.stores = s.stores) fun _ => True :=
  (WP.eq _).mono (fun _ h => (assertUpdateTallyMap_frame h).1) fun _ _ => trivial

section Expiry

variable {s : OmniState} {block blockTime : Int}

/-- **The invariant of the expiry walk**, against the crowdsales `l` still to visit: the
crowdsale of an address in `l` is as it was, that of any other address is kept exactly when it is
within its deadline; the count is the number of expired crowdsales visited; the supplies moved only
for properties an expired crowdsale sells. -/
structure ExpiryInv (s : OmniState) (block blockTime : Int) (l : List (Address × CMPCrowd))
    (acc : OmniState × Nat) : Prop where
  crowds : ∀ a, acc.1.getCrowd a =
    if a ∈ l.map Prod.fst then s.getCrowd a else (s.getCrowd a).filter fun c => blockTime ≤ c.deadline
  count : acc.2 + (l.filter fun e => blockTime > e.2.deadline).length =
    (s.crowds.entries.filter fun e => blockTime > e.2.deadline).length
  moved : MovedOff block s
    (fun p => ∀ e ∈ s.crowds.entries, blockTime > e.2.deadline → e.2.propertyId ≠ p) acc.1

namespace ExpiryInv

/-- Before the walk: nothing visited, nothing counted, nothing moved. -/
theorem init (hs : s.Sound block) : ExpiryInv s block blockTime s.crowds.entries (s, 0) where
  crowds a := by
    split
    · rfl
    · -- an address with no entry has no crowdsale
      rename_i ha
      have hnone : s.getCrowd a = none := by
        cases hc : s.getCrowd a with
        | none => rfl
        | some c => exact absurd (List.mem_map.mpr ⟨(a, c), OrdMap.mem_of_find? hc, rfl⟩) ha
      rw [hnone]
      rfl
  count := Nat.zero_add _
  moved := MovedOff.of_moved (Moved.refl hs)

/-- The crowdsale of an address other than the one being visited is as the invariant says. -/
theorem crowds_of_ne {l : List (Address × CMPCrowd)} {acc : OmniState × Nat} {e : Address × CMPCrowd}
    (hinv : ExpiryInv s block blockTime (e :: l) acc) {a : Address} (ha : e.1 ≠ a) :
    acc.1.getCrowd a =
      if a ∈ l.map Prod.fst then s.getCrowd a else (s.getCrowd a).filter fun c => blockTime ≤ c.deadline := by
  rw [hinv.crowds a]
  simp only [List.map_cons, List.mem_cons, Ne.symm ha, false_or]

/-- A crowdsale within its deadline is passed. -/
theorem keep {l : List (Address × CMPCrowd)} {s₁ : OmniState} {n : Nat} {e : Address × CMPCrowd}
    (hinv : ExpiryInv s block blockTime (e :: l) (s₁, n)) (he : e ∈ s.crowds.entries)
    (hnodup : e.1 ∉ l.map Prod.fst) (hlive : ¬blockTime > e.2.deadline) :
    ExpiryInv s block blockTime l (s₁, n) where
  crowds a := by
    by_cases ha : e.1 = a
    · -- the visited crowdsale, as it was, is within its deadline
      subst ha
      have hc : s.getCrowd e.1 = some e.2 := OrdMap.find?_of_mem he
      rw [hinv.crowds, if_pos (List.mem_map_of_mem List.mem_cons_self), if_neg hnodup, hc]
      simp [Option.filter, not_lt.mp hlive]
    · exact hinv.crowds_of_ne ha
  count := by
    have h := hinv.count
    rwa [List.filter_cons_of_neg (by simpa using hlive)] at h
  moved := hinv.moved

/-- An expired crowdsale is closed: the state it leaves differs from the one before in supplies
moved off the properties no expired crowdsale sells, and in the crowdsale erased. -/
theorem close {l : List (Address × CMPCrowd)} {s₁ s₂ : OmniState} {n : Nat} {e : Address × CMPCrowd}
    (hinv : ExpiryInv s block blockTime (e :: l) (s₁, n)) (he : e ∈ s.crowds.entries)
    (hnodup : e.1 ∉ l.map Prod.fst) (hexp : blockTime > e.2.deadline) (hcrowds : s₂.crowds = s₁.crowds)
    (hmoved : MovedOff block s
      (fun p => ∀ e ∈ s.crowds.entries, blockTime > e.2.deadline → e.2.propertyId ≠ p) s₂) :
    ExpiryInv s block blockTime l ({ s₂ with crowds := s₂.crowds.erase e.1 }, n + 1) where
  crowds a := by
    show (s₂.crowds.erase e.1).find? a = _
    rw [OrdMap.find?_erase, hcrowds]
    by_cases ha : e.1 = a
    · -- the visited crowdsale is gone, as it is past its deadline
      subst ha
      have hc : s.getCrowd e.1 = some e.2 := OrdMap.find?_of_mem he
      rw [if_pos rfl, if_neg hnodup, hc]
      simp [Option.filter, not_le.mpr hexp]
    · rw [if_neg ha]
      exact hinv.crowds_of_ne ha
  count := by
    have h := hinv.count
    rw [List.filter_cons_of_pos (by simpa using hexp), List.length_cons] at h
    omega
  moved := hmoved.trans_zero (Moved.of_crowds hmoved.sound _)

end ExpiryInv

variable {blockHash : Uint256}

/-- **One crowdsale of the walk keeps the invariant.** -/
theorem eraseExpiredStep_inv {l : List (Address × CMPCrowd)} {acc : OmniState × Nat}
    {e : Address × CMPCrowd} (hinv : ExpiryInv s block blockTime (e :: l) acc)
    (he : e ∈ s.crowds.entries) (hnodup : e.1 ∉ l.map Prod.fst) :
    WP (eraseExpiredStep blockTime blockHash acc e) (ExpiryInv s block blockTime l) fun _ => True := by
  obtain ⟨s₁, n⟩ := acc
  obtain ⟨address, crowd⟩ := e
  dsimp only [eraseExpiredStep]
  split
  case isFalse hlive => exact WP.pure (hinv.keep he hnodup hlive)
  case isTrue hexp =>
    split
    case h_1 => exact WP.throw True.intro
    refine WP.bind (WP.trivial _) fun missed _ => ?_
    -- the record is stamped, then the missed tokens of the crowdsale's own property credited
    have hsold : ¬∀ e ∈ s.crowds.entries, blockTime > e.2.deadline → e.2.propertyId ≠ crowd.propertyId :=
      fun h => h (address, crowd) he hexp rfl
    split
    · refine WP.bind (WP.and (wp_assertUpdateTallyMap (Moved.of_sps hinv.moved.sound _).sound _ _ _)
        (wp_assertUpdateTallyMap_stores _ _ _ _)) fun s₂ ⟨h₂, hstores⟩ => ?_
      exact WP.pure (hinv.close he hnodup hexp (congrArg (fun t => t.2.2.1) hstores)
        ((hinv.moved.trans_zero (Moved.of_sps hinv.moved.sound _)).trans_single h₂ hsold))
    · rw [pure_bind]
      exact WP.pure (hinv.close he hnodup hexp rfl
        (hinv.moved.trans_zero (Moved.of_sps hinv.moved.sound _)))

/-- **The whole walk keeps the invariant**, by induction on the crowdsales still to visit. -/
theorem foldlM_eraseExpiredStep_inv :
    ∀ (l : List (Address × CMPCrowd)) (acc : OmniState × Nat), ExpiryInv s block blockTime l acc →
      (∀ e ∈ l, e ∈ s.crowds.entries) → (l.map Prod.fst).Nodup →
      WP (l.foldlM (eraseExpiredStep blockTime blockHash) acc) (ExpiryInv s block blockTime [])
        fun _ => True
  | [], acc, hinv, _, _ => WP.pure hinv
  | e :: l, acc, hinv, hl, hnodup => by
    rw [List.map_cons, List.nodup_cons] at hnodup
    rw [List.foldlM_cons]
    exact WP.bind (eraseExpiredStep_inv hinv (hl e List.mem_cons_self) hnodup.1) fun acc' hacc' =>
      foldlM_eraseExpiredStep_inv l acc' hacc' (fun e' he' => hl e' (List.mem_cons_of_mem e he'))
        hnodup.2

end Expiry

/-- **The beginning of a block closes exactly the expired crowdsales.** From every state sound at
a block, when `eraseExpiredCrowdsale` succeeds at `blockTime`, it returns the number of crowdsales
past their deadline; the crowdsale of every address is kept when it is within its deadline and
erased when it is not; the state stays sound; and the supply of every property that no expired
crowdsale sells is unchanged. -/
theorem eraseExpiredCrowdsale_exact {s : OmniState} {block blockTime : Int} {blockHash : Uint256}
    (hs : s.Sound block) {n : Nat} {s' : OmniState}
    (h : s.eraseExpiredCrowdsale blockTime blockHash = .ok (n, s')) :
    n = (s.crowds.entries.filter fun e => blockTime > e.2.deadline).length ∧
      (∀ a, s'.getCrowd a = (s.getCrowd a).filter fun c => blockTime ≤ c.deadline) ∧
      s'.Sound block ∧
      ∀ p, (∀ e ∈ s.crowds.entries, blockTime > e.2.deadline → e.2.propertyId ≠ p) →
        s'.supply p = s.supply p := by
  have hwalk : WP (s.crowds.entries.foldlM (eraseExpiredStep blockTime blockHash) (s, 0))
      (ExpiryInv s block blockTime []) fun _ => True :=
    foldlM_eraseExpiredStep_inv _ _ (ExpiryInv.init hs) (fun _ he => he) (OrdMap.nodup_keys _)
  unfold eraseExpiredCrowdsale at h
  obtain ⟨r, hr, hout⟩ := Except.bind_eq_ok.mp h
  cases hout
  have hinv := WP.ok hwalk hr
  obtain ⟨d, hd, hzero⟩ := hinv.moved
  refine ⟨?_, fun a => ?_, hd.sound, fun p hp => ?_⟩
  · simpa using hinv.count
  · simpa using hinv.crowds a
  · rw [hd.supply, hzero p hp, add_zero]

/-- A fresh regtest node with the crowdsale of `issuer`, deadline `100`, selling a property of
`1000` tokens of which nothing was bought. -/
def expiringCrowdsale : OmniState :=
  { OmniState.fresh regtest with
    sps := ((OmniState.fresh regtest).sps.putSP 1 { issuer := "issuer", numTokens := 1000 }).2
    crowds := OrdMap.empty.insert "issuer"
      { propertyId := 3, nValue := 1, propertyDesired := 1, deadline := 100, earlyBird := 0,
        percentage := 0, uCreated := 0, iCreated := 0, txFundraiserData := OrdMap.empty } }

theorem expiringCrowdsale_closed :
    ∃ n s', expiringCrowdsale.eraseExpiredCrowdsale 200 0 = .ok (n, s') ∧
      n = (expiringCrowdsale.crowds.entries.filter fun e => (200 : Int) > e.2.deadline).length ∧
      (∀ a, s'.getCrowd a = (expiringCrowdsale.getCrowd a).filter fun c => (200 : Int) ≤ c.deadline) ∧
      s'.Sound 0 ∧
      ∀ p, (∀ e ∈ expiringCrowdsale.crowds.entries, (200 : Int) > e.2.deadline → e.2.propertyId ≠ p) →
        s'.supply p = expiringCrowdsale.supply p := by
  obtain ⟨n, s', h⟩ : ∃ n s', expiringCrowdsale.eraseExpiredCrowdsale 200 0 = .ok (n, s') :=
    ⟨_, _, rfl⟩
  -- the tally and the fee cache are those of a fresh node
  have hs : expiringCrowdsale.Sound 0 :=
    (Moved.of_eq (OmniState.sound_fresh regtest 0) (show expiringCrowdsale.tally = _ from rfl) rfl).sound
  exact ⟨n, s', h, eraseExpiredCrowdsale_exact hs h⟩

end OmniState

end WormholeCore
