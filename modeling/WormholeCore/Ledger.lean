/-
# `WormholeCore.Ledger` — the global tally map, the frozen set and `update_tally_map`.

`mp_tally_map` (an `unordered_map<string, CMPTally>`) holds every address's tally; every token
movement in the protocol goes through `mastercore::update_tally_map`, which

1. refuses zero amounts and the sentinel tally type,
2. ASSERTS that a negative `BALANCE` update never hits a frozen `(address, property)` pair,
3. inserts an empty tally for an unseen address, calls `CMPTally::updateMoney`, and ASSERTS that a
   refused update left the reading unchanged.

A failed `assert` aborts the node; the model returns `.error` with the asserted text. The
unordered map is modelled by `Lib.OrdMap`: every use of it in the modelled code (lookups, and
sums over all entries) is insensitive to the iteration order.

## What is proved here

* `updateTallyMap_error_iff` — the ONLY way `update_tally_map` can abort is its frozen-address
  assert; the `before == after` assert always holds;
* `money_updateTallyMap` — the frame lemma: one successful update moves exactly one counter;
* `sumHolding_updateTallyMap` — the conservation engine: how one update moves the total holding of
  every property.
-/
import WormholeCore.Tally

namespace WormholeCore

open Lib

/-- `mp_tally_map`. -/
abbrev TallyMap := OrdMap Address CMPTally

/-- `setFrozenAddresses`: the frozen `(address, property)` pairs (a `std::set` of pairs, ordered
lexicographically). -/
abbrev FrozenSet := OrdMap (Address ×ₗ PropertyId) Unit

/-! ## Frozen addresses (omnicore.cpp) -/

/-- `mastercore::isAddressFrozen`. -/
def isAddressFrozen (frozen : FrozenSet) (address : Address) (propertyId : PropertyId) : Bool :=
  frozen.contains (toLex (address, propertyId))

/-- `mastercore::freezeAddress`. -/
def freezeAddress (frozen : FrozenSet) (address : Address) (propertyId : PropertyId) : FrozenSet :=
  frozen.insert (toLex (address, propertyId)) ()

/-- `mastercore::unfreezeAddress`. -/
def unfreezeAddress (frozen : FrozenSet) (address : Address) (propertyId : PropertyId) :
    FrozenSet :=
  frozen.erase (toLex (address, propertyId))

@[simp] theorem isAddressFrozen_freezeAddress (frozen : FrozenSet) (a a' : Address)
    (p p' : PropertyId) :
    isAddressFrozen (freezeAddress frozen a p) a' p' =
      ((a = a' ∧ p = p') || isAddressFrozen frozen a' p') := by
  unfold isAddressFrozen freezeAddress
  by_cases h : a = a' ∧ p = p'
  · obtain ⟨rfl, rfl⟩ := h
    simp
  · have hne : toLex (a, p) ≠ toLex (a', p') := by
      intro he
      exact h (Prod.mk.inj (toLex.injective he))
    simp [hne, h]

@[simp] theorem isAddressFrozen_unfreezeAddress (frozen : FrozenSet) (a a' : Address)
    (p p' : PropertyId) :
    isAddressFrozen (unfreezeAddress frozen a p) a' p' =
      (!(a = a' ∧ p = p') && isAddressFrozen frozen a' p') := by
  unfold isAddressFrozen unfreezeAddress
  by_cases h : a = a' ∧ p = p'
  · obtain ⟨rfl, rfl⟩ := h
    simp
  · have hne : toLex (a, p) ≠ toLex (a', p') := by
      intro he
      exact h (Prod.mk.inj (toLex.injective he))
    simp [hne, h]

/-! ## Balances -/

namespace TallyMap

/-- The raw counter `(address, property, type)`: zero when the address has no tally. -/
def money (m : TallyMap) (address : Address) (propertyId : PropertyId) (ttype : TallyType) : Int :=
  (m.findD address {}).getMoney propertyId ttype

/-- The holding of one address (`BALANCE + SELLOFFER_RESERVE + ACCEPT_RESERVE + METADEX_RESERVE`). -/
def holding (m : TallyMap) (address : Address) (propertyId : PropertyId) : Int :=
  (m.findD address {}).holding propertyId

/-- `Σ` over every address of its holding of `propertyId`: the tally part of a property's supply
(the loop of `getTotalTokens` / `getSaledTokens`). -/
def sumHolding (m : TallyMap) (propertyId : PropertyId) : Int :=
  m.sumBy (fun _ t => t.holding propertyId)

end TallyMap

/-- `getMPbalance`: `ACCEPT_RESERVE` of any property above `OMNI_PROPERTY_TWHC` reads as zero. -/
def getMPbalance (m : TallyMap) (address : Address) (propertyId : PropertyId)
    (ttype : TallyType) : Int :=
  if ttype = .tallyTypeCount then 0
  else if ttype = .acceptReserve ∧ omniPropertyTwhc < propertyId then 0
  else m.money address propertyId ttype

@[simp] theorem getMPbalance_balance (m : TallyMap) (address : Address) (propertyId : PropertyId) :
    getMPbalance m address propertyId .balance = m.money address propertyId .balance := by
  simp [getMPbalance]

/-- `mastercore::update_tally_map`. `.error` is a failed `assert`; `.ok (false, m')` a refused
update (whose map may have gained an empty tally for `who`). -/
def updateTallyMap (frozen : FrozenSet) (m : TallyMap) (who : Address) (propertyId : PropertyId)
    (amount : Int) (ttype : TallyType) : Except String (Bool × TallyMap) :=
  if amount = 0 then .ok (false, m)
  else if ttype = .tallyTypeCount then .ok (false, m)
  else if ttype = .balance ∧ amount < 0 ∧ isAddressFrozen frozen who propertyId = true then
    .error "update_tally_map: assert(!isAddressFrozen(who, propertyId))"
  else
    let before := getMPbalance m who propertyId ttype
    let result := (m.findD who {}).updateMoney propertyId amount ttype
    let m' := m.insert who result.2
    if result.1 = false ∧ before ≠ getMPbalance m' who propertyId ttype then
      .error "update_tally_map: assert(before == after)"
    else .ok (result.1, m')

namespace TallyMap

@[simp] theorem money_insert (m : TallyMap) (a a' : Address) (t : CMPTally) (p : PropertyId)
    (k : TallyType) :
    money (m.insert a t) a' p k = if a = a' then t.getMoney p k else m.money a' p k := by
  unfold money
  by_cases h : a = a' <;> simp [h]

theorem holding_eq (m : TallyMap) (a : Address) (p : PropertyId) :
    m.holding a p = m.money a p .balance + m.money a p .sellofferReserve +
      m.money a p .acceptReserve + m.money a p .metadexReserve := rfl

end TallyMap

/-- The update `update_tally_map` hands to `updateMoney`, and what it reads back. -/
theorem updateMoney_findD_reading (m : TallyMap) (who : Address) (p : PropertyId) (a : Int)
    (k : TallyType) (p' : PropertyId) (k' : TallyType) :
    (((m.findD who {}).updateMoney p a k).2).getMoney p' k' =
      if (m.findD who {}).accepts p a k ∧ p' = p ∧ k' = k
      then m.money who p' k' + a else m.money who p' k' :=
  (CMPTally.updateMoney_spec _ p a k).2 p' k'

/-- **`update_tally_map` aborts only on its frozen-address assert.** The second assert
(`before == after` on a refused update) can never fire. -/
theorem updateTallyMap_error_iff (frozen : FrozenSet) (m : TallyMap) (who : Address)
    (p : PropertyId) (a : Int) (k : TallyType) :
    (∃ e, updateTallyMap frozen m who p a k = .error e) ↔
      a ≠ 0 ∧ k = .balance ∧ a < 0 ∧ isAddressFrozen frozen who p = true := by
  unfold updateTallyMap
  by_cases h0 : a = 0
  · simp [h0]
  by_cases hk : k = .tallyTypeCount
  · subst hk; simp [h0]
  by_cases hf : k = .balance ∧ a < 0 ∧ isAddressFrozen frozen who p = true
  · simp [h0, hf]
  -- past the frozen check, a refused update reads back unchanged
  have hsame : ((m.findD who {}).updateMoney p a k).1 = false →
      getMPbalance m who p k =
        getMPbalance (m.insert who ((m.findD who {}).updateMoney p a k).2) who p k := by
    intro hfalse
    have hacc : ¬(m.findD who {}).accepts p a k := by
      intro hacc
      rw [CMPTally.updateMoney_of_accepts hacc] at hfalse
      exact Bool.noConfusion hfalse
    have hread := (CMPTally.updateMoney_of_not_accepts hacc).2 p k
    unfold getMPbalance
    rw [TallyMap.money_insert, if_pos rfl, hread]
    rfl
  have hno : ¬∃ e, updateTallyMap frozen m who p a k = .error e := by
    rintro ⟨e, he⟩
    unfold updateTallyMap at he
    simp only [h0, hk, hf, if_false] at he
    split_ifs at he with hbad
    exact hbad.2 (hsame hbad.1)
  unfold updateTallyMap at hno
  exact ⟨fun h => absurd h hno, fun h => absurd h.2 hf⟩

/-- The two messages `update_tally_map` can abort with. -/
theorem updateTallyMap_error_mem {frozen : FrozenSet} {m : TallyMap} {who : Address}
    {p : PropertyId} {a : Int} {k : TallyType} {e : String}
    (h : updateTallyMap frozen m who p a k = .error e) :
    e = "update_tally_map: assert(!isAddressFrozen(who, propertyId))" ∨
      e = "update_tally_map: assert(before == after)" := by
  unfold updateTallyMap at h
  split_ifs at h
  · simp only [Except.error.injEq] at h
    exact .inl h.symm
  · dsimp only at h
    split_ifs at h
    simp only [Except.error.injEq] at h
    exact .inr h.symm

/-- **What a successful `update_tally_map` did**: nothing (a zero amount or the sentinel type),
or it stored the tally `updateMoney` returned and reports `updateMoney`'s flag. -/
theorem updateTallyMap_ok {frozen : FrozenSet} {m m' : TallyMap} {who : Address}
    {p : PropertyId} {a : Int} {k : TallyType} {b : Bool}
    (h : updateTallyMap frozen m who p a k = .ok (b, m')) :
    (b = false ∧ m' = m ∧ ¬(m.findD who {}).accepts p a k) ∨
      (b = ((m.findD who {}).updateMoney p a k).1 ∧
        m' = m.insert who ((m.findD who {}).updateMoney p a k).2) := by
  unfold updateTallyMap at h
  by_cases h0 : a = 0
  · simp only [h0, if_true, Except.ok.injEq, Prod.mk.injEq] at h
    exact .inl ⟨h.1.symm, h.2.symm, fun hacc => hacc.2.1 h0⟩
  by_cases hk : k = .tallyTypeCount
  · simp only [h0, hk, if_true, if_false, Except.ok.injEq, Prod.mk.injEq] at h
    exact .inl ⟨h.1.symm, h.2.symm, fun hacc => hacc.1 hk⟩
  by_cases hf : k = .balance ∧ a < 0 ∧ isAddressFrozen frozen who p = true
  · simp [h0, hf] at h
  simp only [h0, hk, hf, if_false] at h
  split_ifs at h with hbad
  simp only [Except.ok.injEq, Prod.mk.injEq] at h
  exact .inr ⟨h.1.symm, h.2.symm⟩

/-- **An accepted update goes through**: when the tally of `who` accepts it and it is not a debit of
a frozen balance, `update_tally_map` stores the updated tally and reports success. -/
theorem updateTallyMap_of_accepts {frozen : FrozenSet} {m : TallyMap} {who : Address}
    {p : PropertyId} {a : Int} {k : TallyType} (hacc : (m.findD who {}).accepts p a k)
    (hfrozen : ¬(k = .balance ∧ a < 0 ∧ isAddressFrozen frozen who p = true)) :
    updateTallyMap frozen m who p a k =
      .ok (true, m.insert who ((m.findD who {}).updateMoney p a k).2) := by
  have hflag : ((m.findD who {}).updateMoney p a k).1 = true := by
    rw [CMPTally.updateMoney_of_accepts hacc]
  unfold updateTallyMap
  rw [if_neg hacc.2.1, if_neg hacc.1, if_neg hfrozen]
  dsimp only
  rw [if_neg (by rw [hflag]; simp), hflag]

/-- **The frame lemma of `update_tally_map`.** After a successful call every counter reads as
before, except `(who, propertyId, ttype)`, which moved by `amount` exactly when the update was
accepted (the returned flag). -/
theorem money_updateTallyMap {frozen : FrozenSet} {m m' : TallyMap} {who : Address}
    {p : PropertyId} {a : Int} {k : TallyType} {b : Bool}
    (h : updateTallyMap frozen m who p a k = .ok (b, m')) :
    b = decide ((m.findD who {}).accepts p a k) ∧
      ∀ w p' k', m'.money w p' k' =
        if b = true ∧ w = who ∧ p' = p ∧ k' = k then m.money w p' k' + a else m.money w p' k' := by
  rcases updateTallyMap_ok h with ⟨rfl, rfl, hacc⟩ | ⟨rfl, rfl⟩
  · exact ⟨(decide_eq_false hacc).symm, fun w p' k' => by simp⟩
  · have hflag := (CMPTally.updateMoney_spec (m.findD who {}) p a k).1
    refine ⟨hflag, fun w p' k' => ?_⟩
    rw [TallyMap.money_insert]
    by_cases hw : who = w
    · subst hw
      rw [if_pos rfl, updateMoney_findD_reading, hflag]
      by_cases hacc : (m.findD who {}).accepts p a k <;> simp [hacc]
    · rw [if_neg hw]
      simp [Ne.symm hw]

/-- The holding an address contributes to a sum: zero for an address without a tally. -/
theorem find?_holding (m : TallyMap) (who : Address) (p : PropertyId) :
    ((m.find? who).map (fun t => t.holding p)).getD 0 = (m.findD who {}).holding p := by
  cases h : m.find? who <;> simp [h, OrdMap.findD_eq, CMPTally.holding]

/-- **How one update moves a supply.** After a successful `update_tally_map`, the total holding
of `p'` grew by `amount` iff the update was accepted on `p' = propertyId` for one of the four
counted tally types (`PENDING` is not part of any holding), and is unchanged otherwise. -/
theorem sumHolding_updateTallyMap {frozen : FrozenSet} {m m' : TallyMap} {who : Address}
    {p : PropertyId} {a : Int} {k : TallyType} {b : Bool}
    (h : updateTallyMap frozen m who p a k = .ok (b, m')) (p' : PropertyId) :
    m'.sumHolding p' =
      m.sumHolding p' + if b = true ∧ p' = p ∧ k ≠ .pending then a else 0 := by
  rcases updateTallyMap_ok h with ⟨rfl, rfl, _⟩ | ⟨rfl, rfl⟩
  · simp
  · unfold TallyMap.sumHolding
    rw [OrdMap.sumBy_insert, find?_holding, CMPTally.holding_updateMoney,
      (CMPTally.updateMoney_spec _ p a k).1]
    by_cases hacc : (m.findD who {}).accepts p a k
    · simp only [hacc, decide_true]
      omega
    · simp [hacc]

/-! ## Holdings stay in range -/

namespace TallyMap

/-- Every tally of the map keeps property `p` in range (`CMPTally.InRange`). -/
def InRange (m : TallyMap) (p : PropertyId) : Prop := ∀ e ∈ m.entries, e.2.InRange p

instance (m : TallyMap) (p : PropertyId) : Decidable (m.InRange p) :=
  inferInstanceAs (Decidable (∀ e ∈ m.entries, e.2.InRange p))

theorem InRange.findD {m : TallyMap} {p : PropertyId} (h : m.InRange p) (a : Address) :
    (m.findD a {}).InRange p := by
  rw [OrdMap.findD_eq]
  cases hf : m.find? a with
  | none => exact CMPTally.inRange_empty p
  | some t => exact h (a, t) (OrdMap.mem_of_find? hf)

/-- **One holding is at most the supply** when every holding is in range. -/
theorem holding_le_sumHolding {m : TallyMap} {p : PropertyId} (h : m.InRange p) (a : Address) :
    m.holding a p ≤ m.sumHolding p := by
  have hnonneg : ∀ e ∈ m.entries, 0 ≤ e.2.holding p := fun e he => (h e he).holding_nonneg
  unfold holding sumHolding
  rw [OrdMap.findD_eq]
  cases hf : m.find? a with
  | none =>
    simpa [CMPTally.holding] using OrdMap.sumBy_nonneg hnonneg
  | some t => exact OrdMap.le_sumBy hnonneg (OrdMap.mem_of_find? hf)

/-- **`update_tally_map` keeps every holding in range**: the one tally it writes is the one
`updateMoney` returned. -/
theorem InRange.updateTallyMap {frozen : FrozenSet} {m m' : TallyMap} {who : Address}
    {p p' : PropertyId} {a : Int} {k : TallyType} {b : Bool} (h : m.InRange p')
    (hup : updateTallyMap frozen m who p a k = .ok (b, m')) : m'.InRange p' := by
  rcases updateTallyMap_ok hup with ⟨-, rfl, -⟩ | ⟨-, rfl⟩
  · exact h
  intro e he
  rcases OrdMap.mem_insertL he with rfl | he
  · exact (h.findD who).updateMoney p a k
  · exact h e he

end TallyMap

end WormholeCore
