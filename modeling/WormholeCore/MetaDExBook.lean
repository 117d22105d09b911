/-
# `WormholeCore.MetaDExBook` — the book invariant across the cancels.

The MetaDEx functions write into the book through pointers to one price level (`md_Set*`) and move
reserves with asserted tally updates. This module gives both their algebra:

* `levelAt`, `writeLevel` — the set of one level, and the book with that set replaced;
  `inBook_iff` reads the book's orders through them;
* `bookReserveOf_writeLevel`, `reserveOf_erase`, `reserveOf_insert` — how a rewrite of one level
  moves what the book reserves (new set minus old set), and `reserveOf_levelAt_le`: one level
  reserves at most what the book does;
* `returnReserve_spec` — returning an order's reserve to its owner's balance never fails under the
  supply bound, keeps every supply, and moves exactly the two counters.

## What is proved here

* `cancelOrders_spec`, `cancelLevels_spec`, `cancelProps_spec` — the walks of the cancels keep the
  reserve invariant relative to the rest of the book, only erase orders, keep every supply, and
  never fail;
* `metaDExCancelAtPrice_sound`, `metaDExCancelAllForPair_sound`, `metaDExCancelEverything_sound` —
  the three cancels succeed from every sound book (`MetaDExSound`), and keep it sound and every
  supply with its cached fees;
* `MetaDExSound.remaining_le_reserve` — in a sound book every order is covered by its owner's
  reserve; `MetaDExSound.emptyBook` — a node with nothing on the book is sound when its state is.
-/
import WormholeCore.MetaDEx
import WormholeCore.Fees

namespace WormholeCore

open Lib

/-! ## Asserted updates of any tally type -/

namespace OmniState

theorem assertUpdateTally_ok {s s' : OmniState} {who : Address} {p : PropertyId} {a : Int}
    {k : TallyType} (h : s.assertUpdateTally who p a k = .ok s') :
    ∃ m, updateTallyMap s.frozen s.tally who p a k = .ok (true, m) ∧ s' = { s with tally := m } :=
  assertUpdate_ok h

/-- A successful asserted update moves one counter by exactly the amount. -/
theorem money_assertUpdateTally {s s' : OmniState} {who : Address} {p : PropertyId} {a : Int}
    {k : TallyType} (h : s.assertUpdateTally who p a k = .ok s') (w : Address) (p' : PropertyId)
    (k' : TallyType) :
    s'.tally.money w p' k' =
      if w = who ∧ p' = p ∧ k' = k then s.tally.money w p' k' + a else s.tally.money w p' k' := by
  obtain ⟨m, hm, rfl⟩ := assertUpdateTally_ok h
  simpa using (money_updateTallyMap hm).2 w p' k'

theorem sumHolding_assertUpdateTally {s s' : OmniState} {who : Address} {p : PropertyId}
    {a : Int} {k : TallyType} (h : s.assertUpdateTally who p a k = .ok s') (hk : k ≠ .pending)
    (p' : PropertyId) :
    s'.tally.sumHolding p' = s.tally.sumHolding p' + if p' = p then a else 0 := by
  obtain ⟨m, hm, rfl⟩ := assertUpdateTally_ok h
  rw [sumHolding_updateTallyMap hm p']
  by_cases hp : p' = p <;> simp [hp, hk]

theorem Sound.assertUpdateTally {block : Int} {s s' : OmniState} {who : Address}
    {p : PropertyId} {a : Int} {k : TallyType} (hs : s.Sound block)
    (h : s.assertUpdateTally who p a k = .ok s') : s'.Sound block := by
  obtain ⟨m, hm, rfl⟩ := assertUpdateTally_ok h
  exact ⟨fun q => (hs.inRange q).updateTallyMap hm, hs.cached, hs.before⟩

theorem assertUpdateTally_frame {s s' : OmniState} {who : Address} {p : PropertyId} {a : Int}
    {k : TallyType} (h : s.assertUpdateTally who p a k = .ok s') :
    s'.stores = s.stores ∧ s'.feeCache = s.feeCache := by
  obtain ⟨m, -, rfl⟩ := assertUpdateTally_ok h
  exact ⟨rfl, rfl⟩

/-- **An update that keeps its counter in `[0, INT64_MAX]` goes through**, unless it debits a
frozen balance. -/
theorem assertUpdateTally_of_range {s : OmniState} {who : Address} {p : PropertyId} {a : Int}
    {k : TallyType} (hk : k ≠ .tallyTypeCount) (ha : a ≠ 0)
    (hcur : 0 ≤ s.tally.money who p k ∧ s.tally.money who p k ≤ int64Max)
    (hnew : 0 ≤ s.tally.money who p k + a ∧ s.tally.money who p k + a ≤ int64Max)
    (hfrozen : ¬(k = .balance ∧ a < 0 ∧ isAddressFrozen s.frozen who p = true)) :
    ∃ s', s.assertUpdateTally who p a k = .ok s' := by
  have hm := updateTallyMap_of_accepts (CMPTally.accepts_of_range hk ha hcur hnew) hfrozen
  exact ⟨_, by rw [assertUpdateTally, assertUpdate, hm]⟩

/-- The same for an update of `BALANCE`. -/
theorem assertUpdateTallyMap_of_range {s : OmniState} {who : Address} {p : PropertyId} {a : Int}
    (ha : a ≠ 0)
    (hcur : 0 ≤ s.tally.money who p .balance ∧ s.tally.money who p .balance ≤ int64Max)
    (hnew : 0 ≤ s.tally.money who p .balance + a ∧ s.tally.money who p .balance + a ≤ int64Max)
    (hfrozen : ¬(a < 0 ∧ isAddressFrozen s.frozen who p = true)) :
    ∃ s', s.assertUpdateTallyMap who p a = .ok s' := by
  have hm := updateTallyMap_of_accepts (CMPTally.accepts_of_range (by decide) ha hcur hnew)
    (fun h => hfrozen h.2)
  exact ⟨_, by rw [assertUpdateTallyMap, assertUpdate, hm]⟩

end OmniState

/-! ## Levels -/

/-- `metadex[p][q]`: the set of one price level, empty when there is none. -/
def levelAt (book : MdPropertiesMap) (p : PropertyId) (q : ℚ) : MdSet :=
  (book.findD p OrdMap.empty).findD q MdSet.empty

/-- The book with the set of one price level replaced: a write through `md_Set*`. -/
def writeLevel (book : MdPropertiesMap) (p : PropertyId) (q : ℚ) (indexes : MdSet) :
    MdPropertiesMap :=
  book.insert p ((book.findD p OrdMap.empty).insert q indexes)

@[simp] theorem levelAt_writeLevel (book : MdPropertiesMap) (p : PropertyId) (q : ℚ)
    (indexes : MdSet) (p' : PropertyId) (q' : ℚ) :
    levelAt (writeLevel book p q indexes) p' q' =
      if p = p' ∧ q = q' then indexes else levelAt book p' q' := by
  by_cases hp : p = p'
  · subst hp
    by_cases hq : q = q' <;> simp [levelAt, writeLevel, hq]
  · simp [levelAt, writeLevel, hp]

/-- **The orders of the book are the orders of its levels.** -/
theorem inBook_iff {book : MdPropertiesMap} {p : PropertyId} {q : ℚ} {o : CMPMetaDEx} :
    InBook book p q o ↔ o ∈ (levelAt book p q).orders.entries.map Prod.snd := by
  constructor
  · rintro ⟨prices, indexes, hp, hq, ho⟩
    simpa [levelAt, OrdMap.findD_eq, hp, hq] using ho
  · intro ho
    -- the empty set has no orders, so the level is in the book
    cases hp : book.find? p with
    | none => simp [levelAt, OrdMap.findD_eq, hp, MdSet.empty] at ho
    | some prices =>
      cases hq : prices.find? q with
      | none => simp [levelAt, OrdMap.findD_eq, hp, hq, MdSet.empty] at ho
      | some indexes =>
        exact ⟨prices, indexes, hp, hq, by simpa [levelAt, OrdMap.findD_eq, hp, hq] using ho⟩

theorem inBook_writeLevel {book : MdPropertiesMap} {p : PropertyId} {q : ℚ} {indexes : MdSet}
    {p' : PropertyId} {q' : ℚ} {o : CMPMetaDEx} :
    InBook (writeLevel book p q indexes) p' q' o ↔
      if p = p' ∧ q = q' then o ∈ indexes.orders.entries.map Prod.snd else InBook book p' q' o := by
  rw [inBook_iff, levelAt_writeLevel]
  split
  · rfl
  · exact inBook_iff.symm

/-! ## What a set reserves -/

namespace MdSet

theorem find?_erase (indexes : MdSet) (k k' : MdKey) :
    (indexes.erase k).orders.find? k' = if k = k' then none else indexes.orders.find? k' :=
  OrdMap.find?_erase _ k k'

/-- An order goes in exactly when its key is free, under its key. -/
theorem insert_eq_true {indexes : MdSet} {o : CMPMetaDEx} (h : indexes.orders.find? o.key = none) :
    indexes.insert o = (⟨indexes.orders.insert o.key o, fun e he => by
      rcases OrdMap.mem_insertL he with rfl | he
      · rfl
      · exact indexes.keyed e he⟩, true) := by
  rw [insert, if_neg (by simp [h])]

@[simp] theorem reserveOf_empty (a : Address) (p : PropertyId) : empty.reserveOf a p = 0 := rfl

/-- The weight of one order in what its set reserves. -/
def weight (a : Address) (p : PropertyId) (o : CMPMetaDEx) : Int :=
  if o.addr = a ∧ o.property = p then o.amountRemaining else 0

theorem reserveOf_erase {indexes : MdSet} {k : MdKey} {o : CMPMetaDEx}
    (h : indexes.orders.find? k = some o) (a : Address) (p : PropertyId) :
    (indexes.erase k).reserveOf a p = indexes.reserveOf a p - weight a p o := by
  rw [reserveOf, erase, OrdMap.sumBy_erase, h]
  rfl

theorem reserveOf_insert {indexes : MdSet} {o : CMPMetaDEx} (h : indexes.orders.find? o.key = none)
    (a : Address) (p : PropertyId) :
    (indexes.insert o).1.reserveOf a p = indexes.reserveOf a p + weight a p o := by
  rw [insert_eq_true h, reserveOf, OrdMap.sumBy_insert, h]
  simp only [Option.map_none, Option.getD_none, Int.sub_zero]
  rfl

/-- Orders with nothing negative left reserve nothing negative. -/
theorem reserveOf_nonneg {indexes : MdSet}
    (hpos : ∀ o ∈ indexes.orders.entries.map Prod.snd, 0 ≤ o.amountRemaining) (a : Address)
    (p : PropertyId) : 0 ≤ indexes.reserveOf a p := by
  apply OrdMap.sumBy_nonneg
  intro e he
  have := hpos e.2 (List.mem_map_of_mem he)
  split <;> omega

theorem weight_le_reserveOf {indexes : MdSet}
    (hpos : ∀ o ∈ indexes.orders.entries.map Prod.snd, 0 ≤ o.amountRemaining) {k : MdKey}
    {o : CMPMetaDEx} (h : (k, o) ∈ indexes.orders.entries) (a : Address) (p : PropertyId) :
    weight a p o ≤ indexes.reserveOf a p := by
  refine OrdMap.le_sumBy (f := fun _ o => weight a p o) (fun e he => ?_) h
  have := hpos e.2 (List.mem_map_of_mem he)
  simp only [weight]
  split <;> omega

end MdSet

/-! ## What the book reserves -/

theorem pricesReserveOf_nonneg {prices : MdPricesMap}
    (hpos : ∀ e ∈ prices.entries, ∀ o ∈ e.2.orders.entries.map Prod.snd, 0 ≤ o.amountRemaining)
    (a : Address) (p : PropertyId) : 0 ≤ pricesReserveOf a p prices :=
  OrdMap.sumBy_nonneg fun e he => MdSet.reserveOf_nonneg (hpos e he) a p

/-- **How a rewrite of one level moves what the book reserves**: the new set's reserve replaces
the old one's. -/
theorem bookReserveOf_writeLevel (book : MdPropertiesMap) (p : PropertyId) (q : ℚ)
    (indexes : MdSet) (a : Address) (p' : PropertyId) :
    bookReserveOf a p' (writeLevel book p q indexes) =
      bookReserveOf a p' book - (levelAt book p q).reserveOf a p' + indexes.reserveOf a p' := by
  unfold bookReserveOf writeLevel levelAt
  rw [OrdMap.sumBy_insert]
  -- the level map of `p`, before and after
  have hprices : pricesReserveOf a p' ((book.findD p OrdMap.empty).insert q indexes) =
      pricesReserveOf a p' (book.findD p OrdMap.empty) -
        ((book.findD p OrdMap.empty).findD q MdSet.empty).reserveOf a p' + indexes.reserveOf a p' := by
    unfold pricesReserveOf
    rw [OrdMap.sumBy_insert, OrdMap.findD_eq (book.findD p OrdMap.empty)]
    cases (book.findD p OrdMap.empty).find? q <;> simp
  rw [hprices, OrdMap.findD_eq book]
  cases book.find? p with
  | none => simp [pricesReserveOf, OrdMap.sumBy]
  | some prices => simp only [Option.map_some, Option.getD_some]; omega

/-- All the orders of a book have something left. -/
def BookPositive (book : MdPropertiesMap) : Prop :=
  ∀ p q o, InBook book p q o → 0 < o.amountRemaining

theorem bookReserveOf_nonneg {book : MdPropertiesMap} (hpos : BookPositive book) (a : Address)
    (p : PropertyId) : 0 ≤ bookReserveOf a p book := by
  apply OrdMap.sumBy_nonneg
  intro e he
  apply pricesReserveOf_nonneg
  intro e' he' o ho
  exact le_of_lt (hpos e.1 e'.1 o ⟨e.2, e'.2, OrdMap.find?_of_mem he, OrdMap.find?_of_mem he', ho⟩)

/-- **What one level reserves is at most what the book reserves.** -/
theorem reserveOf_levelAt_le {book : MdPropertiesMap} (hpos : BookPositive book) (p : PropertyId)
    (q : ℚ) (a : Address) (p' : PropertyId) :
    (levelAt book p q).reserveOf a p' ≤ bookReserveOf a p' book := by
  -- the rest of the book reserves what is left when the level is emptied
  have hrest : 0 ≤ bookReserveOf a p' (writeLevel book p q MdSet.empty) :=
    bookReserveOf_nonneg (fun p₁ q₁ o ho => by
      rw [inBook_writeLevel] at ho
      split at ho
      · simp [MdSet.empty] at ho
      · exact hpos p₁ q₁ o ho) a p'
  rw [bookReserveOf_writeLevel, MdSet.reserveOf_empty] at hrest
  omega

/-! ## Returning a reserve -/

/-- **Returning an order's reserve never fails** when the reserve covers what the order has left
and the supply of its property is within `INT64_MAX`: `METADEX_RESERVE` goes down and `BALANCE` up
by that amount, and nothing else moves. -/
theorem returnReserve_spec {block : Int} {s : OmniState} {o : CMPMetaDEx} (hs : s.Sound block)
    (hsupply : s.tally.sumHolding o.property ≤ int64Max) (hpos : 0 < o.amountRemaining)
    (hres : o.amountRemaining ≤ s.tally.money o.addr o.property .metadexReserve) :
    ∃ s', returnReserve s o = .ok s' ∧ s'.Sound block ∧ s'.stores = s.stores ∧
      s'.feeCache = s.feeCache ∧ (∀ p, s'.tally.sumHolding p = s.tally.sumHolding p) ∧
      ∀ a p k, s'.tally.money a p k = s.tally.money a p k +
        (if a = o.addr ∧ p = o.property ∧ k = .balance then o.amountRemaining else 0) -
        (if a = o.addr ∧ p = o.property ∧ k = .metadexReserve then o.amountRemaining else 0) := by
  have hres_mem := hs.money_mem o.addr o.property (k := .metadexReserve) (by decide)
  obtain ⟨s₁, h₁⟩ := OmniState.assertUpdateTally_of_range (s := s)
    (p := o.property) (a := -o.amountRemaining) (k := .metadexReserve) (by decide) (by omega)
    hres_mem ⟨by omega, by omega⟩ (by simp)
  have hs₁ := hs.assertUpdateTally h₁
  have hmoney₁ := OmniState.money_assertUpdateTally h₁
  -- the balance has room: with the reserve it is at most the holding, so at most the supply
  have hroom : s.tally.money o.addr o.property .balance + o.amountRemaining ≤ int64Max := by
    have hhold := TallyMap.holding_le_sumHolding (hs.inRange o.property) o.addr
    have h₂ := (hs.money_mem o.addr o.property (k := .sellofferReserve) (by decide)).1
    have h₃ := (hs.money_mem o.addr o.property (k := .acceptReserve) (by decide)).1
    rw [TallyMap.holding_eq] at hhold
    omega
  have hbal₁ : s₁.tally.money o.addr o.property .balance = s.tally.money o.addr o.property .balance := by
    rw [hmoney₁]
    simp
  obtain ⟨s₂, h₂⟩ := OmniState.assertUpdateTallyMap_of_range (s := s₁)
    (p := o.property) (a := o.amountRemaining) (by omega)
    (hs₁.money_mem o.addr o.property (k := .balance) (by decide))
    ⟨by rw [hbal₁]; have := (hs.money_mem o.addr o.property (k := .balance) (by decide)).1; omega,
      by rw [hbal₁]; exact hroom⟩ (by omega)
  have hrun : returnReserve s o = .ok s₂ := by
    rw [returnReserve, h₁]
    exact h₂
  refine ⟨s₂, hrun, hs₁.assertUpdateTallyMap h₂, ?_, ?_, fun p => ?_, fun a p k => ?_⟩
  · rw [(OmniState.assertUpdateTallyMap_frame h₂).1, (OmniState.assertUpdateTally_frame h₁).1]
  · rw [(OmniState.assertUpdateTallyMap_frame h₂).2, (OmniState.assertUpdateTally_frame h₁).2]
  · rw [OmniState.sumHolding_assertUpdateTallyMap h₂,
      OmniState.sumHolding_assertUpdateTally h₁ (by decide)]
    split <;> omega
  · rw [OmniState.money_assertUpdateTallyMap h₂, hmoney₁]
    by_cases hw : a = o.addr ∧ p = o.property
    · obtain ⟨rfl, rfl⟩ := hw
      cases k <;> simp [Int.sub_eq_add_neg]
    · have hb : ¬(a = o.addr ∧ p = o.property ∧ k = .balance) := fun h => hw ⟨h.1, h.2.1⟩
      have hr : ¬(a = o.addr ∧ p = o.property ∧ k = .metadexReserve) := fun h => hw ⟨h.1, h.2.1⟩
      rw [if_neg hb, if_neg hr, if_neg hb, if_neg hr]
      omega

/-! ## The walks of the cancels

Each walk is proved against what the rest of the book reserves, `R`: the tally's
`METADEX_RESERVE` is `R` plus what the part being walked reserves. -/

/-- `METADEX_RESERVE` is what the rest of the book reserves plus what `x` reserves. -/
def ReservedBy {α : Type} (R : Address → PropertyId → Int) (reserve : Address → PropertyId → α → Int)
    (x : α) (m : TallyMap) : Prop :=
  ∀ a p, m.money a p .metadexReserve = R a p + reserve a p x

/-- **The inner walk**: each picked order is erased and its reserve returned. It never fails, only
erases, and keeps the reserve invariant and every supply. -/
theorem cancelOrders_spec (cancels : CMPMetaDEx → Bool) {block : Int}
    (R : Address → PropertyId → Int) (hR : ∀ a p, 0 ≤ R a p) :
    ∀ (l : List (MdKey × CMPMetaDEx)) (indexes : MdSet) (s : OmniState) (found : Bool),
      l.Pairwise (fun e e' => e.1 < e'.1) → (∀ e ∈ l, indexes.orders.find? e.1 = some e.2) →
      (∀ o ∈ indexes.orders.entries.map Prod.snd, 0 < o.amountRemaining) →
      s.Sound block → (∀ p, s.tally.sumHolding p ≤ int64Max) →
      ReservedBy R MdSet.reserveOf indexes s.tally →
      ∃ r, cancelOrders cancels l (indexes, s, found) = .ok r ∧ r.2.1.Sound block ∧
        ReservedBy R MdSet.reserveOf r.1 r.2.1.tally ∧
        (∀ e ∈ r.1.orders.entries, e ∈ indexes.orders.entries) ∧
        r.2.1.stores = s.stores ∧ r.2.1.feeCache = s.feeCache ∧
        ∀ p, r.2.1.tally.sumHolding p = s.tally.sumHolding p := by
  intro l
  induction l with
  | nil =>
    intro indexes s found _ _ _ hs _ hres
    exact ⟨(indexes, s, found), rfl, hs, hres, fun _ h => h, rfl, rfl, fun _ => rfl⟩
  | cons e rest ih =>
    intro indexes s found hsorted hfind hpos hs hsupply hres
    obtain ⟨k, o⟩ := e
    obtain ⟨hlt, hsorted⟩ := List.pairwise_cons.1 hsorted
    have hko : indexes.orders.find? k = some o := hfind (k, o) List.mem_cons_self
    have hmem : (k, o) ∈ indexes.orders.entries := OrdMap.mem_of_find? hko
    have hrest : ∀ e ∈ rest, indexes.orders.find? e.1 = some e.2 :=
      fun e he => hfind e (List.mem_cons_of_mem _ he)
    by_cases hc : cancels o = true
    · -- the order is picked: its reserve goes back and it is erased
      have hopos : 0 < o.amountRemaining := hpos o (List.mem_map_of_mem hmem)
      have hw := MdSet.weight_le_reserveOf (fun o ho => le_of_lt (hpos o ho)) hmem o.addr o.property
      have hcover : o.amountRemaining ≤ s.tally.money o.addr o.property .metadexReserve := by
        rw [hres, MdSet.weight, if_pos ⟨rfl, rfl⟩] at *
        have := hR o.addr o.property
        omega
      obtain ⟨s₁, h₁, hs₁, hst₁, hfee₁, hsum₁, hmoney₁⟩ :=
        returnReserve_spec hs (hsupply o.property) hopos hcover
      have hres₁ : ReservedBy R MdSet.reserveOf (indexes.erase k) s₁.tally := by
        intro a p
        rw [hmoney₁, hres, MdSet.reserveOf_erase hko, MdSet.weight]
        by_cases hw : o.addr = a ∧ o.property = p
        · obtain ⟨rfl, rfl⟩ := hw
          simp
          omega
        · have hb : ¬(a = o.addr ∧ p = o.property ∧ TallyType.metadexReserve = .balance) :=
            fun h => hw ⟨h.1.symm, h.2.1.symm⟩
          have hr : ¬(a = o.addr ∧ p = o.property ∧ TallyType.metadexReserve = .metadexReserve) :=
            fun h => hw ⟨h.1.symm, h.2.1.symm⟩
          rw [if_neg hw, if_neg hb, if_neg hr]
          omega
      obtain ⟨r, hr, hsr, hresr, hsub, hstr, hfeer, hsumr⟩ := ih (indexes.erase k) s₁ true hsorted
        (fun e he => by
          rw [MdSet.find?_erase, if_neg (ne_of_lt (hlt e he)), hrest e he])
        (fun o' ho' => hpos o' (by
          obtain ⟨e, he, rfl⟩ := List.mem_map.1 ho'
          exact List.mem_map_of_mem (List.mem_of_mem_filter he)))
        hs₁ (fun p => (hsum₁ p).symm ▸ hsupply p) hres₁
      refine ⟨r, ?_, hsr, hresr, fun e he => List.mem_of_mem_filter (hsub e he), hstr.trans hst₁,
        hfeer.trans hfee₁, fun p => (hsumr p).trans (hsum₁ p)⟩
      rw [cancelOrders, if_pos hc, h₁]
      exact hr
    · -- the order is passed
      obtain ⟨r, hr, hrest'⟩ := ih indexes s found hsorted hrest hpos hs hsupply hres
      refine ⟨r, ?_, hrest'⟩
      rw [cancelOrders, if_neg hc]
      exact hr

/-- Every order of `book'` is an order of `book`, at the same property and level. -/
def Shrinks (book' book : MdPropertiesMap) : Prop :=
  ∀ p q o, InBook book' p q o → InBook book p q o

/-- **The walk over the levels of one property**: those `atPrice` picks go through the inner walk
and are written back. -/
theorem cancelLevels_spec (atPrice : ℚ → Bool) (cancels : CMPMetaDEx → Bool) {block : Int}
    (R : Address → PropertyId → Int) (hR : ∀ a p, 0 ≤ R a p) :
    ∀ (l : List (ℚ × MdSet)) (prices : MdPricesMap) (s : OmniState) (found : Bool),
      l.Pairwise (fun e e' => e.1 < e'.1) → (∀ e ∈ l, prices.find? e.1 = some e.2) →
      (∀ e ∈ prices.entries, ∀ o ∈ e.2.orders.entries.map Prod.snd, 0 < o.amountRemaining) →
      s.Sound block → (∀ p, s.tally.sumHolding p ≤ int64Max) →
      ReservedBy R pricesReserveOf prices s.tally →
      ∃ r, cancelLevels atPrice cancels l (prices, s, found) = .ok r ∧ r.2.1.Sound block ∧
        ReservedBy R pricesReserveOf r.1 r.2.1.tally ∧
        (∀ q S, r.1.find? q = some S →
          ∃ S₀, prices.find? q = some S₀ ∧ ∀ e ∈ S.orders.entries, e ∈ S₀.orders.entries) ∧
        r.2.1.stores = s.stores ∧ r.2.1.feeCache = s.feeCache ∧
        ∀ p, r.2.1.tally.sumHolding p = s.tally.sumHolding p := by
  intro l
  induction l with
  | nil =>
    intro prices s found _ _ _ hs _ hres
    exact ⟨(prices, s, found), rfl, hs, hres, fun q S h => ⟨S, h, fun _ he => he⟩, rfl, rfl,
      fun _ => rfl⟩
  | cons e rest ih =>
    intro prices s found hsorted hfind hpos hs hsupply hres
    obtain ⟨price, indexes⟩ := e
    obtain ⟨hlt, hsorted⟩ := List.pairwise_cons.1 hsorted
    have hprice : prices.find? price = some indexes := hfind (price, indexes) List.mem_cons_self
    have hmem : (price, indexes) ∈ prices.entries := OrdMap.mem_of_find? hprice
    have hrest : ∀ e ∈ rest, prices.find? e.1 = some e.2 :=
      fun e he => hfind e (List.mem_cons_of_mem _ he)
    by_cases hat : atPrice price = true
    · -- the level is walked; the other levels are the rest of the book for the inner walk
      have hothers : ∀ a p, pricesReserveOf a p prices - indexes.reserveOf a p =
          pricesReserveOf a p (prices.erase price) := by
        intro a p
        rw [pricesReserveOf, pricesReserveOf, OrdMap.sumBy_erase, hprice]
        rfl
      have hR' : ∀ a p, 0 ≤ R a p + (pricesReserveOf a p prices - indexes.reserveOf a p) := by
        intro a p
        rw [hothers]
        have : 0 ≤ pricesReserveOf a p (prices.erase price) := pricesReserveOf_nonneg
          (fun e he o ho => le_of_lt (hpos e (List.mem_of_mem_filter he) o ho)) a p
        have := hR a p
        omega
      obtain ⟨⟨indexes', s₁, found₁⟩, h₁, hs₁, hres₁, hsub₁, hst₁, hfee₁, hsum₁⟩ :=
        cancelOrders_spec cancels _ hR' indexes.orders.entries indexes s found indexes.orders.sorted
          (fun e he => OrdMap.find?_of_mem he) (hpos _ hmem) hs hsupply
          (fun a p => by rw [hres a p]; omega)
      have hprices₁ : ∀ a p, pricesReserveOf a p (prices.insert price indexes') =
          pricesReserveOf a p prices - indexes.reserveOf a p + indexes'.reserveOf a p := by
        intro a p
        rw [pricesReserveOf, OrdMap.sumBy_insert, hprice]
        rfl
      obtain ⟨r, hr, hsr, hresr, hsubr, hstr, hfeer, hsumr⟩ :=
        ih (prices.insert price indexes') s₁ found₁ hsorted
          (fun e he => by rw [OrdMap.find?_insert, if_neg (ne_of_lt (hlt e he)), hrest e he])
          (fun e he o ho => by
            rcases OrdMap.mem_insertL he with rfl | he
            · obtain ⟨e', he', rfl⟩ := List.mem_map.1 ho
              exact hpos _ hmem _ (List.mem_map_of_mem (hsub₁ e' he'))
            · exact hpos e he o ho)
          hs₁ (fun p => (hsum₁ p).symm ▸ hsupply p)
          (fun a p => by
            rw [hres₁ a p, hprices₁]
            dsimp only
            omega)
      refine ⟨r, ?_, hsr, hresr, fun q S hS => ?_, hstr.trans hst₁, hfeer.trans hfee₁,
        fun p => (hsumr p).trans (hsum₁ p)⟩
      · rw [cancelLevels, if_pos hat, h₁]
        exact hr
      · obtain ⟨S₀, hS₀, hsub⟩ := hsubr q S hS
        rw [OrdMap.find?_insert] at hS₀
        split at hS₀
        · rename_i hq
          cases hS₀
          exact ⟨indexes, hq ▸ hprice, fun e he => hsub₁ e (hsub e he)⟩
        · exact ⟨S₀, hS₀, hsub⟩
    · obtain ⟨r, hr, hrest'⟩ := ih prices s found hsorted hrest hpos hs hsupply hres
      refine ⟨r, ?_, hrest'⟩
      rw [cancelLevels, if_neg hat]
      exact hr

theorem BookPositive.of_shrinks {book book' : MdPropertiesMap} (hpos : BookPositive book)
    (h : Shrinks book' book) : BookPositive book' :=
  fun p q o ho => hpos p q o (h p q o ho)

/-- **The levels of one property walked and written back into the book**: the other properties
are the rest of the book for the walk. -/
theorem cancelLevels_book (atPrice : ℚ → Bool) (cancels : CMPMetaDEx → Bool) {block : Int}
    {book : MdPropertiesMap} {prop : PropertyId} {prices : MdPricesMap} {s : OmniState}
    (hprop : book.find? prop = some prices) (hpos : BookPositive book) (hs : s.Sound block)
    (hsupply : ∀ p, s.tally.sumHolding p ≤ int64Max)
    (hres : ∀ a p, s.tally.money a p .metadexReserve = bookReserveOf a p book) (found : Bool) :
    ∃ r, cancelLevels atPrice cancels prices.entries (prices, s, found) = .ok r ∧
      r.2.1.Sound block ∧
      (∀ a p, r.2.1.tally.money a p .metadexReserve = bookReserveOf a p (book.insert prop r.1)) ∧
      Shrinks (book.insert prop r.1) book ∧ r.2.1.stores = s.stores ∧
      r.2.1.feeCache = s.feeCache ∧ ∀ p, r.2.1.tally.sumHolding p = s.tally.sumHolding p := by
  have hothers : ∀ a p, bookReserveOf a p book - pricesReserveOf a p prices =
      bookReserveOf a p (book.erase prop) := by
    intro a p
    rw [bookReserveOf, bookReserveOf, OrdMap.sumBy_erase, hprop]
    rfl
  have hR : ∀ a p, 0 ≤ bookReserveOf a p book - pricesReserveOf a p prices := by
    intro a p
    rw [hothers]
    exact bookReserveOf_nonneg (fun p' q o ho => by
      obtain ⟨prices', indexes, hp', hq, ho⟩ := ho
      rw [OrdMap.find?_erase] at hp'
      split at hp'
      · cases hp'
      · exact hpos p' q o ⟨prices', indexes, hp', hq, ho⟩) a p
  obtain ⟨r, hr, hsr, hresr, hsub, hstr, hfeer, hsumr⟩ :=
    cancelLevels_spec atPrice cancels _ hR prices.entries prices s found prices.sorted
      (fun e he => OrdMap.find?_of_mem he)
      (fun e he o ho => hpos prop e.1 o ⟨prices, e.2, hprop, OrdMap.find?_of_mem he, ho⟩)
      hs hsupply (fun a p => by rw [hres a p]; omega)
  refine ⟨r, hr, hsr, fun a p => ?_, fun p q o ho => ?_, hstr, hfeer, hsumr⟩
  · rw [hresr a p, bookReserveOf, OrdMap.sumBy_insert, hprop]
    simp only [Option.map_some, Option.getD_some]
    unfold bookReserveOf
    omega
  · obtain ⟨prices₁, S, hp₁, hq, ho⟩ := ho
    rw [OrdMap.find?_insert] at hp₁
    split at hp₁
    · -- the walked property: its levels only lost orders
      rename_i hp
      cases hp₁
      obtain ⟨S₀, hS₀, hsubS⟩ := hsub q S hq
      obtain ⟨e, he, rfl⟩ := List.mem_map.1 ho
      exact ⟨prices, S₀, hp ▸ hprop, hS₀, List.mem_map_of_mem (hsubS e he)⟩
    · exact ⟨prices₁, S, hp₁, hq, ho⟩

/-- **The walk over the properties of the book**: every level of those `atProp` picks goes
through the inner walk, and the level maps are written back. -/
theorem cancelProps_spec (atProp : PropertyId → Bool) (cancels : CMPMetaDEx → Bool)
    {block : Int} :
    ∀ (l : List (PropertyId × MdPricesMap)) (book : MdPropertiesMap) (s : OmniState)
      (found : Bool),
      l.Pairwise (fun e e' => e.1 < e'.1) → (∀ e ∈ l, book.find? e.1 = some e.2) →
      BookPositive book → s.Sound block → (∀ p, s.tally.sumHolding p ≤ int64Max) →
      (∀ a p, s.tally.money a p .metadexReserve = bookReserveOf a p book) →
      ∃ r, cancelProps atProp cancels l (book, s, found) = .ok r ∧ r.2.1.Sound block ∧
        (∀ a p, r.2.1.tally.money a p .metadexReserve = bookReserveOf a p r.1) ∧
        Shrinks r.1 book ∧ r.2.1.stores = s.stores ∧ r.2.1.feeCache = s.feeCache ∧
        ∀ p, r.2.1.tally.sumHolding p = s.tally.sumHolding p := by
  intro l
  induction l with
  | nil =>
    intro book s found _ _ _ hs _ hres
    exact ⟨(book, s, found), rfl, hs, hres, fun _ _ _ h => h, rfl, rfl, fun _ => rfl⟩
  | cons e rest ih =>
    intro book s found hsorted hfind hpos hs hsupply hres
    obtain ⟨prop, prices⟩ := e
    obtain ⟨hlt, hsorted⟩ := List.pairwise_cons.1 hsorted
    have hprop : book.find? prop = some prices := hfind (prop, prices) List.mem_cons_self
    have hrest : ∀ e ∈ rest, book.find? e.1 = some e.2 :=
      fun e he => hfind e (List.mem_cons_of_mem _ he)
    by_cases hat : atProp prop = true
    · obtain ⟨⟨prices', s₁, found₁⟩, h₁, hs₁, hres₁, hsub₁, hst₁, hfee₁, hsum₁⟩ :=
        cancelLevels_book (fun _ => true) cancels hprop hpos hs hsupply hres found
      obtain ⟨r, hr, hsr, hresr, hsubr, hstr, hfeer, hsumr⟩ :=
        ih (book.insert prop prices') s₁ found₁ hsorted
          (fun e he => by rw [OrdMap.find?_insert, if_neg (ne_of_lt (hlt e he)), hrest e he])
          (hpos.of_shrinks hsub₁) hs₁ (fun p => (hsum₁ p).symm ▸ hsupply p) hres₁
      refine ⟨r, ?_, hsr, hresr, fun p q o ho => hsub₁ p q o (hsubr p q o ho), hstr.trans hst₁,
        hfeer.trans hfee₁, fun p => (hsumr p).trans (hsum₁ p)⟩
      rw [cancelProps, if_pos hat, h₁]
      exact hr
    · obtain ⟨r, hr, hrest'⟩ := ih book s found hsorted hrest hpos hs hsupply hres
      refine ⟨r, ?_, hrest'⟩
      rw [cancelProps, if_neg hat]
      exact hr

/-! ## Sound books -/

/-- **An order the matching can price**: it wants something (`0 < amount_desired`), and both
amounts fit the `int64_t` fields they came from. -/
def CMPMetaDEx.Priced (o : CMPMetaDEx) : Prop :=
  0 < o.amountDesired ∧ o.amountForsale ≤ int64Max ∧ o.amountDesired ≤ int64Max

/-- **A sound book and state at `block`**: the book invariant, every order priced, a sound state,
and every supply with its cached fees within `INT64_MAX`. -/
structure MetaDExSound (block : Int) (book : MdPropertiesMap) (s : OmniState) : Prop where
  inv : MetaDExInv book s.tally
  priced : ∀ p q o, InBook book p q o → o.Priced
  sound : s.Sound block
  supply : ∀ p, s.tally.sumHolding p + s.feeCache.getCachedAmount p ≤ int64Max

namespace MetaDExSound

variable {block : Int} {book : MdPropertiesMap} {s : OmniState}

theorem positive (h : MetaDExSound block book s) : BookPositive book :=
  fun p q o ho => (h.inv.shape p q o ho).2.2.1

theorem sumHolding_le (h : MetaDExSound block book s) (p : PropertyId) :
    s.tally.sumHolding p ≤ int64Max := by
  have := h.supply p
  have := h.sound.cached p
  omega

/-- What only erased orders and returned reserves keeps sound. -/
theorem of_shrinks (h : MetaDExSound block book s) {book' : MdPropertiesMap} {s' : OmniState}
    (hsub : Shrinks book' book) (hs' : s'.Sound block)
    (hres : ∀ a p, s'.tally.money a p .metadexReserve = bookReserveOf a p book')
    (hsum : ∀ p, s'.tally.sumHolding p = s.tally.sumHolding p) (hfee : s'.feeCache = s.feeCache) :
    MetaDExSound block book' s' :=
  ⟨⟨fun p q o ho => h.inv.shape p q o (hsub p q o ho), hres⟩,
    fun p q o ho => h.priced p q o (hsub p q o ho), hs',
    fun p => by rw [hsum p, hfee]; exact h.supply p⟩

/-- **An order of the book is covered by its owner's reserve.** -/
theorem remaining_le_reserve (h : MetaDExSound block book s) {p : PropertyId} {q : ℚ} {k : MdKey}
    {o : CMPMetaDEx} (hk : (levelAt book p q).orders.find? k = some o) :
    o.amountRemaining ≤ s.tally.money o.addr o.property .metadexReserve := by
  have hlevel : ∀ o' ∈ (levelAt book p q).orders.entries.map Prod.snd, 0 ≤ o'.amountRemaining :=
    fun o' ho' => le_of_lt (h.positive p q o' (inBook_iff.2 ho'))
  have hw := MdSet.weight_le_reserveOf hlevel (OrdMap.mem_of_find? hk) o.addr o.property
  have hl := reserveOf_levelAt_le h.positive p q o.addr o.property
  rw [MdSet.weight, if_pos ⟨rfl, rfl⟩] at hw
  rw [h.inv.reserve]
  omega

/-- **A node with nothing on the book is sound** when its state is, every supply with its cached
fees is within `INT64_MAX`, and nothing is reserved. -/
theorem emptyBook {s : OmniState} (hs : s.Sound block)
    (hsupply : ∀ p, s.tally.sumHolding p + s.feeCache.getCachedAmount p ≤ int64Max)
    (hres : ∀ a p, s.tally.money a p .metadexReserve = 0) :
    MetaDExSound block OrdMap.empty s := by
  have hnone : ∀ p q o, ¬InBook OrdMap.empty p q o := by
    rintro p q o ⟨prices, indexes, hp, -⟩
    simp at hp
  exact ⟨⟨fun p q o ho => absurd ho (hnone p q o), fun a p => by rw [hres]; rfl⟩,
    fun p q o ho => absurd ho (hnone p q o), hs, hsupply⟩

end MetaDExSound

/-! ## The cancels -/

/-- **`MetaDEx_CANCEL_AT_PRICE` keeps a book sound**: it succeeds, and every supply with its cached
fees is kept. -/
theorem metaDExCancelAtPrice_sound {block : Int} {book : MdPropertiesMap} {s : OmniState}
    (h : MetaDExSound block book s) (sender : Address) (prop : PropertyId) (amount : Int)
    (propertyDesired : PropertyId) (amountDesired : Int) :
    ∃ r, metaDExCancelAtPrice book s sender prop amount propertyDesired amountDesired = .ok r ∧
      MetaDExSound block r.2.1 r.2.2 ∧
      ∀ p, r.2.2.tally.sumHolding p + r.2.2.feeCache.getCachedAmount p =
        s.tally.sumHolding p + s.feeCache.getCachedAmount p := by
  unfold metaDExCancelAtPrice
  dsimp only
  cases hprop : book.find? prop with
  | none => exact ⟨_, rfl, h, fun _ => rfl⟩
  | some prices =>
    obtain ⟨⟨prices', s', found⟩, h₁, hs', hres', hsub, -, hfee, hsum⟩ :=
      cancelLevels_book (fun price => decide ((⟨0, 0, 0, prop, amount, propertyDesired, amountDesired,
          amount, sender⟩ : CMPMetaDEx).unitPrice = price))
        (fun o => decide (o.desiredProperty = propertyDesired) && decide (o.addr = sender))
        hprop h.positive h.sound h.sumHolding_le h.inv.reserve false
    dsimp only at hs' hres' hsub hfee hsum ⊢
    refine ⟨_, by rw [h₁]; rfl, h.of_shrinks hsub hs' hres' hsum hfee, fun p => ?_⟩
    rw [hsum p, hfee]

/-- **`MetaDEx_CANCEL_ALL_FOR_PAIR` keeps a book sound.** -/
theorem metaDExCancelAllForPair_sound {block : Int} {book : MdPropertiesMap} {s : OmniState}
    (h : MetaDExSound block book s) (sender : Address) (prop propertyDesired : PropertyId) :
    ∃ r, metaDExCancelAllForPair book s sender prop propertyDesired = .ok r ∧
      MetaDExSound block r.2.1 r.2.2 ∧
      ∀ p, r.2.2.tally.sumHolding p + r.2.2.feeCache.getCachedAmount p =
        s.tally.sumHolding p + s.feeCache.getCachedAmount p := by
  unfold metaDExCancelAllForPair
  dsimp only
  cases hprop : book.find? prop with
  | none => exact ⟨_, rfl, h, fun _ => rfl⟩
  | some prices =>
    obtain ⟨⟨prices', s', found⟩, h₁, hs', hres', hsub, -, hfee, hsum⟩ :=
      cancelLevels_book (fun _ => true)
        (fun o => decide (o.desiredProperty = propertyDesired) && decide (o.addr = sender))
        hprop h.positive h.sound h.sumHolding_le h.inv.reserve false
    dsimp only at hs' hres' hsub hfee hsum ⊢
    refine ⟨_, by rw [h₁]; rfl, h.of_shrinks hsub hs' hres' hsum hfee, fun p => ?_⟩
    rw [hsum p, hfee]

/-- **`MetaDEx_CANCEL_EVERYTHING` keeps a book sound.** -/
theorem metaDExCancelEverything_sound {block : Int} {book : MdPropertiesMap} {s : OmniState}
    (h : MetaDExSound block book s) (sender : Address) (ecosystem : Nat) :
    ∃ r, metaDExCancelEverything book s sender ecosystem = .ok r ∧
      MetaDExSound block r.2.1 r.2.2 ∧
      ∀ p, r.2.2.tally.sumHolding p + r.2.2.feeCache.getCachedAmount p =
        s.tally.sumHolding p + s.feeCache.getCachedAmount p := by
  obtain ⟨⟨book', s', found⟩, h₁, hs', hres', hsub, -, hfee, hsum⟩ :=
    cancelProps_spec (fun prop =>
        !(isMainEcosystemProperty ecosystem && !isMainEcosystemProperty prop) &&
          !(isTestEcosystemProperty ecosystem && !isTestEcosystemProperty prop))
      (fun o => decide (o.addr = sender)) book.entries book s false book.sorted
      (fun e he => OrdMap.find?_of_mem he) h.positive h.sound h.sumHolding_le h.inv.reserve
  dsimp only at hs' hres' hsub hfee hsum
  refine ⟨(if found then 0 else metadexError - 40, book', s'), ?_,
    h.of_shrinks hsub hs' hres' hsum hfee, fun p => ?_⟩
  · unfold metaDExCancelEverything
    dsimp only
    rw [h₁]
    rfl
  · dsimp only
    rw [hsum p, hfee]

end WormholeCore
