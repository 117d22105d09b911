/-
# `WormholeCore.Tally` — the balance records of one address (`CMPTally`, omnicore/tally.{h,cpp}).

A `CMPTally` maps property identifiers to a `BalanceRecord` of five `int64_t` counters, one per
`TallyType`. The map is a `std::map`, modelled by `Lib.OrdMap`, so that the STRUCTURE of a tally
(which properties have a record at all) is kept: `updateMoney` reads the counter through
`mp_token[propertyId]`, which inserts a zero record for an unseen property even when the update is
then refused.

## What is proved here

* `BalanceRecord.get_set` — the record is a five-slot array: a write touches one slot;
* `isOverflow_iff` — the overflow guard is EXACT: it fires iff the mathematical sum leaves the
  `int64_t` range (for an in-range left operand);
* `updateMoney_spec` — the whole contract of one update: when it reports success, which counter
  moved and by how much; and that every other counter, and on failure every counter, reads as
  before through `getMoney`;
* `InRange.updateMoney` — the counters a holding counts stay between `0` and `INT64_MAX` (`InRange`)
  across every update, which is what makes every holding of a tally non-negative.
-/
import WormholeCore.Basic
import WormholeCore.Lib.OrdMap
import Mathlib.Data.List.Forall2

namespace WormholeCore

open Lib

/-- `enum TallyType`, with the sentinel `TALLY_TYPE_COUNT` that the code range-checks against. -/
inductive TallyType
  | balance
  | sellofferReserve
  | acceptReserve
  | pending
  | metadexReserve
  | tallyTypeCount
deriving DecidableEq, Repr

/-- `BalanceRecord`: the `int64_t balance[TALLY_TYPE_COUNT]` array, one named slot per type. -/
structure BalanceRecord where
  balance : Int := 0
  sellofferReserve : Int := 0
  acceptReserve : Int := 0
  pending : Int := 0
  metadexReserve : Int := 0
deriving DecidableEq, Repr

namespace BalanceRecord

/-- `balance[ttype]`; the sentinel type has no slot and reads as zero. -/
def get (r : BalanceRecord) : TallyType → Int
  | .balance => r.balance
  | .sellofferReserve => r.sellofferReserve
  | .acceptReserve => r.acceptReserve
  | .pending => r.pending
  | .metadexReserve => r.metadexReserve
  | .tallyTypeCount => 0

/-- `balance[ttype] = v`. -/
def set (r : BalanceRecord) (t : TallyType) (v : Int) : BalanceRecord :=
  match t with
  | .balance => { r with balance := v }
  | .sellofferReserve => { r with sellofferReserve := v }
  | .acceptReserve => { r with acceptReserve := v }
  | .pending => { r with pending := v }
  | .metadexReserve => { r with metadexReserve := v }
  | .tallyTypeCount => r

@[simp] theorem get_set (r : BalanceRecord) (t t' : TallyType) (v : Int) :
    (r.set t v).get t' = if t = t' ∧ t ≠ .tallyTypeCount then v else r.get t' := by
  cases t <;> cases t' <;> simp [get, set]

@[simp] theorem get_default (t : TallyType) : (({} : BalanceRecord)).get t = 0 := by
  cases t <;> rfl

end BalanceRecord

/-- `CMPTally`: the balance records of one address, keyed by property. -/
structure CMPTally where
  mpToken : OrdMap PropertyId BalanceRecord := OrdMap.empty
deriving DecidableEq

namespace CMPTally

/-- `isOverflow(a, b)`: whether `a + b` leaves the `int64_t` range. -/
def isOverflow (a b : Int) : Bool :=
  (0 < b && int64Max - b < a) || (b < 0 && a < int64Min - b)

/-- `CMPTally::getMoney`. -/
def getMoney (t : CMPTally) (propertyId : PropertyId) (ttype : TallyType) : Int :=
  if ttype = .tallyTypeCount then 0
  else match t.mpToken.find? propertyId with
    | some record => record.get ttype
    | none => 0

/-- `CMPTally::updateMoney`. Returns the success flag and the updated tally. -/
def updateMoney (t : CMPTally) (propertyId : PropertyId) (amount : Int) (ttype : TallyType) :
    Bool × CMPTally :=
  if ttype = .tallyTypeCount ∨ amount = 0 then (false, t)
  else
    -- `mp_token[propertyId]` default-inserts a zero record before anything is checked
    let record := t.mpToken.findD propertyId ({} : BalanceRecord)
    let touched : CMPTally := ⟨t.mpToken.insert propertyId record⟩
    let now64 := record.get ttype
    if isOverflow now64 amount then (false, touched)
    else if ttype ≠ .pending ∧ now64 + amount < 0 then
      -- negative balances are only permitted for pending balances
      (false, touched)
    else (true, ⟨t.mpToken.insert propertyId (record.set ttype (now64 + amount))⟩)

/-- The four counters that make up an address's holding of a property (`CMPTally::print`'s sum,
and the per-address term of `getTotalTokens`). -/
def holding (t : CMPTally) (propertyId : PropertyId) : Int :=
  t.getMoney propertyId .balance + t.getMoney propertyId .sellofferReserve +
    t.getMoney propertyId .acceptReserve + t.getMoney propertyId .metadexReserve

theorem getMoney_eq (t : CMPTally) (propertyId : PropertyId) (ttype : TallyType) :
    t.getMoney propertyId ttype = ((t.mpToken.find? propertyId).getD ({} : BalanceRecord)).get ttype := by
  unfold getMoney
  cases ttype <;> cases t.mpToken.find? propertyId <;> simp [BalanceRecord.get]

@[simp] theorem getMoney_empty (propertyId : PropertyId) (ttype : TallyType) :
    ({} : CMPTally).getMoney propertyId ttype = 0 := by
  simp [getMoney_eq]

/-- The record a lookup defaults to reads as `getMoney`. -/
theorem findD_get (t : CMPTally) (p : PropertyId) (k : TallyType) :
    (t.mpToken.findD p ({} : BalanceRecord)).get k = t.getMoney p k := by
  simp [getMoney_eq, OrdMap.findD_eq]

/-- Inserting the record a lookup would default to changes no reading. -/
theorem getMoney_touch (t : CMPTally) (p p' : PropertyId) (ttype : TallyType) :
    (⟨t.mpToken.insert p (t.mpToken.findD p ({} : BalanceRecord))⟩ : CMPTally).getMoney p' ttype =
      t.getMoney p' ttype := by
  simp only [getMoney_eq, OrdMap.find?_insert, OrdMap.findD_eq]
  by_cases h : p = p' <;> simp [h]

/-- Writing slot `k` of the record of `p` moves exactly that reading. -/
theorem getMoney_write (t : CMPTally) (p p' : PropertyId) (k k' : TallyType) (v : Int)
    (hk : k ≠ .tallyTypeCount) :
    (⟨t.mpToken.insert p ((t.mpToken.findD p ({} : BalanceRecord)).set k v)⟩ : CMPTally).getMoney
        p' k' = if p = p' ∧ k = k' then v else t.getMoney p' k' := by
  simp only [getMoney_eq, OrdMap.find?_insert, OrdMap.findD_eq]
  by_cases h : p = p'
  · subst h
    by_cases hkk : k = k'
    · subst hkk; simp [hk]
    · simp [hkk]
  · simp [h]

/-- **The overflow guard is exact.** For `a` in the `int64_t` range, `isOverflow a b` holds iff
`a + b` is outside it. -/
theorem isOverflow_iff {a b : Int} (ha : int64Min ≤ a ∧ a ≤ int64Max) :
    isOverflow a b = true ↔ a + b < int64Min ∨ int64Max < a + b := by
  unfold isOverflow int64Max int64Min at *
  by_cases hb : 0 < b
  · have : ¬b < 0 := by omega
    simp [hb, this]
    omega
  · by_cases hb' : b < 0
    · simp [hb, hb']
      omega
    · simp [hb, hb']
      omega

/-- Whether `updateMoney` accepts an update: the four conditions of its contract. -/
def accepts (t : CMPTally) (propertyId : PropertyId) (amount : Int) (ttype : TallyType) : Prop :=
  ttype ≠ .tallyTypeCount ∧ amount ≠ 0 ∧ isOverflow (t.getMoney propertyId ttype) amount = false ∧
    (ttype = .pending ∨ 0 ≤ t.getMoney propertyId ttype + amount)

instance (t : CMPTally) (p : PropertyId) (a : Int) (k : TallyType) : Decidable (t.accepts p a k) := by
  unfold accepts; infer_instance

/-- **An update that keeps its counter in `[0, INT64_MAX]` is accepted**, from a counter in that
range: the overflow guard is exact (`isOverflow_iff`). -/
theorem accepts_of_range {t : CMPTally} {p : PropertyId} {a : Int} {k : TallyType}
    (hk : k ≠ .tallyTypeCount) (ha : a ≠ 0) (hcur : 0 ≤ t.getMoney p k ∧ t.getMoney p k ≤ int64Max)
    (hnew : 0 ≤ t.getMoney p k + a ∧ t.getMoney p k + a ≤ int64Max) : t.accepts p a k := by
  refine ⟨hk, ha, ?_, .inr hnew.1⟩
  have hmin : int64Min ≤ 0 := by decide
  cases hov : isOverflow (t.getMoney p k) a
  · rfl
  · have hout := (isOverflow_iff ⟨le_trans hmin hcur.1, hcur.2⟩).1 hov
    omega

/-- An accepted update writes `getMoney + amount` into its slot. -/
theorem updateMoney_of_accepts {t : CMPTally} {p : PropertyId} {a : Int} {k : TallyType}
    (h : t.accepts p a k) :
    t.updateMoney p a k =
      (true, ⟨t.mpToken.insert p ((t.mpToken.findD p ({} : BalanceRecord)).set k (t.getMoney p k + a))⟩) := by
  obtain ⟨hc, ha, hov, hpos⟩ := h
  have hneg : ¬(k ≠ .pending ∧ t.getMoney p k + a < 0) := by
    rintro ⟨hk, hlt⟩
    rcases hpos with hp | hp
    · exact hk hp
    · omega
  have h0 : ¬(k = .tallyTypeCount ∨ a = 0) := by tauto
  simp only [updateMoney, h0, if_false, findD_get, hov, Bool.false_eq_true, hneg]

/-- **What a refused update leaves**: past the first guard, the tally with `mp_token[propertyId]`
made present, holding the record it held or a zero record. -/
theorem updateMoney_refused {t : CMPTally} {p : PropertyId} {a : Int} {k : TallyType}
    (hk : k ≠ .tallyTypeCount) (ha : a ≠ 0) (h : ¬t.accepts p a k) :
    t.updateMoney p a k = (false, ⟨t.mpToken.insert p (t.mpToken.findD p ({} : BalanceRecord))⟩) := by
  have h0 : ¬(k = .tallyTypeCount ∨ a = 0) := by tauto
  by_cases hov : isOverflow (t.getMoney p k) a = true
  · -- the overflow guard fires after the zero record was inserted
    simp only [updateMoney, h0, if_false, findD_get, hov, if_true]
  · have hov' : isOverflow (t.getMoney p k) a = false := by simpa using hov
    have hneg : k ≠ .pending ∧ t.getMoney p k + a < 0 := by
      by_contra hn
      apply h
      refine ⟨hk, ha, hov', ?_⟩
      by_cases hp : k = .pending
      · exact .inl hp
      · exact .inr (by by_contra hlt; exact hn ⟨hp, by omega⟩)
    -- the balance would go negative: refused after the zero record was inserted
    simp only [updateMoney, h0, if_false, findD_get, hov', Bool.false_eq_true]
    rw [if_pos hneg]

/-- A refused update reports failure and changes no reading (it may still have inserted the zero
record of an unseen property). -/
theorem updateMoney_of_not_accepts {t : CMPTally} {p : PropertyId} {a : Int} {k : TallyType}
    (h : ¬t.accepts p a k) :
    (t.updateMoney p a k).1 = false ∧
      ∀ p' k', (t.updateMoney p a k).2.getMoney p' k' = t.getMoney p' k' := by
  by_cases h0 : k = .tallyTypeCount ∨ a = 0
  · simp [updateMoney, h0]
  · rw [updateMoney_refused (fun hk => h0 (.inl hk)) (fun ha => h0 (.inr ha)) h]
    exact ⟨rfl, fun p' k' => getMoney_touch t p p' k'⟩

/-- **The contract of `updateMoney`.** It succeeds exactly when `accepts` holds; afterwards the one
counter `(propertyId, ttype)` has moved by `amount` if it succeeded, and every reading is otherwise
unchanged. -/
theorem updateMoney_spec (t : CMPTally) (propertyId : PropertyId) (amount : Int)
    (ttype : TallyType) :
    (t.updateMoney propertyId amount ttype).1 = decide (t.accepts propertyId amount ttype) ∧
      ∀ p k, (t.updateMoney propertyId amount ttype).2.getMoney p k =
        if t.accepts propertyId amount ttype ∧ p = propertyId ∧ k = ttype
        then t.getMoney p k + amount else t.getMoney p k := by
  by_cases h : t.accepts propertyId amount ttype
  · rw [updateMoney_of_accepts h]
    refine ⟨by simp [h], fun p k => ?_⟩
    rw [getMoney_write _ _ _ _ _ _ h.1]
    by_cases hp : propertyId = p
    · subst hp
      by_cases hk : ttype = k
      · subst hk; simp [h]
      · simp [h, hk, Ne.symm hk]
    · simp [hp, Ne.symm hp]
  · obtain ⟨h1, h2⟩ := updateMoney_of_not_accepts h
    exact ⟨by simp [h1, h], fun p k => by simp [h2, h]⟩

/-- How one update moves the holding of a property: by `amount` when it was accepted on one of
the four counted types of that property, not at all otherwise. -/
theorem holding_updateMoney (t : CMPTally) (p : PropertyId) (a : Int) (k : TallyType)
    (p' : PropertyId) :
    (t.updateMoney p a k).2.holding p' =
      t.holding p' + if t.accepts p a k ∧ p' = p ∧ k ≠ .pending then a else 0 := by
  have hs := (updateMoney_spec t p a k).2
  unfold holding
  rw [hs, hs, hs, hs]
  by_cases hacc : t.accepts p a k
  · have hk : k ≠ .tallyTypeCount := hacc.1
    by_cases hp : p' = p
    · subst hp
      cases k <;> simp_all <;> omega
    · simp [hp]
  · simp [hacc]

/-! ## The range of the counted balances -/

/-- The four tally types a holding counts; `PENDING`, the one left out, is the one `updateMoney`
lets go negative. -/
def countedTypes : List TallyType := [.balance, .sellofferReserve, .acceptReserve, .metadexReserve]

/-- **The readings `updateMoney` keeps a property in**: every counted type between `0` and
`INT64_MAX`. -/
def InRange (t : CMPTally) (p : PropertyId) : Prop :=
  ∀ k ∈ countedTypes, 0 ≤ t.getMoney p k ∧ t.getMoney p k ≤ int64Max

instance (t : CMPTally) (p : PropertyId) : Decidable (t.InRange p) :=
  inferInstanceAs (Decidable (∀ k ∈ countedTypes, 0 ≤ t.getMoney p k ∧ t.getMoney p k ≤ int64Max))

theorem inRange_empty (p : PropertyId) : ({} : CMPTally).InRange p := by
  intro k _
  simp [int64Max]

theorem InRange.holding_nonneg {t : CMPTally} {p : PropertyId} (h : t.InRange p) :
    0 ≤ t.holding p := by
  have h₁ := (h .balance (by simp [countedTypes])).1
  have h₂ := (h .sellofferReserve (by simp [countedTypes])).1
  have h₃ := (h .acceptReserve (by simp [countedTypes])).1
  have h₄ := (h .metadexReserve (by simp [countedTypes])).1
  unfold holding
  omega

/-- **`updateMoney` keeps every property in range**: the overflow guard keeps a counter at most
`INT64_MAX`, and only a `PENDING` counter may be taken below zero. -/
theorem InRange.updateMoney {t : CMPTally} {p' : PropertyId} (h : t.InRange p') (p : PropertyId)
    (a : Int) (k : TallyType) : (t.updateMoney p a k).2.InRange p' := by
  intro k' hk'
  rw [(updateMoney_spec t p a k).2 p' k']
  split_ifs with hacc
  · obtain ⟨⟨-, -, hov, hneg⟩, rfl, rfl⟩ := hacc
    have hk : k' ≠ .pending := by
      rintro rfl
      simp [countedTypes] at hk'
    obtain ⟨h0, hmax⟩ := h k' hk'
    -- the guard passed, so the sum stays in the `int64_t` range
    have hin : ¬(t.getMoney p' k' + a < int64Min ∨ int64Max < t.getMoney p' k' + a) := by
      rw [← isOverflow_iff ⟨le_trans (by decide) h0, hmax⟩, hov]
      decide
    rcases hneg with hp | hpos
    · exact absurd hp hk
    · omega
  · exact h k' hk'

/-! ## Equality of tallies and the failure side of `updateMoney` -/

/-- The tally types `operator==` compares, `0` to `TALLY_TYPE_COUNT - 1`. -/
def tallyTypes : List TallyType :=
  [.balance, .sellofferReserve, .acceptReserve, .pending, .metadexReserve]

/-- One step of the walk of `operator==`: the same property, and the same counter of every type. -/
def entryEq (e₁ e₂ : PropertyId × BalanceRecord) : Bool :=
  e₁.1 = e₂.1 && tallyTypes.all fun k => e₁.2.get k = e₂.2.get k

/-- **`CMPTally::operator==`**: as many records, and walking both maps in step, equal entries. -/
def beq (t rhs : CMPTally) : Bool :=
  if t.mpToken.size ≠ rhs.mpToken.size then false
  else (t.mpToken.entries.zip rhs.mpToken.entries).all fun e => entryEq e.1 e.2

/-- A record is its five counters. -/
theorem eq_of_get {r r' : BalanceRecord} (h : ∀ k ∈ tallyTypes, r.get k = r'.get k) : r = r' := by
  obtain ⟨b, s, a, p, m⟩ := r
  obtain ⟨b', s', a', p', m'⟩ := r'
  have hb := h .balance (by simp [tallyTypes])
  have hs := h .sellofferReserve (by simp [tallyTypes])
  have ha := h .acceptReserve (by simp [tallyTypes])
  have hp := h .pending (by simp [tallyTypes])
  have hm := h .metadexReserve (by simp [tallyTypes])
  simp only [BalanceRecord.get] at hb hs ha hp hm
  subst hb hs ha hp hm
  rfl

theorem entryEq_iff (e₁ e₂ : PropertyId × BalanceRecord) : entryEq e₁ e₂ = true ↔ e₁ = e₂ := by
  unfold entryEq
  rw [Bool.and_eq_true, decide_eq_true_iff, List.all_eq_true]
  constructor
  · rintro ⟨hp, hk⟩
    exact Prod.ext hp (eq_of_get fun k hk' => by simpa using hk k hk')
  · rintro rfl
    exact ⟨rfl, fun k _ => by simp⟩

/-- A tally is its list of entries. -/
theorem eq_iff_entries (t rhs : CMPTally) : t = rhs ↔ t.mpToken.entries = rhs.mpToken.entries := by
  constructor
  · rintro rfl
    rfl
  · obtain ⟨⟨l, hl⟩⟩ := t
    obtain ⟨⟨l', hl'⟩⟩ := rhs
    rintro (rfl : l = l')
    rfl

/-- **`operator==` is equality of tallies**: the same records under the same properties. -/
theorem beq_eq_true_iff (t rhs : CMPTally) : t.beq rhs = true ↔ t = rhs := by
  rw [eq_iff_entries, ← congrFun (congrFun List.forall₂_eq_eq_eq _) _, List.forall₂_iff_zip]
  unfold beq OrdMap.size
  split
  · rename_i hsize
    simp only [Bool.false_eq_true, false_iff, not_and]
    exact fun hlen => absurd hlen hsize
  · rename_i hsize
    rw [List.all_eq_true]
    constructor
    · intro hall
      exact ⟨not_not.mp hsize, fun hab => (entryEq_iff _ _).mp (hall _ hab)⟩
    · rintro ⟨_, hzip⟩ e he
      exact (entryEq_iff _ _).mpr (hzip he)

theorem updateMoney_refused_breaks_equality {t : CMPTally} {p : PropertyId} {a : Int}
    {k : TallyType} (hnone : t.mpToken.find? p = none) (hk : k ≠ .tallyTypeCount) (ha : a ≠ 0)
    (h : ¬t.accepts p a k) :
    (t.updateMoney p a k).1 = false ∧ (t.updateMoney p a k).2.beq t = false := by
  rw [updateMoney_refused hk ha h]
  refine ⟨rfl, ?_⟩
  cases hbeq : beq ⟨t.mpToken.insert p (t.mpToken.findD p ({} : BalanceRecord))⟩ t
  · rfl
  · -- equal tallies would agree on `p`, where only the updated one has a record
    have hfind := congrArg (fun t : CMPTally => t.mpToken.find? p) ((beq_eq_true_iff _ _).mp hbeq)
    simp only [OrdMap.find?_insert_self, hnone] at hfind
    cases hfind

/-- A debit of `5` from an empty tally. -/
theorem emptyTally_debit_refused :
    (({} : CMPTally).updateMoney 3 (-5) .balance).1 = false ∧
      (({} : CMPTally).updateMoney 3 (-5) .balance).2.beq {} = false :=
  updateMoney_refused_breaks_equality rfl (by decide) (by decide) (by decide)

end CMPTally

end WormholeCore
