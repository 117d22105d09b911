/-
# `WormholeCore.Sto` — the receivers of a distribution (`STO_GetReceivers`, sto.{h,cpp}).

Send-to-owners and the fee distribution of the fee cache both split an amount between the holders
of a property with `STO_GetReceivers`:

1. walk the tally map; every address other than the sender and not frozen for the distributed
   property contributes its holding to `totalTokens`, and joins the owner set if the holding is
   positive. Both sums are `int64_t` and nothing checks them: past `INT64_MAX` they wrap
   (`stoTokens`, `int64Wrap`);
2. walk the owners from the largest holding down, give each `⌈owns * amount / totalTokens⌉`
   (in `arith_uint256`, through `ConvertTo256`, `DivideAndRoundUp`, `ConvertTo64`), capped by what
   is left, and stop at the first owner who would receive nothing.

The owner and receiver sets are `OwnerAddrType`, a `std::set` ordered by `SendToOwners_compare`
(by amount, and between equal amounts by address in reverse). Every loop of the source walks them
from `rbegin` to `rend`, so the model keeps each set as the list of its elements in that order.

## What is proved here

* `mem_ownerInsert` — the set insertion keeps exactly the old elements and the new one;
* `stoSplit_spec` — what the split hands out: positive amounts to the walked owners, at most the
  amount in total;
* `stoSplit_error` — the split fails only with the asserts of the conversions, a division by
  zero, or its own frozen-receiver assert;
* `stoGetReceivers_spec` — every receiver has positive `tokens`, is not the sender and is not
  frozen for the distributed property, and the amounts are positive and add up to at most `amount`;
* `foldl_stoCollect` — where the counted holdings fit `int64_t`, nothing wraps: the owners are
  distinct and add up to the total;
* `stoGetReceivers_exact` — then the receivers are an exact split of `amount`.
-/
import WormholeCore.Ledger
import WormholeCore.Crowd
import WormholeCore.Lib.ProRata
import Mathlib.Data.Rat.Floor
import Mathlib.Algebra.BigOperators.Ring.Finset

namespace WormholeCore

open Lib

/-- `SendToOwners_compare`: by amount, and between equal amounts by address in reverse. -/
def stoLt (p1 p2 : Int × Address) : Bool :=
  if p1.1 = p2.1 then decide (p2.2 < p1.2) else decide (p1.1 < p2.1)

/-- `OwnerAddrType`: a set of `(amount, address)` pairs, as the list of its elements from `rbegin`
to `rend` (largest first). -/
abbrev OwnerAddrType := List (Int × Address)

/-- `OwnerAddrType::insert`: walk past the larger elements, and keep the set unchanged when an
equivalent element is present. -/
def ownerInsert (e : Int × Address) : OwnerAddrType → OwnerAddrType
  | [] => [e]
  | x :: xs =>
    if stoLt x e then e :: x :: xs
    else if stoLt e x then x :: ownerInsert e xs
    else x :: xs

/-- Neither of two pairs is below the other only when they are equal. -/
theorem eq_of_not_stoLt {e x : Int × Address} (h1 : stoLt x e = false) (h2 : stoLt e x = false) :
    x = e := by
  obtain ⟨a, s⟩ := e
  obtain ⟨b, t⟩ := x
  unfold stoLt at h1 h2
  by_cases hab : b = a
  · subst hab
    rw [if_pos rfl, decide_eq_false_iff_not, not_lt] at h1 h2
    have hst : t = s := le_antisymm h1 h2
    rw [hst]
  · rw [if_neg hab, decide_eq_false_iff_not] at h1
    rw [if_neg (Ne.symm hab), decide_eq_false_iff_not] at h2
    omega

/-- **The set insertion**: the elements after inserting `e` are the old ones and `e`. -/
theorem mem_ownerInsert (e y : Int × Address) :
    ∀ l : OwnerAddrType, y ∈ ownerInsert e l ↔ y = e ∨ y ∈ l
  | [] => by simp [ownerInsert]
  | x :: xs => by
    unfold ownerInsert
    by_cases h1 : stoLt x e
    · simp [h1]
    by_cases h2 : stoLt e x
    · simp only [h1, h2, if_true, Bool.false_eq_true, if_false, List.mem_cons, mem_ownerInsert e y xs]
      tauto
    · have hxe := eq_of_not_stoLt (Bool.eq_false_iff.mpr h1) (Bool.eq_false_iff.mpr h2)
      subst hxe
      simp [h1]

/-- The amounts of a set add up to at most the amounts of the set with one more element. -/
theorem sum_ownerInsert (e : Int × Address) :
    ∀ l : OwnerAddrType, ((ownerInsert e l).map Prod.fst).sum ≤ e.1 + (l.map Prod.fst).sum ∨
      ((ownerInsert e l).map Prod.fst).sum = (l.map Prod.fst).sum
  | [] => .inl (by simp [ownerInsert])
  | x :: xs => by
    unfold ownerInsert
    by_cases h1 : stoLt x e
    · simp [h1]
    by_cases h2 : stoLt e x
    · simp only [h1, h2, if_true, Bool.false_eq_true, if_false, List.map_cons, List.sum_cons]
      rcases sum_ownerInsert e xs with h | h
      · exact .inl (by omega)
      · exact .inr (by omega)
    · simp [h1, h2]

/-- **Inserting a new element** gives the set with that element added. -/
theorem perm_ownerInsert {e : Int × Address} :
    ∀ {l : OwnerAddrType}, e ∉ l → (ownerInsert e l).Perm (e :: l)
  | [], _ => List.Perm.refl _
  | x :: xs, he => by
    unfold ownerInsert
    by_cases h1 : stoLt x e
    · rw [if_pos h1]
    by_cases h2 : stoLt e x
    · rw [if_neg h1, if_pos h2]
      have hxs : e ∉ xs := fun h => he (List.mem_cons_of_mem x h)
      exact ((perm_ownerInsert hxs).cons x).trans (List.Perm.swap e x xs)
    · -- neither is below the other: `e` was already there
      have hxe := eq_of_not_stoLt (Bool.eq_false_iff.mpr h1) (Bool.eq_false_iff.mpr h2)
      exact absurd (hxe ▸ List.mem_cons_self) he

/-- The split loop of `STO_GetReceivers`: the owners are walked largest first with the amount
already handed out; each gets its rounded-up share, capped by what is left, and the walk stops at
the first owner who would get nothing. The `assert` on a frozen receiver is kept. -/
def stoSplit (frozen : FrozenSet) (propertyWillBeDistribute : PropertyId) (amount totalTokens : Int) :
    OwnerAddrType → Int → OwnerAddrType → Except String OwnerAddrType
  | [], _, receivers => pure receivers
  | (owns, address) :: rest, sentSoFar, receivers => do
    let owns256 ← convertTo256 owns
    let amount256 ← convertTo256 amount
    let temp := Word256.mul owns256 amount256
    let total256 ← convertTo256 totalTokens
    let piece ← divideAndRoundUp temp total256
    let shouldReceive ← convertTo64 piece
    -- ensure that no more than available is distributed
    let willReallyReceive :=
      if amount - sentSoFar < shouldReceive then amount - sentSoFar else shouldReceive
    if 0 < willReallyReceive then
      if isAddressFrozen frozen address propertyWillBeDistribute then
        throw "STO_GetReceivers: assert(!isAddressFrozen(address, property_will_be_distribute))"
      else
        stoSplit frozen propertyWillBeDistribute amount totalTokens rest (sentSoFar + willReallyReceive)
          (ownerInsert (willReallyReceive, address) receivers)
    else pure receivers

/-- `int64_t tokens` of the tally walk: the four counted counters of `property`, added one by one
in `int64_t`. -/
def stoTokens (t : CMPTally) (property : PropertyId) : Int :=
  CMPTally.countedTypes.foldl (fun tokens k => int64Wrap (tokens + t.getMoney property k)) 0

/-- One address of the tally walk: the sender is skipped, an address frozen for the distributed
property counts for nothing, any other adds its `tokens` to the `int64_t` total and, if they are
positive, joins the owners. -/
def stoCollect (frozen : FrozenSet) (sender : Address) (property propertyWillBeDistribute : PropertyId)
    (acc : Int × OwnerAddrType) (e : Address × CMPTally) : Int × OwnerAddrType :=
  let tokens := stoTokens e.2 property
  if e.1 = sender then acc
  else if isAddressFrozen frozen e.1 propertyWillBeDistribute then acc
  else (int64Wrap (acc.1 + tokens), if 0 < tokens then ownerInsert (tokens, e.1) acc.2 else acc.2)

/-- **`STO_GetReceivers(sender, property, amount, block, property_will_be_distribute)`**: the
receivers of `amount`, split in proportion to the holdings of `property`. -/
def stoGetReceivers (m : TallyMap) (frozen : FrozenSet) (sender : Address) (property : PropertyId)
    (amount : Int) (propertyWillBeDistribute : PropertyId) : Except String OwnerAddrType :=
  let collected := m.entries.foldl (stoCollect frozen sender property propertyWillBeDistribute) (0, [])
  stoSplit frozen propertyWillBeDistribute amount collected.1 collected.2 0 []

/-! ## What a split hands out -/

/-- **The split loop.** Starting from receivers with positive amounts adding up to at most
`sentSoFar`, the loop ends with receivers that are those or walked owners not frozen for the
distributed property, all with positive amounts; if `sentSoFar ≤ amount`, they add up to at most
`amount`. -/
theorem stoSplit_spec (frozen : FrozenSet) (pwd : PropertyId) (amount totalTokens : Int) :
    ∀ (owners : OwnerAddrType) (sentSoFar : Int) (receivers result : OwnerAddrType),
      stoSplit frozen pwd amount totalTokens owners sentSoFar receivers = .ok result →
      (∀ r ∈ receivers, 0 < r.1) → (receivers.map Prod.fst).sum ≤ sentSoFar →
      (∀ r ∈ result, 0 < r.1 ∧ (r ∈ receivers ∨ ∃ o ∈ owners, o.2 = r.2 ∧
          isAddressFrozen frozen r.2 pwd = false)) ∧
        (sentSoFar ≤ amount → (result.map Prod.fst).sum ≤ amount)
  | [], sentSoFar, receivers, result, h, hpos, hsum => by
    simp only [stoSplit, Except.pure_eq_ok] at h
    subst h
    exact ⟨fun r hr => ⟨hpos r hr, .inl hr⟩, fun hle => le_trans hsum hle⟩
  | (owns, address) :: rest, sentSoFar, receivers, result, h, hpos, hsum => by
    simp only [stoSplit, Except.bind_eq_ok] at h
    -- the conversions all succeeded
    obtain ⟨-, -, -, -, -, -, -, -, shouldReceive, -, h⟩ := h
    set w := if amount - sentSoFar < shouldReceive then amount - sentSoFar else shouldReceive with hw
    have hwle : w ≤ amount - sentSoFar := by
      rw [hw]
      split_ifs <;> omega
    by_cases hw0 : 0 < w
    · rw [if_pos hw0] at h
      by_cases hfz : isAddressFrozen frozen address pwd = true
      · rw [if_pos hfz] at h
        cases h
      rw [if_neg hfz] at h
      have hpos' : ∀ r ∈ ownerInsert (w, address) receivers, 0 < r.1 := by
        intro r hr
        rcases (mem_ownerInsert _ r receivers).mp hr with rfl | hr
        · exact hw0
        · exact hpos r hr
      have hsum' : ((ownerInsert (w, address) receivers).map Prod.fst).sum ≤ sentSoFar + w := by
        have hfst : ((w, address) : Int × Address).1 = w := rfl
        rcases sum_ownerInsert (w, address) receivers with h' | h' <;> omega
      obtain ⟨hres, hle'⟩ := stoSplit_spec frozen pwd amount totalTokens rest _ _ result h hpos'
        hsum'
      refine ⟨fun r hr => ?_, fun _ => hle' (by omega)⟩
      obtain ⟨hr0, hr⟩ := hres r hr
      refine ⟨hr0, ?_⟩
      rcases hr with hr | ⟨o, ho, hname, hnf⟩
      · rcases (mem_ownerInsert _ r receivers).mp hr with rfl | hr
        · exact .inr ⟨(owns, address), List.mem_cons_self, rfl, Bool.eq_false_iff.mpr hfz⟩
        · exact .inl hr
      · exact .inr ⟨o, List.mem_cons_of_mem _ ho, hname, hnf⟩
    · rw [if_neg hw0, Except.pure_eq_ok] at h
      subst h
      exact ⟨fun r hr => ⟨hpos r hr, .inl hr⟩, fun hle => le_trans hsum hle⟩

/-- The messages the receiver computation can fail with: the asserts of the conversions, a
division by zero, and its own frozen-receiver assert. -/
def stoErrors : List String :=
  ["ConvertTo256: assert(number >= 0)", "ConvertTo64: assert(number <= max_int64)",
    "Division by zero",
    "STO_GetReceivers: assert(!isAddressFrozen(address, property_will_be_distribute))"]

/-- **How the split loop fails**: only with one of `stoErrors`. -/
theorem stoSplit_error (frozen : FrozenSet) (pwd : PropertyId) (amount totalTokens : Int) :
    ∀ (owners : OwnerAddrType) (sentSoFar : Int) (receivers : OwnerAddrType) (e : String),
      stoSplit frozen pwd amount totalTokens owners sentSoFar receivers = .error e → e ∈ stoErrors
  | [], _, _, e, h => absurd h Except.pure_ne_error
  | (owns, address) :: rest, sentSoFar, receivers, e, h => by
    simp only [stoSplit, Except.bind_eq_error] at h
    rcases h with h | ⟨_, -, h | ⟨_, -, h | ⟨_, -, h | ⟨_, -, h | ⟨shouldReceive, -, h⟩⟩⟩⟩⟩
    · rw [convertTo256_error h]; simp [stoErrors]
    · rw [convertTo256_error h]; simp [stoErrors]
    · rw [convertTo256_error h]; simp [stoErrors]
    · rw [divideAndRoundUp_error h]; simp [stoErrors]
    · rw [convertTo64_error h]; simp [stoErrors]
    set w := if amount - sentSoFar < shouldReceive then amount - sentSoFar else shouldReceive
    by_cases hw0 : 0 < w
    · rw [if_pos hw0] at h
      by_cases hfz : isAddressFrozen frozen address pwd = true
      · rw [if_pos hfz, Except.throw_eq_error] at h
        subst h
        simp [stoErrors]
      · rw [if_neg hfz] at h
        exact stoSplit_error frozen pwd amount totalTokens rest _ _ e h
    · rw [if_neg hw0] at h
      exact absurd h Except.pure_ne_error

/-- `tokens` is the holding, wrapped round to `int64_t`: adding the counters one by one wraps as
adding them all. -/
theorem stoTokens_eq (t : CMPTally) (property : PropertyId) :
    stoTokens t property = int64Wrap (t.holding property) := by
  simp only [stoTokens, CMPTally.countedTypes, List.foldl_cons, List.foldl_nil, int64Wrap_add,
    zero_add, CMPTally.holding]

/-- One step of the tally walk lets in at most the address it visits, and only an address other
than the sender, not frozen for the distributed property, with positive `tokens`. -/
theorem mem_stoCollect {frozen : FrozenSet} {sender : Address} {property pwd : PropertyId}
    {acc : Int × OwnerAddrType} {e : Address × CMPTally} {o : Int × Address}
    (ho : o ∈ (stoCollect frozen sender property pwd acc e).2) :
    o ∈ acc.2 ∨ (e.1 = o.2 ∧ e.1 ≠ sender ∧ isAddressFrozen frozen e.1 pwd = false ∧
      o.1 = int64Wrap (e.2.holding property) ∧ 0 < o.1) := by
  unfold stoCollect at ho
  by_cases hs : e.1 = sender
  · rw [if_pos hs] at ho
    exact .inl ho
  rw [if_neg hs] at ho
  by_cases hf : isAddressFrozen frozen e.1 pwd = true
  · rw [if_pos hf] at ho
    exact .inl ho
  rw [if_neg hf] at ho
  by_cases hpos : 0 < stoTokens e.2 property
  · rw [if_pos hpos] at ho
    rcases (mem_ownerInsert _ o acc.2).mp ho with rfl | ho
    · exact .inr ⟨rfl, hs, Bool.eq_false_iff.mpr hf, stoTokens_eq e.2 property, hpos⟩
    · exact .inl ho
  · rw [if_neg hpos] at ho
    exact .inl ho

/-- The tally walk only lets in addresses of the map, other than the sender, not frozen for the
distributed property, with positive `tokens`. -/
theorem stoCollect_spec (frozen : FrozenSet) (sender : Address) (property pwd : PropertyId) :
    ∀ (l : List (Address × CMPTally)) (acc : Int × OwnerAddrType),
      ∀ o ∈ (l.foldl (stoCollect frozen sender property pwd) acc).2,
        o ∈ acc.2 ∨ ∃ e ∈ l, e.1 = o.2 ∧ e.1 ≠ sender ∧ isAddressFrozen frozen e.1 pwd = false ∧
          o.1 = int64Wrap (e.2.holding property) ∧ 0 < o.1
  | [], acc, o, ho => .inl ho
  | e :: l, acc, o, ho => by
    rw [List.foldl_cons] at ho
    rcases stoCollect_spec frozen sender property pwd l _ o ho with ho | ⟨e', he', h⟩
    · rcases mem_stoCollect ho with ho | h
      · exact .inl ho
      · exact .inr ⟨e, List.mem_cons_self, h⟩
    · exact .inr ⟨e', List.mem_cons_of_mem e he', h⟩

/-- **An owner of the tally walk** is an address other than the sender, not frozen for the
distributed property, with its holding wrapped to `int64_t`, which is positive. -/
theorem mem_stoOwners {m : TallyMap} {frozen : FrozenSet} {sender : Address}
    {property pwd : PropertyId} {o : Int × Address}
    (ho : o ∈ (m.entries.foldl (stoCollect frozen sender property pwd) (0, [])).2) :
    0 < o.1 ∧ o.1 = int64Wrap (m.holding o.2 property) ∧ o.2 ≠ sender ∧
      isAddressFrozen frozen o.2 pwd = false := by
  rcases stoCollect_spec frozen sender property pwd m.entries (0, []) o ho with
    ho | ⟨e, he, he1, hns, hnf, hoe, hopos⟩
  · cases ho
  have hhold : m.holding o.2 property = e.2.holding property := by
    rw [← he1, TallyMap.holding, OrdMap.findD_eq, OrdMap.find?_of_mem he, Option.getD_some]
  exact ⟨hopos, hhold ▸ hoe, he1 ▸ hns, he1 ▸ hnf⟩

/-- **What `STO_GetReceivers` returns.** Every receiver is an address of the tally map other than
the sender, not frozen for the distributed property, whose holding wrapped to `int64_t` is
positive; every amount is positive, and for `0 ≤ amount` the amounts add up to at most `amount`. -/
theorem stoGetReceivers_spec {m : TallyMap} {frozen : FrozenSet} {sender : Address}
    {property : PropertyId} {amount : Int} {pwd : PropertyId} {receivers : OwnerAddrType}
    (h : stoGetReceivers m frozen sender property amount pwd = .ok receivers) :
    (∀ r ∈ receivers, 0 < r.1 ∧ r.2 ≠ sender ∧ isAddressFrozen frozen r.2 pwd = false ∧
        0 < int64Wrap (m.holding r.2 property)) ∧
      (0 ≤ amount → (receivers.map Prod.fst).sum ≤ amount) := by
  unfold stoGetReceivers at h
  obtain ⟨hres, hsum⟩ := stoSplit_spec frozen pwd amount _ _ 0 [] receivers h (by simp) (by simp)
  refine ⟨fun r hr => ?_, hsum⟩
  obtain ⟨hr0, hr⟩ := hres r hr
  rcases hr with hr | ⟨o, ho, hname, hnf⟩
  · cases hr
  obtain ⟨hopos, hhold, hns, -⟩ := mem_stoOwners ho
  rw [← hname]
  exact ⟨hr0, hns, hname ▸ hnf, hhold ▸ hopos⟩

/-! ## The split is exact -/

/-- The share of a holding `owns` in `amount`, rounded up: `⌈owns * amount / totalTokens⌉`. -/
def stoShare (amount totalTokens owns : Int) : Int :=
  ((owns.toNat * amount.toNat) ⌈/⌉ totalTokens.toNat : ℕ)

/-- **One owner of the split**, when no conversion can fail: the owner's share, capped by what is
left, goes to it, and the walk goes on unless that is nothing. -/
theorem stoSplit_cons {frozen : FrozenSet} {pwd : PropertyId} {amount totalTokens owns : Int}
    {address : Address} {rest : OwnerAddrType} {sentSoFar : Int} {receivers : OwnerAddrType}
    (hamount : 0 < amount) (hmax : amount ≤ int64Max) (howns : 0 < owns) (hle : owns ≤ totalTokens)
    (hwrap : owns * amount < Word256.modulus) (hfrozen : isAddressFrozen frozen address pwd = false) :
    stoSplit frozen pwd amount totalTokens ((owns, address) :: rest) sentSoFar receivers =
      if 0 < min (amount - sentSoFar) (stoShare amount totalTokens owns) then
        stoSplit frozen pwd amount totalTokens rest
          (sentSoFar + min (amount - sentSoFar) (stoShare amount totalTokens owns))
          (ownerInsert (min (amount - sentSoFar) (stoShare amount totalTokens owns), address) receivers)
      else .ok receivers := by
  have hT : 0 < totalTokens.toNat := by omega
  have hprod : owns.toNat * amount.toNat < Word256.modulus := by
    have : ((owns.toNat * amount.toNat : ℕ) : Int) = owns * amount := by
      rw [Nat.cast_mul, Int.toNat_of_nonneg howns.le, Int.toNat_of_nonneg hamount.le]
    omega
  -- the share is at most the amount, since the holding is at most the total
  have hshare : (owns.toNat * amount.toNat) ⌈/⌉ totalTokens.toNat ≤ amount.toNat :=
    (ceilDiv_le_iff_le_mul hT).2 (Nat.mul_le_mul_right _ (by omega))
  have h64 : (((owns.toNat * amount.toNat) ⌈/⌉ totalTokens.toNat : ℕ) : Int) ≤ int64Max := by
    omega
  have hw : ∀ x y : Int, (if x < y then x else y) = min x y := fun x y => by
    split <;> omega
  simp only [stoSplit, convertTo256_of_nonneg howns.le, convertTo256_of_nonneg hamount.le,
    convertTo256_of_nonneg (howns.le.trans hle), Except.ok_bind, Word256.mul_of_lt hprod,
    divideAndRoundUp_eq_ceilDiv hT hprod, convertTo64_of_le h64, hw, hfrozen,
    Bool.false_eq_true, if_false]
  rfl

/-- **The split hands out what the capped walk of the shares does.** When no conversion can fail,
the owners are distinct addresses none of which is a receiver yet, and `sentSoFar ≤ amount`, the
split succeeds; the amounts it adds are what `ProRata.capWalk` hands out over the owners' shares,
and each new receiver is an owner that gets at most its share. -/
theorem stoSplit_exact {frozen : FrozenSet} {pwd : PropertyId} {amount totalTokens : Int}
    (hamount : 0 < amount) (hmax : amount ≤ int64Max) :
    ∀ (owners : OwnerAddrType) (sentSoFar : Int) (receivers : OwnerAddrType),
      (∀ o ∈ owners, 0 < o.1 ∧ o.1 ≤ totalTokens ∧ o.1 * amount < Word256.modulus ∧
        isAddressFrozen frozen o.2 pwd = false) →
      (owners.map Prod.snd).Nodup → (∀ r ∈ receivers, r.2 ∉ owners.map Prod.snd) →
      sentSoFar ≤ amount →
      ∃ result, stoSplit frozen pwd amount totalTokens owners sentSoFar receivers = .ok result ∧
        (result.map Prod.fst).sum + sentSoFar = (receivers.map Prod.fst).sum +
          ProRata.capWalk amount (owners.map fun o => stoShare amount totalTokens o.1) sentSoFar ∧
        ∀ r ∈ result, r ∈ receivers ∨ ∃ o ∈ owners, o.2 = r.2 ∧ r.1 ≤ stoShare amount totalTokens o.1
  | [], sentSoFar, receivers, _, _, _, _ =>
    ⟨receivers, rfl, by simp [ProRata.capWalk], fun r hr => .inl hr⟩
  | (owns, address) :: rest, sentSoFar, receivers, howners, hnodup, hfresh, hle => by
    obtain ⟨howns, hT, hwrap, hfz⟩ := howners _ List.mem_cons_self
    rw [List.map_cons, List.nodup_cons] at hnodup
    rw [stoSplit_cons hamount hmax howns hT hwrap hfz, List.map_cons, ProRata.capWalk]
    dsimp only
    -- `w`: the owner's share, capped by what is left
    set w := min (amount - sentSoFar) (stoShare amount totalTokens owns) with hw
    by_cases hw0 : 0 < w
    · rw [if_pos hw0, if_pos hw0]
      -- the owner is not a receiver yet, so the insertion adds it
      have hnew : (w, address) ∉ receivers := fun h => hfresh _ h List.mem_cons_self
      have hfresh' : ∀ r ∈ ownerInsert (w, address) receivers, r.2 ∉ rest.map Prod.snd := by
        intro r hr
        rcases (mem_ownerInsert _ r receivers).mp hr with rfl | hr
        · exact hnodup.1
        · exact fun h => hfresh r hr (List.mem_cons_of_mem _ h)
      have hcap : w ≤ amount - sentSoFar := min_le_left _ _
      obtain ⟨result, hres, hsum, hmem⟩ := stoSplit_exact hamount hmax rest (sentSoFar + w)
        (ownerInsert (w, address) receivers) (fun o ho => howners o (List.mem_cons_of_mem _ ho))
        hnodup.2 hfresh' (by omega)
      refine ⟨result, hres, ?_, fun r hr => ?_⟩
      · have hins := ((perm_ownerInsert hnew).map Prod.fst).sum_eq
        rw [List.map_cons, List.sum_cons] at hins
        omega
      · rcases hmem r hr with hr | ⟨o, ho, hname, hshare⟩
        · rcases (mem_ownerInsert _ r receivers).mp hr with rfl | hr
          · exact .inr ⟨(owns, address), List.mem_cons_self, rfl, min_le_right _ _⟩
          · exact .inl hr
        · exact .inr ⟨o, List.mem_cons_of_mem _ ho, hname, hshare⟩
    · rw [if_neg hw0, if_neg hw0]
      exact ⟨receivers, rfl, rfl, fun r hr => .inl hr⟩

/-- **How `STO_GetReceivers` fails**: only with one of `stoErrors`. -/
theorem stoGetReceivers_error {m : TallyMap} {frozen : FrozenSet} {sender : Address}
    {property : PropertyId} {amount : Int} {pwd : PropertyId} {e : String}
    (h : stoGetReceivers m frozen sender property amount pwd = .error e) : e ∈ stoErrors :=
  stoSplit_error frozen pwd amount _ _ 0 [] e h


/-! ## The owners add up to the total

The walk adds in `int64_t`. Where the counted holdings fit (`int64Wrap_of_range`), `tokens` is the
holding and the total is their exact sum; the theorems below ask for that. -/

/-- The holdings the tally walk counts over `l`: those of every address other than the sender and
not frozen for the distributed property. -/
def stoCounted (frozen : FrozenSet) (sender : Address) (property pwd : PropertyId)
    (l : List (Address × CMPTally)) : Int :=
  ((l.filter fun e => e.1 != sender && !isAddressFrozen frozen e.1 pwd).map
    fun e => e.2.holding property).sum

/-- The total `STO_GetReceivers` takes the shares of: the holdings of every address of the map
other than the sender and not frozen for the distributed property. -/
def stoEligibleTotal (m : TallyMap) (frozen : FrozenSet) (sender : Address)
    (property pwd : PropertyId) : Int :=
  stoCounted frozen sender property pwd m.entries

section Counted

variable {frozen : FrozenSet} {sender : Address} {property pwd : PropertyId}

theorem stoCounted_cons (e : Address × CMPTally) (l : List (Address × CMPTally)) :
    stoCounted frozen sender property pwd (e :: l) =
      stoCounted frozen sender property pwd [e] + stoCounted frozen sender property pwd l := by
  unfold stoCounted
  rw [List.filter_cons, List.filter_singleton]
  cases e.1 != sender && !isAddressFrozen frozen e.1 pwd <;> simp

theorem stoCounted_nonneg {l : List (Address × CMPTally)} (hnonneg : ∀ e ∈ l, 0 ≤ e.2.holding property) :
    0 ≤ stoCounted frozen sender property pwd l :=
  List.sum_nonneg fun x hx => by
    obtain ⟨e, he, rfl⟩ := List.mem_map.1 hx
    exact hnonneg e (List.mem_filter.1 he).1

/-- **One step of the tally walk, where nothing wraps.** From a non-negative total, at an address
that is not an owner yet, with a non-negative holding that keeps the total within `INT64_MAX`: the
total grows by what the step counts, and the owners stay distinct addresses whose amounts grow by
as much. -/
theorem stoCollect_counted {acc : Int × OwnerAddrType} {e : Address × CMPTally} (hacc : 0 ≤ acc.1)
    (hnonneg : 0 ≤ e.2.holding property)
    (hfits : acc.1 + stoCounted frozen sender property pwd [e] ≤ int64Max)
    (hfresh : e.1 ∉ acc.2.map Prod.snd) (hnodup : (acc.2.map Prod.snd).Nodup) :
    (stoCollect frozen sender property pwd acc e).1 = acc.1 + stoCounted frozen sender property pwd [e] ∧
      ((stoCollect frozen sender property pwd acc e).2.map Prod.snd).Nodup ∧
      ((stoCollect frozen sender property pwd acc e).2.map Prod.fst).sum =
        (acc.2.map Prod.fst).sum + stoCounted frozen sender property pwd [e] := by
  unfold stoCollect
  -- the three branches of the source: the sender, a frozen address, a counted one
  by_cases hs : e.1 = sender
  · have hcount : stoCounted frozen sender property pwd [e] = 0 := by simp [stoCounted, hs]
    rw [if_pos hs, hcount]
    exact ⟨by omega, hnodup, by omega⟩
  by_cases hf : isAddressFrozen frozen e.1 pwd = true
  · have hcount : stoCounted frozen sender property pwd [e] = 0 := by simp [stoCounted, hf]
    rw [if_neg hs, if_pos hf, hcount]
    exact ⟨by omega, hnodup, by omega⟩
  have hcount : stoCounted frozen sender property pwd [e] = e.2.holding property := by
    simp [stoCounted, hs, hf]
  rw [if_neg hs, if_neg hf, hcount]
  rw [hcount] at hfits
  -- neither `tokens` nor the total wraps
  have htokens : stoTokens e.2 property = e.2.holding property := by
    rw [stoTokens_eq, int64Wrap_of_range (le_trans (by decide) hnonneg) (by omega)]
  rw [htokens, int64Wrap_of_range (le_trans (by decide) (add_nonneg hacc hnonneg)) hfits]
  by_cases hpos : 0 < e.2.holding property
  · rw [if_pos hpos]
    -- the address is new, so the insertion adds it
    have hnew : (e.2.holding property, e.1) ∉ acc.2 := fun h => hfresh (List.mem_map_of_mem h)
    have hperm := perm_ownerInsert hnew
    refine ⟨rfl, (hperm.map Prod.snd).nodup_iff.2 (List.nodup_cons.2 ⟨hfresh, hnodup⟩), ?_⟩
    rw [(hperm.map Prod.fst).sum_eq, List.map_cons, List.sum_cons]
    omega
  · rw [if_neg hpos]
    exact ⟨rfl, hnodup, by dsimp only; omega⟩

/-- **The tally walk, where nothing wraps.** Over distinct keys none of which is an owner yet, with
no negative holding, from a non-negative total whose sum with the counted holdings stays within
`INT64_MAX`: the total grows by the counted holdings, and the owners stay distinct addresses whose
amounts grow by as much. -/
theorem foldl_stoCollect :
    ∀ (l : List (Address × CMPTally)) (acc : Int × OwnerAddrType),
      (l.map Prod.fst).Nodup → (∀ e ∈ l, 0 ≤ e.2.holding property) →
      (∀ o ∈ acc.2, o.2 ∉ l.map Prod.fst) → (acc.2.map Prod.snd).Nodup → 0 ≤ acc.1 →
      acc.1 + stoCounted frozen sender property pwd l ≤ int64Max →
      (l.foldl (stoCollect frozen sender property pwd) acc).1 =
          acc.1 + stoCounted frozen sender property pwd l ∧
        ((l.foldl (stoCollect frozen sender property pwd) acc).2.map Prod.snd).Nodup ∧
        ((l.foldl (stoCollect frozen sender property pwd) acc).2.map Prod.fst).sum =
          (acc.2.map Prod.fst).sum + stoCounted frozen sender property pwd l
  | [], acc, _, _, _, hnodup, _, _ => ⟨by simp [stoCounted], hnodup, by simp [stoCounted]⟩
  | e :: l, acc, hkeys, hnonneg, hfresh, hnodup, hacc, hfits => by
    rw [List.map_cons, List.nodup_cons] at hkeys
    rw [stoCounted_cons] at hfits ⊢
    rw [List.foldl_cons]
    have hnonneg' : ∀ e' ∈ l, 0 ≤ e'.2.holding property :=
      fun e' he' => hnonneg e' (List.mem_cons_of_mem _ he')
    have hhead : 0 ≤ stoCounted frozen sender property pwd [e] :=
      stoCounted_nonneg fun e' he' => hnonneg e' (List.mem_singleton.1 he' ▸ List.mem_cons_self)
    have hrest : 0 ≤ stoCounted frozen sender property pwd l := stoCounted_nonneg hnonneg'
    have hnot : e.1 ∉ acc.2.map Prod.snd := by
      intro h
      obtain ⟨o, ho, hname⟩ := List.mem_map.1 h
      exact hfresh o ho (hname ▸ List.mem_cons_self)
    have hfitsHead : acc.1 + stoCounted frozen sender property pwd [e] ≤ int64Max := by omega
    obtain ⟨htotal, hnodup', hsum'⟩ := stoCollect_counted hacc (hnonneg e List.mem_cons_self)
      hfitsHead hnot hnodup
    -- the owners after this step are old ones or the visited address, none of them ahead
    have hfresh' : ∀ o ∈ (stoCollect frozen sender property pwd acc e).2, o.2 ∉ l.map Prod.fst := by
      intro o ho
      rcases mem_stoCollect ho with ho | ⟨hname, -⟩
      · exact fun h => hfresh o ho (List.mem_cons_of_mem _ h)
      · exact hname ▸ hkeys.1
    obtain ⟨htotal', hnodup'', hsum''⟩ := foldl_stoCollect l _ hkeys.2 hnonneg' hfresh' hnodup'
      (by omega) (by omega)
    exact ⟨by omega, hnodup'', by omega⟩

end Counted

/-! ## `STO_GetReceivers` splits exactly -/

theorem stoShare_pos {amount totalTokens owns : Int} (hamount : 0 < amount) (howns : 0 < owns)
    (hT : 0 < totalTokens) : 0 < stoShare amount totalTokens owns := by
  unfold stoShare
  have hx : 0 < owns.toNat * amount.toNat := Nat.mul_pos (by omega) (by omega)
  -- `x ≤ T * c` with `0 < x` leaves no room for `c = 0`
  have hle := (ceilDiv_le_iff_le_mul (show 0 < totalTokens.toNat by omega)).1
    (le_refl ((owns.toNat * amount.toNat) ⌈/⌉ totalTokens.toNat))
  have hc : 0 < (owns.toNat * amount.toNat) ⌈/⌉ totalTokens.toNat := by
    rcases Nat.eq_zero_or_pos ((owns.toNat * amount.toNat) ⌈/⌉ totalTokens.toNat) with h0 | h0
    · rw [h0, Nat.mul_zero] at hle
      omega
    · exact h0
  exact_mod_cast hc

/-- **The share is `⌈owns * amount / totalTokens⌉`**, the exact quotient rounded up. -/
theorem stoShare_eq_ceil {amount totalTokens owns : Int} (hamount : 0 ≤ amount) (howns : 0 ≤ owns)
    (hT : 0 < totalTokens) :
    stoShare amount totalTokens owns = ⌈((owns * amount : ℤ) : ℚ) / totalTokens⌉ := by
  unfold stoShare
  rw [ProRata.ceilDiv_eq_ceil (K := ℚ) _ (show 0 < totalTokens.toNat by omega)]
  -- the detour through `ℕ` is the identity on non-negative numbers
  have hcast : ∀ n : Int, 0 ≤ n → ((n.toNat : ℕ) : ℚ) = (n : ℚ) := fun n hn => by
    rw [← Int.cast_natCast, Int.toNat_of_nonneg hn]
  rw [Nat.cast_mul, hcast owns howns, hcast amount hamount, hcast totalTokens hT.le, Int.cast_mul]

/-- **The shares add up to at least the amount** when the owners add up to the total. -/
theorem le_sum_stoShare {amount totalTokens : Int} {owners : OwnerAddrType} (hamount : 0 ≤ amount)
    (hpos : ∀ o ∈ owners, 0 < o.1) (hsum : (owners.map Prod.fst).sum = totalTokens)
    (hT : 0 < totalTokens) :
    amount ≤ (owners.map fun o => stoShare amount totalTokens o.1).sum := by
  -- the same sums in `ℕ`, where the rounding argument of `ProRata` applies
  have hsumNat : (owners.map fun o => o.1.toNat).sum = totalTokens.toNat := by
    have hcast : (((owners.map fun o => o.1.toNat).sum : ℕ) : ℤ) = (owners.map Prod.fst).sum := by
      rw [Nat.cast_list_sum, List.map_map]
      exact congrArg List.sum (List.map_congr_left fun o ho => Int.toNat_of_nonneg (hpos o ho).le)
    omega
  have hle := ProRata.le_sum_ceilDiv (fun o : Int × Address => o.1.toNat) owners amount.toNat
    (by omega) hsumNat
  have hshares : (owners.map fun o => stoShare amount totalTokens o.1).sum =
      (((owners.map fun o => (o.1.toNat * amount.toNat) ⌈/⌉ totalTokens.toNat).sum : ℕ) : ℤ) := by
    rw [Nat.cast_list_sum, List.map_map]
    rfl
  omega

/-- **The tally walk of `STO_GetReceivers`, where the counted total fits `int64_t`**: its total is
the counted total, and its owners are distinct addresses whose amounts add up to it. -/
theorem stoOwners_sum (frozen : FrozenSet) (sender : Address) (pwd : PropertyId) {m : TallyMap}
    {property : PropertyId} (hrange : m.InRange property)
    (hfits : stoEligibleTotal m frozen sender property pwd ≤ int64Max) :
    (m.entries.foldl (stoCollect frozen sender property pwd) (0, [])).1 =
        stoEligibleTotal m frozen sender property pwd ∧
      ((m.entries.foldl (stoCollect frozen sender property pwd) (0, [])).2.map Prod.snd).Nodup ∧
      ((m.entries.foldl (stoCollect frozen sender property pwd) (0, [])).2.map Prod.fst).sum =
        stoEligibleTotal m frozen sender property pwd := by
  obtain ⟨htotal, hnodup, hsum⟩ := foldl_stoCollect m.entries (0, []) m.nodup_keys
    (fun e he => (hrange e he).holding_nonneg) (by simp) (by simp) le_rfl
    (by simpa [stoEligibleTotal] using hfits)
  simp only [List.map_nil, List.sum_nil, zero_add] at htotal hsum
  exact ⟨htotal, hnodup, hsum⟩

/-- Every counted holding is part of the total. -/
theorem holding_le_stoEligibleTotal {m : TallyMap} {frozen : FrozenSet} {sender : Address}
    {property pwd : PropertyId} (hrange : m.InRange property) {a : Address} (hs : a ≠ sender)
    (hf : isAddressFrozen frozen a pwd = false) :
    m.holding a property ≤ stoEligibleTotal m frozen sender property pwd := by
  unfold stoEligibleTotal stoCounted
  have hnonneg : ∀ x ∈ (m.entries.filter fun e => e.1 != sender && !isAddressFrozen frozen e.1 pwd).map
      (fun e => e.2.holding property), 0 ≤ x := by
    intro x hx
    obtain ⟨e, he, rfl⟩ := List.mem_map.1 hx
    exact (hrange e (List.mem_filter.1 he).1).holding_nonneg
  rw [TallyMap.holding, OrdMap.findD_eq]
  cases hfind : m.find? a with
  | none => exact List.sum_nonneg hnonneg
  | some t =>
    -- the address has a tally, which the total counts
    have hmem : (a, t) ∈ m.entries.filter fun e => e.1 != sender && !isAddressFrozen frozen e.1 pwd :=
      List.mem_filter.2 ⟨OrdMap.mem_of_find? hfind, by simp [hs, hf]⟩
    exact List.single_le_sum hnonneg _ (List.mem_map_of_mem hmem)


/-- **What an exact split of `amount` is**: every receiver gets a positive amount, is not the
sender, is not frozen for the distributed property, holds the property, and gets at most its
share of the counted total rounded up; and as soon as one address can receive at all, the amounts
add up to exactly `amount`. -/
structure StoExact (m : TallyMap) (frozen : FrozenSet) (sender : Address) (property pwd : PropertyId)
    (amount : Int) (receivers : OwnerAddrType) : Prop where
  pos : ∀ r ∈ receivers, 0 < r.1
  not_sender : ∀ r ∈ receivers, r.2 ≠ sender
  not_frozen : ∀ r ∈ receivers, isAddressFrozen frozen r.2 pwd = false
  holds : ∀ r ∈ receivers, 0 < m.holding r.2 property
  le_share : ∀ r ∈ receivers, r.1 ≤ ⌈((m.holding r.2 property * amount : ℤ) : ℚ) /
    stoEligibleTotal m frozen sender property pwd⌉
  sum_eq : (∃ a, a ≠ sender ∧ isAddressFrozen frozen a pwd = false ∧ 0 < m.holding a property) →
    (receivers.map Prod.fst).sum = amount

/-- A receiver is an address that can receive, so a non-empty exact split adds up to the amount. -/
theorem StoExact.sum_eq_of_ne_nil {m : TallyMap} {frozen : FrozenSet} {sender : Address}
    {property pwd : PropertyId} {amount : Int} {receivers : OwnerAddrType}
    (h : StoExact m frozen sender property pwd amount receivers) (hne : receivers ≠ []) :
    (receivers.map Prod.fst).sum = amount := by
  obtain ⟨r, hr⟩ := List.exists_mem_of_ne_nil receivers hne
  exact h.sum_eq ⟨r.2, h.not_sender r hr, h.not_frozen r hr, h.holds r hr⟩

/-- **`STO_GetReceivers` splits exactly.** For a map whose holdings of the property are in range
(`TallyMap.InRange`, which `update_tally_map` keeps) and whose counted total fits `int64_t`, and
for `0 < amount ≤ INT64_MAX`, the receivers are computed without failing, and they are an exact
split of `amount`. -/
theorem stoGetReceivers_exact {m : TallyMap} {frozen : FrozenSet} {sender : Address}
    {property : PropertyId} {amount : Int} {pwd : PropertyId} (hrange : m.InRange property)
    (hfits : stoEligibleTotal m frozen sender property pwd ≤ int64Max)
    (hpos : 0 < amount) (hmax : amount ≤ int64Max) :
    ∃ receivers, stoGetReceivers m frozen sender property amount pwd = .ok receivers ∧
      StoExact m frozen sender property pwd amount receivers := by
  obtain ⟨hcollected, hnodup, hsum⟩ := stoOwners_sum frozen sender pwd hrange hfits
  set owners := (m.entries.foldl (stoCollect frozen sender property pwd) (0, [])).2 with howners
  set total := stoEligibleTotal m frozen sender property pwd with htotal
  -- an owner's amount is its holding, which the total counts, so it does not wrap
  have hown : ∀ o ∈ owners, 0 < o.1 ∧ o.1 = m.holding o.2 property ∧ o.1 ≤ total := by
    intro o ho
    obtain ⟨hopos, hwrap, hns, hnf⟩ := mem_stoOwners ho
    have hle := holding_le_stoEligibleTotal hrange hns hnf
    have h0 : 0 ≤ m.holding o.2 property := (hrange.findD o.2).holding_nonneg
    rw [int64Wrap_of_range (le_trans (by decide) h0) (hle.trans hfits)] at hwrap
    exact ⟨hopos, hwrap, hwrap ▸ hle⟩
  -- every owner fits the conditions of the split
  have hconds : ∀ o ∈ owners, 0 < o.1 ∧ o.1 ≤ total ∧ o.1 * amount < Word256.modulus ∧
      isAddressFrozen frozen o.2 pwd = false := by
    intro o ho
    obtain ⟨hopos, -, hle⟩ := hown o ho
    have hprod : o.1 * amount ≤ int64Max * int64Max :=
      Int.mul_le_mul (hle.trans hfits) hmax hpos.le (by decide)
    exact ⟨hopos, hle, lt_of_le_of_lt hprod (by decide), (mem_stoOwners ho).2.2.2⟩
  obtain ⟨result, hres, hsplit, hmem⟩ := stoSplit_exact hpos hmax owners 0 [] hconds hnodup
    (by simp) hpos.le
  have hgr : stoGetReceivers m frozen sender property amount pwd = .ok result := by
    unfold stoGetReceivers
    dsimp only
    rw [hcollected]
    exact hres
  have hspec := (stoGetReceivers_spec hgr).1
  -- every receiver is an owner, and gets at most its share
  have hrecv : ∀ r ∈ result, ∃ o ∈ owners, o.2 = r.2 ∧ r.1 ≤ stoShare amount total o.1 :=
    fun r hr => (hmem r hr).resolve_left List.not_mem_nil
  refine ⟨result, hgr, fun r hr => (hspec r hr).1, fun r hr => (hspec r hr).2.1,
    fun r hr => (hspec r hr).2.2.1, fun r hr => ?_, fun r hr => ?_, fun ⟨a, hs, hf, ha⟩ => ?_⟩
  · obtain ⟨o, ho, hname, -⟩ := hrecv r hr
    obtain ⟨hopos, hhold, -⟩ := hown o ho
    rw [← hname, ← hhold]
    exact hopos
  · obtain ⟨o, ho, hname, hshare⟩ := hrecv r hr
    obtain ⟨hopos, hhold, hle⟩ := hown o ho
    rw [← hname, ← hhold, ← stoShare_eq_ceil hpos.le hopos.le (lt_of_lt_of_le hopos hle)]
    exact hshare
  · -- an address that can receive makes the total positive, so the shares cover the amount
    have hT : 0 < total := lt_of_lt_of_le ha (holding_le_stoEligibleTotal hrange hs hf)
    have hshares := le_sum_stoShare hpos.le (fun o ho => (hconds o ho).1) hsum hT
    have hwalk := ProRata.capWalk_eq_min amount (owners.map fun o => stoShare amount total o.1) 0
      (fun s hs => by
        obtain ⟨o, ho, rfl⟩ := List.mem_map.1 hs
        exact stoShare_pos hpos (hconds o ho).1 hT) hpos.le
    simp only [List.map_nil, List.sum_nil, add_zero, zero_add] at hsplit hwalk
    omega

end WormholeCore
