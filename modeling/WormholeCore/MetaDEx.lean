/-
# `WormholeCore.MetaDEx` — the order book of the distributed exchange (mdex.{h,cpp}).

The book `metadex` maps a property to its price levels, a price level (a `rational_t` unit price:
what an order wants for one unit of what it sells) to the set of its orders, ordered by block and
position in the block (`MetaDEx_compare`). An order reserves what it still has for sale:
`METADEX_RESERVE` of its owner and property.

The functions modelled here take orders out of the book. The three cancels and
`MetaDEx_SHUTDOWN` walk the book with iterators that move on at every order, erasing the orders
they pick and returning each one's reserve to the owner's balance; they are one definition with
parameters (`cancelOrders`, `cancelLevels`, `cancelProps`). `MetaDEx_SHUTDOWN_ALLPAIR` is its own
body: its iterator moves on only when it erases, so an order with WHC or TWHC on a side keeps it
in place for ever. Its inner loop is a `Lib.Loop` over a cursor into the live set.

Prices are rationals (`boost::rational` of 128-bit integers, exact for the `int64_t` amounts of an
order). The trade log (`t_tradelistdb`, `p_txlistdb`) is not modelled.

## What is proved here

* `shutdownAllPairTurn_keep` — at an order with a WHC or TWHC side the inner loop of
  `MetaDEx_SHUTDOWN_ALLPAIR` returns its own cursor;
* `shutdownAllPairSet_ne_ok` — a set holding such an order at or after the cursor is never done;
* `metaDExShutdownAllPair_ne_ok` — a book holding such an order is never shut down;
* `metaDExShutdownAllPair_never_ends` — a book of one order of WHC, with its reserve in the tally,
  on which the shutdown runs for ever.
-/
import WormholeCore.State
import WormholeCore.Lib.Loop
import Mathlib.Algebra.Order.Ring.Rat

namespace WormholeCore

open Lib

/-- `METADEX_ERROR`, the base of the MetaDEx functions' error codes. -/
def metadexError : Int := -81000

/-! ## Orders -/

/-- **`CMPMetaDEx`** — an order: `amount_forsale` of `property` for `amount_desired` of
`desired_property`, of which `amount_remaining` is still for sale. `subaction` is not read by the
modelled functions. -/
structure CMPMetaDEx where
  block : Int
  txid : Uint256
  idx : Nat
  property : PropertyId
  amountForsale : Int
  desiredProperty : PropertyId
  amountDesired : Int
  amountRemaining : Int
  addr : Address
deriving DecidableEq, Repr

/-- The order of the set of a price level (`MetaDEx_compare`): by block, then by position. -/
abbrev MdKey := Lex (Int × Nat)

namespace CMPMetaDEx

/-- `unitPrice()`: what the order wants for one unit; `0` when nothing is for sale. -/
def unitPrice (o : CMPMetaDEx) : ℚ :=
  if o.amountForsale ≠ 0 then (o.amountDesired : ℚ) / o.amountForsale else 0

/-- `inversePrice()`: what the order gives for one unit of what it wants; `0` when it wants
nothing. -/
def inversePrice (o : CMPMetaDEx) : ℚ :=
  if o.amountDesired ≠ 0 then (o.amountForsale : ℚ) / o.amountDesired else 0

/-- Where the order sits in its set. -/
def key (o : CMPMetaDEx) : MdKey := toLex (o.block, o.idx)

end CMPMetaDEx

/-! ## The book -/

/-- **`md_Set`** — the orders of one price level, each stored under its own key. -/
structure MdSet where
  orders : OrdMap MdKey CMPMetaDEx
  keyed : ∀ e ∈ orders.entries, e.2.key = e.1

namespace MdSet

def empty : MdSet := ⟨OrdMap.empty, fun _ h => absurd h List.not_mem_nil⟩

/-- `indexes.erase(it)`. -/
def erase (indexes : MdSet) (k : MdKey) : MdSet :=
  ⟨indexes.orders.erase k, fun e he => indexes.keyed e (List.mem_of_mem_filter he)⟩

/-- `indexes.insert(o)`: the set, and whether `o` went in (no order with its key was there). -/
def insert (indexes : MdSet) (o : CMPMetaDEx) : MdSet × Bool :=
  if indexes.orders.contains o.key then (indexes, false)
  else
    (⟨indexes.orders.insert o.key o, fun e he => by
      rcases OrdMap.mem_insertL he with rfl | he
      · rfl
      · exact indexes.keyed e he⟩, true)

end MdSet

/-- `md_PricesMap`: the price levels of one property. -/
abbrev MdPricesMap := OrdMap ℚ MdSet

/-- `md_PropertiesMap`: the book, by the property the orders sell. -/
abbrev MdPropertiesMap := OrdMap PropertyId MdPricesMap

/-- An order of the book, at the property and price level it is filed under. -/
def InBook (book : MdPropertiesMap) (p : PropertyId) (q : ℚ) (o : CMPMetaDEx) : Prop :=
  ∃ prices indexes, book.find? p = some prices ∧ prices.find? q = some indexes ∧
    o ∈ indexes.orders.entries.map Prod.snd

/-! ## What the book reserves -/

/-- What `a` has reserved for sale of `p` in a set: the remaining amounts of `a`'s orders of `p`. -/
def MdSet.reserveOf (a : Address) (p : PropertyId) (indexes : MdSet) : Int :=
  indexes.orders.sumBy fun _ o => if o.addr = a ∧ o.property = p then o.amountRemaining else 0

/-- What `a` has reserved for sale of `p` over the price levels of one property. -/
def pricesReserveOf (a : Address) (p : PropertyId) (prices : MdPricesMap) : Int :=
  prices.sumBy fun _ indexes => indexes.reserveOf a p

/-- What `a` has reserved for sale of `p` over the whole book. -/
def bookReserveOf (a : Address) (p : PropertyId) (book : MdPropertiesMap) : Int :=
  book.sumBy fun _ prices => pricesReserveOf a p prices

/-- **The book invariant**: every order of `metadex[p][q]` sells `p` at unit price `q`, with
`0 < amount_remaining ≤ amount_forsale`; and every `METADEX_RESERVE(a, p)` is what `a`'s orders
of `p` still have for sale. -/
structure MetaDExInv (book : MdPropertiesMap) (m : TallyMap) : Prop where
  shape : ∀ p q o, InBook book p q o →
    o.property = p ∧ o.unitPrice = q ∧ 0 < o.amountRemaining ∧ o.amountRemaining ≤ o.amountForsale
  reserve : ∀ a p, m.money a p .metadexReserve = bookReserveOf a p book

/-! ## Returning a reserve -/

/-- **`assert(update_tally_map(who, propertyId, amount, ttype))`** for any tally type. -/
def OmniState.assertUpdateTally (s : OmniState) (who : Address) (propertyId : PropertyId)
    (amount : Int) (ttype : TallyType) : Except String OmniState :=
  s.assertUpdate "assert(update_tally_map(who, propertyId, amount, ttype))" who propertyId amount
    ttype

/-- An order's remaining amount moved from `METADEX_RESERVE` back to `BALANCE` (the cancels and
the shutdowns). -/
def returnReserve (s : OmniState) (o : CMPMetaDEx) : Except String OmniState := do
  let s ← s.assertUpdateTally o.addr o.property (-o.amountRemaining) .metadexReserve
  s.assertUpdateTallyMap o.addr o.property o.amountRemaining

/-! ## Inserting an order -/

/-- **`MetaDEx_INSERT`**: file an order under its property and unit price; `none` (`false`) when
its level already holds an order with its key. -/
def metaDExInsert (book : MdPropertiesMap) (o : CMPMetaDEx) : Option MdPropertiesMap :=
  let prices := book.findD o.property OrdMap.empty
  let indexes := prices.findD o.unitPrice MdSet.empty
  match indexes.insert o with
  | (_, false) => none
  | (indexes, true) => some (book.insert o.property (prices.insert o.unitPrice indexes))

/-! ## The cancels and `MetaDEx_SHUTDOWN` -/

/-- The inner loop of the cancels and of `MetaDEx_SHUTDOWN`: each order that `cancels` picks is
erased (`indexes.erase(iitt++)`) and its reserve returned, the others are passed (`++iitt`); the
flag records that an order was erased (`rc = 0`). -/
def cancelOrders (cancels : CMPMetaDEx → Bool) :
    List (MdKey × CMPMetaDEx) → MdSet × OmniState × Bool → Except String (MdSet × OmniState × Bool)
  | [], acc => pure acc
  | (k, o) :: rest, (indexes, s, found) =>
    if cancels o then do
      let s ← returnReserve s o
      cancelOrders cancels rest (indexes.erase k, s, true)
    else cancelOrders cancels rest (indexes, s, found)

/-- The price levels of one property: those `atPrice` picks go through `cancelOrders`, and the set
is written back in place. -/
def cancelLevels (atPrice : ℚ → Bool) (cancels : CMPMetaDEx → Bool) :
    List (ℚ × MdSet) → MdPricesMap × OmniState × Bool →
      Except String (MdPricesMap × OmniState × Bool)
  | [], acc => pure acc
  | (price, indexes) :: rest, (prices, s, found) =>
    if atPrice price then do
      let (indexes, s, found) ← cancelOrders cancels indexes.orders.entries (indexes, s, found)
      cancelLevels atPrice cancels rest (prices.insert price indexes, s, found)
    else cancelLevels atPrice cancels rest (prices, s, found)

/-- The properties of the book: those `atProp` picks have every level go through `cancelLevels`. -/
def cancelProps (atProp : PropertyId → Bool) (cancels : CMPMetaDEx → Bool) :
    List (PropertyId × MdPricesMap) → MdPropertiesMap × OmniState × Bool →
      Except String (MdPropertiesMap × OmniState × Bool)
  | [], acc => pure acc
  | (prop, prices) :: rest, (book, s, found) =>
    if atProp prop then do
      let (prices, s, found) ← cancelLevels (fun _ => true) cancels prices.entries (prices, s, found)
      cancelProps atProp cancels rest (book.insert prop prices, s, found)
    else cancelProps atProp cancels rest (book, s, found)

/-- **`MetaDEx_CANCEL_AT_PRICE`**: the sender's orders of `prop` for `property_desired` at the unit
price of `amount` for `amount_desired`. -/
def metaDExCancelAtPrice (book : MdPropertiesMap) (s : OmniState) (sender : Address)
    (prop : PropertyId) (amount : Int) (propertyDesired : PropertyId) (amountDesired : Int) :
    Except String (Int × MdPropertiesMap × OmniState) :=
  let rc := metadexError - 20
  let mdex : CMPMetaDEx :=
    { block := 0, txid := 0, idx := 0, property := prop, amountForsale := amount,
      desiredProperty := propertyDesired, amountDesired := amountDesired,
      amountRemaining := amount, addr := sender }
  match book.find? prop with
  | none => pure (rc - 1, book, s)
  | some prices => do
    let (prices, s, found) ← cancelLevels (fun price => decide (mdex.unitPrice = price))
      (fun o => decide (o.desiredProperty = propertyDesired) && decide (o.addr = sender))
      prices.entries (prices, s, false)
    pure (if found then 0 else rc, book.insert prop prices, s)

/-- **`MetaDEx_CANCEL_ALL_FOR_PAIR`**: the sender's orders of `prop` for `property_desired`. -/
def metaDExCancelAllForPair (book : MdPropertiesMap) (s : OmniState) (sender : Address)
    (prop propertyDesired : PropertyId) : Except String (Int × MdPropertiesMap × OmniState) :=
  let rc := metadexError - 30
  match book.find? prop with
  | none => pure (rc - 1, book, s)
  | some prices => do
    let (prices, s, found) ← cancelLevels (fun _ => true)
      (fun o => decide (o.desiredProperty = propertyDesired) && decide (o.addr = sender))
      prices.entries (prices, s, false)
    pure (if found then 0 else rc, book.insert prop prices, s)

/-- **`MetaDEx_CANCEL_EVERYTHING`**: the sender's orders of every property of the ecosystem. -/
def metaDExCancelEverything (book : MdPropertiesMap) (s : OmniState) (sender : Address)
    (ecosystem : Nat) : Except String (Int × MdPropertiesMap × OmniState) := do
  let rc := metadexError - 40
  -- skip a property that is not in the expected ecosystem
  let inEcosystem := fun prop =>
    !(isMainEcosystemProperty ecosystem && !isMainEcosystemProperty prop) &&
      !(isTestEcosystemProperty ecosystem && !isTestEcosystemProperty prop)
  let (book, s, found) ← cancelProps inEcosystem (fun o => decide (o.addr = sender)) book.entries
    (book, s, false)
  pure (if found then 0 else rc, book, s)

/-- **`MetaDEx_SHUTDOWN`**: every order of the book (it returns `0`). -/
def metaDExShutdown (book : MdPropertiesMap) (s : OmniState) :
    Except String (MdPropertiesMap × OmniState) := do
  let (book, s, _) ← cancelProps (fun _ => true) (fun _ => true) book.entries (book, s, false)
  pure (book, s)

/-! ## `MetaDEx_SHUTDOWN_ALLPAIR` -/

/-- An order with neither side WHC nor TWHC
(`getDesProperty() > OMNI_PROPERTY_TWHC && getProperty() > OMNI_PROPERTY_TWHC`). -/
def noOmniSide (o : CMPMetaDEx) : Bool :=
  decide (omniPropertyTwhc < o.desiredProperty) && decide (omniPropertyTwhc < o.property)

/-- Where the inner loop of `MetaDEx_SHUTDOWN_ALLPAIR` is: the live set, the position of `indexit`
in it, and the state. -/
structure AllPairCursor where
  indexes : MdSet
  pos : Nat
  s : OmniState

/-- `indexit == indexes.end()`. -/
def AllPairCursor.atEnd (c : AllPairCursor) : Bool := c.indexes.orders.size ≤ c.pos

/-- **One turn of the inner loop of `MetaDEx_SHUTDOWN_ALLPAIR`**: an order with no WHC or TWHC side
is erased and its reserve returned, and `indexes.erase(indexit++)` leaves the iterator on the next
order; any other order is left, and so is the iterator. -/
def shutdownAllPairTurn (c : AllPairCursor) : Except String AllPairCursor :=
  match c.indexes.orders.entries[c.pos]? with
  | none => pure c
  | some (k, o) =>
    if noOmniSide o then do
      let s ← returnReserve c.s o
      pure ⟨c.indexes.erase k, c.pos, s⟩
    else pure c

/-- The price levels of one property, each run through the inner loop from its first order with
`fuel` turns; `none` when a level's loop is still going. -/
def shutdownAllPairLevels (fuel : Nat) :
    List (ℚ × MdSet) → MdPricesMap → OmniState → Option (Except String (MdPricesMap × OmniState))
  | [], prices, s => some (.ok (prices, s))
  | (price, indexes) :: rest, prices, s =>
    match Loop.run shutdownAllPairTurn AllPairCursor.atEnd fuel ⟨indexes, 0, s⟩ with
    | none => none
    | some (.error e) => some (.error e)
    | some (.ok c) => shutdownAllPairLevels fuel rest (prices.insert price c.indexes) c.s

/-- The properties of the book, each through `shutdownAllPairLevels`. -/
def shutdownAllPairProps (fuel : Nat) :
    List (PropertyId × MdPricesMap) → MdPropertiesMap → OmniState →
      Option (Except String (MdPropertiesMap × OmniState))
  | [], book, s => some (.ok (book, s))
  | (prop, prices) :: rest, book, s =>
    match shutdownAllPairLevels fuel prices.entries prices s with
    | none => none
    | some (.error e) => some (.error e)
    | some (.ok (prices, s)) => shutdownAllPairProps fuel rest (book.insert prop prices) s

/-- **`MetaDEx_SHUTDOWN_ALLPAIR`** run with `fuel` turns for each inner loop (it returns `0`). -/
def metaDExShutdownAllPair (fuel : Nat) (book : MdPropertiesMap) (s : OmniState) :
    Option (Except String (MdPropertiesMap × OmniState)) :=
  shutdownAllPairProps fuel book.entries book s

/-! ## `MetaDEx_SHUTDOWN_ALLPAIR` does not end on an order of WHC -/

/-- **An order with a WHC or TWHC side is a fixed point** of the inner loop: the turn returns the
cursor it was given. -/
theorem shutdownAllPairTurn_keep {c : AllPairCursor} {k : MdKey} {o : CMPMetaDEx}
    (ho : c.indexes.orders.entries[c.pos]? = some (k, o)) (hkeep : noOmniSide o = false) :
    shutdownAllPairTurn c = .ok c := by
  rw [shutdownAllPairTurn, ho]
  dsimp only
  rw [if_neg (by rw [hkeep]; exact Bool.false_ne_true)]
  rfl

/-- An erasing turn drops the order under the cursor: what follows it is what follows the cursor
afterwards. -/
theorem shutdownAllPairTurn_drop {c c' : AllPairCursor} {k : MdKey} {o : CMPMetaDEx}
    {rest : List (MdKey × CMPMetaDEx)}
    (hdrop : c.indexes.orders.entries.drop c.pos = (k, o) :: rest)
    (h : shutdownAllPairTurn c = .ok c') : c' = c ∨ c'.indexes.orders.entries.drop c'.pos = rest := by
  have hpos : c.pos < c.indexes.orders.entries.length := by
    have := congrArg List.length hdrop
    rw [List.length_drop, List.length_cons] at this
    omega
  have hat : c.indexes.orders.entries[c.pos]? = some (k, o) := by
    rw [← List.head?_drop, hdrop, List.head?_cons]
  rw [shutdownAllPairTurn, hat] at h
  dsimp only at h
  split at h
  · -- erased: the entries before the cursor, then `rest`
    simp only [Except.bind_eq_ok, Except.pure_eq_ok] at h
    obtain ⟨s', -, rfl⟩ := h
    right
    have hsplit : c.indexes.orders.entries =
        c.indexes.orders.entries.take c.pos ++ (k, o) :: rest := by
      rw [← hdrop, List.take_append_drop]
    show (c.indexes.erase k).orders.entries.drop c.pos = rest
    rw [MdSet.erase, OrdMap.erase_entries_of_eq hsplit, List.drop_left' (by simp; omega)]
  · rw [Except.pure_eq_ok] at h
    exact .inl h.symm

/-- **A set with an order of WHC or TWHC at or after the cursor is never done**: the loop erases
what comes before that order, if its turns succeed, and then stays on it. -/
theorem shutdownAllPairSet_ne_ok (fuel : Nat) (c : AllPairCursor)
    (h : ∃ o ∈ (c.indexes.orders.entries.drop c.pos).map Prod.snd, noOmniSide o = false)
    (c' : AllPairCursor) :
    Loop.run shutdownAllPairTurn AllPairCursor.atEnd fuel c ≠ some (.ok c') := by
  refine Loop.run_ne_ok_of_trap
    (fun c => ∃ o ∈ (c.indexes.orders.entries.drop c.pos).map Prod.snd, noOmniSide o = false)
    ?_ fuel c h c'
  rintro c ⟨o, ho, hkeep⟩
  obtain ⟨⟨k₀, o₀⟩, rest, hdrop⟩ : ∃ e rest, c.indexes.orders.entries.drop c.pos = e :: rest := by
    cases hd : c.indexes.orders.entries.drop c.pos with
    | nil => rw [hd] at ho; cases ho
    | cons e rest => exact ⟨e, rest, rfl⟩
  refine ⟨?_, fun c' hturn => ?_⟩
  · -- the cursor is not at the end
    have := congrArg List.length hdrop
    rw [List.length_drop, List.length_cons] at this
    rw [AllPairCursor.atEnd, decide_eq_false_iff_not, OrdMap.size]
    omega
  · rcases shutdownAllPairTurn_drop hdrop hturn with rfl | hrest
    · exact ⟨o, ho, hkeep⟩
    · -- the order under the cursor was erased, so it was not `o`
      rw [hdrop, List.map_cons, List.mem_cons] at ho
      rcases ho with rfl | ho
      · have hkept : shutdownAllPairTurn c = .ok c := shutdownAllPairTurn_keep
          (by rw [← List.head?_drop, hdrop, List.head?_cons]) hkeep
        rw [hkept, Except.ok.injEq] at hturn
        subst hturn
        exact ⟨o, by rw [hdrop]; exact List.mem_cons_self, hkeep⟩
      · exact ⟨o, by rw [hrest]; exact ho, hkeep⟩

theorem shutdownAllPairLevels_ne_ok (fuel : Nat) :
    ∀ (levels : List (ℚ × MdSet)) (prices : MdPricesMap) (s : OmniState),
      (∃ e ∈ levels, ∃ o ∈ e.2.orders.entries.map Prod.snd, noOmniSide o = false) →
      ∀ r, shutdownAllPairLevels fuel levels prices s ≠ some (.ok r) := by
  intro levels
  induction levels with
  | nil => intro _ _ h; simp at h
  | cons e rest ih =>
    intro prices s h r
    obtain ⟨price, indexes⟩ := e
    rw [shutdownAllPairLevels]
    split
    · simp
    · simp
    · rename_i c hrun
      rcases h with ⟨e, he, hwhc⟩
      rcases List.mem_cons.1 he with rfl | he
      · -- the level with the order: its loop does not end well
        exact absurd hrun (shutdownAllPairSet_ne_ok fuel ⟨indexes, 0, s⟩ (by simpa using hwhc) c)
      · exact ih _ _ ⟨e, he, hwhc⟩ r

/-- **A book holding an order with WHC or TWHC on a side is never shut down** by
`MetaDEx_SHUTDOWN_ALLPAIR`: for every fuel the walk runs out of it, or an assert fails. -/
theorem metaDExShutdownAllPair_ne_ok {book : MdPropertiesMap} {p : PropertyId} {q : ℚ}
    {o : CMPMetaDEx} (ho : InBook book p q o) (hwhc : noOmniSide o = false) (fuel : Nat)
    (s : OmniState) (r : MdPropertiesMap × OmniState) :
    metaDExShutdownAllPair fuel book s ≠ some (.ok r) := by
  obtain ⟨prices, indexes, hp, hq, hmem⟩ := ho
  have hprop : (p, prices) ∈ book.entries := OrdMap.mem_of_find? hp
  have hlevel : (q, indexes) ∈ prices.entries := OrdMap.mem_of_find? hq
  -- the walk over the properties meets `p`, whose walk over the levels meets `q`
  suffices h : ∀ (props : List (PropertyId × MdPricesMap)) (book' : MdPropertiesMap)
      (s : OmniState), (p, prices) ∈ props → ∀ r,
      shutdownAllPairProps fuel props book' s ≠ some (.ok r) from h _ _ _ hprop r
  intro props
  induction props with
  | nil => intro _ _ h; cases h
  | cons e rest ih =>
    intro book' s hin r
    obtain ⟨prop, prices'⟩ := e
    rw [shutdownAllPairProps]
    split
    · simp
    · simp
    · rename_i prices'' s'' hlevels
      rcases List.mem_cons.1 hin with heq | hin
      · rw [Prod.mk.injEq] at heq
        obtain ⟨rfl, rfl⟩ := heq
        exact absurd hlevels (shutdownAllPairLevels_ne_ok fuel _ _ _
          ⟨(q, indexes), hlevel, o, hmem, hwhc⟩ _)
      · exact ih _ _ hin r

/-- `alice`'s order: ten units of property `3` for five of WHC, from block `1`. -/
def whcPairOrder : CMPMetaDEx :=
  { block := 1, txid := 1, idx := 0, property := 3, amountForsale := 10, desiredProperty := 1,
    amountDesired := 5, amountRemaining := 10, addr := "alice" }

/-- The book holding `alice`'s order, at its unit price `1/2`. -/
def whcPairBook : MdPropertiesMap :=
  OrdMap.empty.insert 3
    (OrdMap.empty.insert whcPairOrder.unitPrice (MdSet.empty.insert whcPairOrder).1)

/-- A node whose tally holds `alice`'s reserve for the order. -/
def whcPairState (cfg : NodeConfig) : OmniState :=
  { OmniState.fresh cfg with
    tally := OrdMap.empty.insert "alice" ⟨OrdMap.empty.insert 3 { metadexReserve := 10 }⟩ }

/-- `alice`'s order takes WHC for property `3`: one hundred turns of each inner loop do not shut
the book down. -/
theorem whcPairBook_shutdown_ne_ok :
    InBook whcPairBook 3 whcPairOrder.unitPrice whcPairOrder ∧ noOmniSide whcPairOrder = false ∧
      ∀ r, metaDExShutdownAllPair 100 whcPairBook (whcPairState ⟨.regTest, true⟩) ≠ some (.ok r) := by
  have hin : InBook whcPairBook 3 whcPairOrder.unitPrice whcPairOrder :=
    ⟨OrdMap.empty.insert whcPairOrder.unitPrice (MdSet.empty.insert whcPairOrder).1,
      (MdSet.empty.insert whcPairOrder).1, rfl, by simp [OrdMap.find?_insert], by decide⟩
  exact ⟨hin, rfl, metaDExShutdownAllPair_ne_ok hin rfl 100 _⟩

/-- **`MetaDEx_SHUTDOWN_ALLPAIR` runs for ever on a book with an order of WHC.** The book of
`alice`'s one order of property `3` for WHC, with its reserve in the tally, satisfies the book
invariant; the inner loop stays on the order, and no fuel finishes the shutdown. -/
theorem metaDExShutdownAllPair_never_ends (cfg : NodeConfig) :
    MetaDExInv whcPairBook (whcPairState cfg).tally ∧
      ∀ fuel, metaDExShutdownAllPair fuel whcPairBook (whcPairState cfg) = none := by
  refine ⟨⟨fun p q o ho => ?_, fun a p => ?_⟩, fun fuel => ?_⟩
  · -- the one order sells `3` at `1/2`, with all of it left
    obtain ⟨prices, indexes, hp, hq, hmem⟩ := ho
    simp only [whcPairBook, OrdMap.find?_insert, OrdMap.find?_empty] at hp
    split_ifs at hp with hp3
    cases hp
    simp only [OrdMap.find?_insert, OrdMap.find?_empty] at hq
    split_ifs at hq with hq'
    cases hq
    have ho : o = whcPairOrder := by
      simp only [MdSet.insert, MdSet.empty, OrdMap.contains_eq, OrdMap.find?_empty, Option.isSome_none,
        Bool.false_eq_true, if_false, OrdMap.entries_empty_insert, List.map_cons, List.map_nil,
        List.mem_singleton] at hmem
      exact hmem
    subst hp3 hq' ho
    exact ⟨rfl, rfl, by decide, by decide⟩
  · -- the reserve of `alice` in `3` is the order's, every other reserve is `0`
    simp only [whcPairState, bookReserveOf, pricesReserveOf, MdSet.reserveOf, whcPairBook,
      OrdMap.sumBy, TallyMap.money, OrdMap.findD_insert, OrdMap.findD_empty, CMPTally.getMoney_eq]
    by_cases ha : a = "alice" <;> by_cases hp : p = 3 <;>
      simp [ha, hp, MdSet.insert, MdSet.empty, whcPairOrder, BalanceRecord.get, eq_comm]
  · -- the first level's loop never moves: its cursor is a fixed point
    have hfix : ∀ fuel, Loop.run shutdownAllPairTurn AllPairCursor.atEnd fuel
        ⟨(MdSet.empty.insert whcPairOrder).1, 0, whcPairState cfg⟩ = none := fun fuel =>
      @Loop.run_of_trap _ _ shutdownAllPairTurn AllPairCursor.atEnd
        (· = ⟨(MdSet.empty.insert whcPairOrder).1, 0, whcPairState cfg⟩)
        (fun c hc => by
          subst hc
          exact ⟨rfl, _, shutdownAllPairTurn_keep rfl rfl, rfl⟩) fuel _ rfl
    simp only [metaDExShutdownAllPair, whcPairBook, OrdMap.insert, OrdMap.insertL, OrdMap.empty,
      shutdownAllPairProps, shutdownAllPairLevels, hfix]

end WormholeCore
