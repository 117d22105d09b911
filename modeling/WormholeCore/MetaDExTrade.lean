/-
# `WormholeCore.MetaDExTrade` — matching an order against the book (`x_Trade`, `MetaDEx_ADD`).

`MetaDEx_ADD` builds the incoming order, lets `x_Trade` fill it against the resting orders that
want what it sells, and files what is left. `x_Trade` walks the price levels of the property the
incoming order wants, cheapest first, and in each level the orders by block and position. A fill
buys `nCouldBuy` of the resting order (rounded down from what the incoming order offers, at the
resting order's price) for `nWouldPay` (rounded up); it is skipped when nothing can be bought or
the rounded price is above the incoming order's. Between the fill's preconditions and the transfers
stand six postconditions; a fee of 0.05% is cut from non-WHC pairs once fees are active
(`IsFeatureActivated(FEATURE_FEES, block)`: the activation height is a parameter, since a
feature-activation message moves it). The resting order is erased and its remainder put back in
its place; the walk stops once the incoming order is filled.

The walk iterates the levels and each level's set while writing into them. A fill writes only the
level it is in, and the remainder goes back under the key it was erased from, before the
iterator; so the model walks the entries each level had when the walk reached it, and reads and
writes the live level of the book (`levelAt`, `writeLevel`).

The trade log (`recordMatchedTrade`) is the list of fills the model returns; the log database
itself is not modelled.

## What is proved here

* `xTradeAmounts_spec` — on `int64_t` amounts the 256-bit products, divisions and narrowings never
  fail, and a fill buys `0 < c ≤` what the resting order has left for `0 < w ≤` what the incoming
  order has left, at a rounded price between the two orders';
* `xTradeFee_spec`, `xTradeTransfers_spec` — the fee and the four asserted updates of a fill, which
  never fail under the supply bound, and what they move;
* `TradeInv.fill`, `TradeInv.offers`, `TradeInv.prices`, `xTrade_spec` — one fill, the walk over a
  level and the walk over the levels keep a run sound (`TradeInv`): a sound book, every supply
  with its cached fees as at the start, and every fill at a fair price;
* `metaDExAdd_spec`, `metaDEx_book_invariant` — `MetaDEx_ADD` and the cancels keep a sound book
  sound, and ADD fails only in the fee functions;
* `metaDExAdd_unpriced_order_asserts` — the book invariant alone is not enough: a resting order
  that wants nothing trips `x_Trade`'s assert on the prices.
-/
import WormholeCore.MetaDExBook
import WormholeCore.Crowd
import WormholeCore.Lib.WP
import WormholeCore.Lib.ProRata

namespace WormholeCore

open Lib

/-! ## The model -/

/-- `enum MatchReturnType`. -/
inductive MatchReturnType
  | nothing
  | traded
  | tradedMoreInSeller
  | tradedMoreInBuyer
  | added
  | cancelled
deriving DecidableEq, Repr

/-- **A fill, as `recordMatchedTrade` records it**: the resting order, the incoming one, what the
resting order's owner got (`seller_amountGot`), what the incoming order's owner got after the fee
(`buyer_amountGotAfterFee`), and the fee. -/
structure MatchedTrade where
  pold : CMPMetaDEx
  pnew : CMPMetaDEx
  sellerAmountGot : Int
  buyerAmountGotAfterFee : Int
  tradingFee : Int
deriving DecidableEq, Repr

/-- The price of a fill, `nWouldPay / nCouldBuy`: what was paid for what was bought before the
fee. -/
def MatchedTrade.effectivePrice (t : MatchedTrade) : ℚ :=
  (t.sellerAmountGot : ℚ) / (t.buyerAmountGotAfterFee + t.tradingFee)

/-- Where `x_Trade` is: the incoming order as it stands, the book, the state, the fills recorded,
`NewReturn` and `bBuyerSatisfied`. -/
structure TradeState where
  pnew : CMPMetaDEx
  book : MdPropertiesMap
  s : OmniState
  trades : List MatchedTrade
  ret : MatchReturnType
  satisfied : Bool

/-- `assert(cond)`: a failed assert aborts with its text. -/
def xAssert (c : Prop) [Decidable c] (what : String) : Except String Unit :=
  if c then pure () else throw what

/-- The preconditions of a fill. -/
def xTradePreconditions (pnew pold : CMPMetaDEx) : Except String Unit := do
  xAssert (0 < pold.amountRemaining) "x_Trade: assert(0 < pold->getAmountRemaining())"
  xAssert (0 < pnew.amountRemaining) "x_Trade: assert(0 < pnew->getAmountRemaining())"
  xAssert (pnew.property ≠ pnew.desiredProperty)
    "x_Trade: assert(pnew->getProperty() != pnew->getDesProperty())"
  xAssert (pnew.property = pold.desiredProperty)
    "x_Trade: assert(pnew->getProperty() == pold->getDesProperty())"
  xAssert (pold.property = pnew.desiredProperty)
    "x_Trade: assert(pold->getProperty() == pnew->getDesProperty())"
  xAssert (pold.unitPrice ≤ pnew.inversePrice)
    "x_Trade: assert(pold->unitPrice() <= pnew->inversePrice())"
  xAssert (pnew.unitPrice ≤ pold.inversePrice)
    "x_Trade: assert(pnew->unitPrice() <= pold->inversePrice())"

/-- **What the incoming order can buy** of the resting order (`nCouldBuy`): what its remainder
buys at the resting order's price, rounded down, capped by what the resting order has left. -/
def xTradeCouldBuy (pnew pold : CMPMetaDEx) : Except String Int := do
  let iCouldBuy ← Word256.div
    (Word256.mul (← convertTo256 pnew.amountRemaining) (← convertTo256 pold.amountForsale))
    (← convertTo256 pold.amountDesired)
  if iCouldBuy < (← convertTo256 pold.amountRemaining) then convertTo64 iCouldBuy
  else pure pold.amountRemaining

/-- **What it pays** (`nWouldPay`): the price of `nCouldBuy` at the resting order's price, rounded
up. -/
def xTradeWouldPay (pold : CMPMetaDEx) (nCouldBuy : Int) : Except String Int := do
  let iWouldPay ← divideAndRoundUp
    (Word256.mul (← convertTo256 nCouldBuy) (← convertTo256 pold.amountDesired))
    (← convertTo256 pold.amountForsale)
  convertTo64 iWouldPay

/-- **What a fill buys and pays**, or `none` when the order is passed: nothing can be bought, or
the rounded price is above the incoming order's. -/
def xTradeAmounts (pnew pold : CMPMetaDEx) : Except String (Option (Int × Int)) := do
  let nCouldBuy ← xTradeCouldBuy pnew pold
  if nCouldBuy = 0 then pure none
  else do
    let nWouldPay ← xTradeWouldPay pold nCouldBuy
    -- the adjusted unit price must not pass the incoming order's
    if pnew.inversePrice < (nWouldPay : ℚ) / nCouldBuy then pure none
    else pure (some (nCouldBuy, nWouldPay))

/-- The postconditions of a fill. -/
def xTradePostconditions (pnew pold : CMPMetaDEx) (nCouldBuy nWouldPay : Int) :
    Except String Unit := do
  let xEffectivePrice : ℚ := (nWouldPay : ℚ) / nCouldBuy
  let buyerAmountLeft := pnew.amountRemaining - nWouldPay
  let sellerAmountLeft := pold.amountRemaining - nCouldBuy
  xAssert (pold.unitPrice ≤ xEffectivePrice) "x_Trade: assert(xEffectivePrice >= pold->unitPrice())"
  xAssert (xEffectivePrice ≤ pnew.inversePrice)
    "x_Trade: assert(xEffectivePrice <= pnew->inversePrice())"
  xAssert (0 ≤ sellerAmountLeft) "x_Trade: assert(0 <= seller_amountLeft)"
  xAssert (0 ≤ buyerAmountLeft) "x_Trade: assert(0 <= buyer_amountLeft)"
  xAssert (pold.amountRemaining = sellerAmountLeft + nCouldBuy)
    "x_Trade: assert(seller_amountForSale == seller_amountLeft + buyer_amountGot)"
  xAssert (pnew.amountRemaining = buyerAmountLeft + nWouldPay)
    "x_Trade: assert(buyer_amountOffered == buyer_amountLeft + seller_amountGot)"

/-- **The fee of a fill**: once fees are active, a pair with neither side WHC or TWHC pays
`buyer_amountGot / 2000` of what the incoming order buys into the fee cache
(`(buyer_amountGotAfterFee, tradingFee, state)`). -/
def xTradeFee (debug : Bool) (feesFeatureBlock : Int) (pnew pold : CMPMetaDEx) (nCouldBuy : Int)
    (s : OmniState) : Except String (Int × Int × OmniState) :=
  if feesFeatureBlock ≤ pnew.block ∧ omniPropertyTwhc < pold.property ∧
      omniPropertyTwhc < pold.desiredProperty then do
    let tradingFee := nCouldBuy.tdiv 2000
    let s ← s.addFee debug pnew.desiredProperty pnew.block tradingFee
    pure (nCouldBuy - tradingFee, tradingFee, s)
  else pure (nCouldBuy, 0, s)

/-- **The transfers of a fill**: the payment from the incoming order's owner to the resting
order's, and what was bought from the resting order's reserve to the incoming order's owner. The
source's `seller_amountGot` is `nWouldPay` here, and its `buyer_amountGot` is `nCouldBuy`. -/
def xTradeTransfers (pnew pold : CMPMetaDEx) (nCouldBuy nWouldPay buyerAmountGotAfterFee : Int)
    (s : OmniState) : Except String OmniState := do
  let s ← s.assertUpdate
    "x_Trade: assert(update_tally_map(pnew->getAddr(), pnew->getProperty(), -seller_amountGot, BALANCE))"
    pnew.addr pnew.property (-nWouldPay) .balance
  let s ← s.assertUpdate
    "x_Trade: assert(update_tally_map(pold->getAddr(), pold->getDesProperty(), seller_amountGot, BALANCE))"
    pold.addr pold.desiredProperty nWouldPay .balance
  let s ← s.assertUpdate
    "x_Trade: assert(update_tally_map(pold->getAddr(), pold->getProperty(), -buyer_amountGot, METADEX_RESERVE))"
    pold.addr pold.property (-nCouldBuy) .metadexReserve
  s.assertUpdate
    "x_Trade: assert(update_tally_map(pnew->getAddr(), pnew->getDesProperty(), buyer_amountGotAfterFee, BALANCE))"
    pnew.addr pnew.desiredProperty buyerAmountGotAfterFee .balance

/-- The set of a level after a fill: the resting order erased, and its remainder, if any, put in
its place. -/
def fillLevel (indexes : MdSet) (k : MdKey) (pold : CMPMetaDEx) (sellerAmountLeft : Int) : MdSet :=
  let indexes := indexes.erase k
  if 0 < sellerAmountLeft then (indexes.insert { pold with amountRemaining := sellerAmountLeft }).1
  else indexes

/-- **One fill of `x_Trade`** against the resting order `pold`, stored under `k` in the level
`sellersPrice`: `none` when the order is passed (`++offerIt; continue`), else the state after the
trade. -/
def xTradeFill (debug : Bool) (feesFeatureBlock : Int) (sellersPrice : ℚ) (k : MdKey)
    (pold : CMPMetaDEx) (st : TradeState) : Except String (Option TradeState) := do
  xTradePreconditions st.pnew pold
  match ← xTradeAmounts st.pnew pold with
  | none => pure none
  | some (nCouldBuy, nWouldPay) =>
    xTradePostconditions st.pnew pold nCouldBuy nWouldPay
    let (buyerAmountGotAfterFee, tradingFee, s) ←
      xTradeFee debug feesFeatureBlock st.pnew pold nCouldBuy st.s
    let s ← xTradeTransfers st.pnew pold nCouldBuy nWouldPay buyerAmountGotAfterFee s
    let buyerAmountLeft := st.pnew.amountRemaining - nWouldPay
    let sellerAmountLeft := pold.amountRemaining - nCouldBuy
    let pnew := { st.pnew with amountRemaining := buyerAmountLeft }
    let ret :=
      if 0 < sellerAmountLeft then MatchReturnType.tradedMoreInSeller
      else if 0 < buyerAmountLeft then .tradedMoreInBuyer else .traded
    let trade : MatchedTrade := ⟨pold, pnew, nWouldPay, buyerAmountGotAfterFee, tradingFee⟩
    let pd := st.pnew.desiredProperty
    pure (some
      { pnew := pnew
        book := writeLevel st.book pd sellersPrice
          (fillLevel (levelAt st.book pd sellersPrice) k pold sellerAmountLeft)
        s := s
        trades := st.trades ++ [trade]
        ret := ret
        satisfied := st.satisfied || decide (buyerAmountLeft = 0) })

/-- **The orders of one price level**, from `offerIt` on: those that do not want what the incoming
order sells are passed; the walk stops once the incoming order is filled. -/
def xTradeOffers (debug : Bool) (feesFeatureBlock : Int) (sellersPrice : ℚ) :
    List (MdKey × CMPMetaDEx) → TradeState → Except String TradeState
  | [], st => pure st
  | (k, pold) :: rest, st =>
    if pold.unitPrice ≠ sellersPrice then throw "x_Trade: assert(pold->unitPrice() == sellersPrice)"
    -- does the desired property match?
    else if pold.desiredProperty ≠ st.pnew.property then
      xTradeOffers debug feesFeatureBlock sellersPrice rest st
    else do
      match ← xTradeFill debug feesFeatureBlock sellersPrice k pold st with
      | none => xTradeOffers debug feesFeatureBlock sellersPrice rest st
      | some st =>
        if st.satisfied then
          if st.pnew.amountRemaining ≠ 0 then throw "x_Trade: assert(buyer_amountLeft == 0)"
          else pure st
        else xTradeOffers debug feesFeatureBlock sellersPrice rest st

/-- **The price levels**, cheapest first: a level above the incoming order's inverse price is
passed; the walk stops once the incoming order is filled. -/
def xTradePrices (debug : Bool) (feesFeatureBlock : Int) :
    List (ℚ × MdSet) → TradeState → Except String TradeState
  | [], st => pure st
  | (sellersPrice, offers) :: rest, st =>
    if st.pnew.inversePrice < sellersPrice then xTradePrices debug feesFeatureBlock rest st
    else do
      let st ← xTradeOffers debug feesFeatureBlock sellersPrice offers.orders.entries st
      if st.satisfied then pure st else xTradePrices debug feesFeatureBlock rest st

/-- **`x_Trade`**: match the incoming order against the orders selling what it wants. -/
def xTrade (debug : Bool) (feesFeatureBlock : Int) (pnew : CMPMetaDEx) (book : MdPropertiesMap)
    (s : OmniState) : Except String TradeState :=
  let st : TradeState := ⟨pnew, book, s, [], .nothing, false⟩
  match book.find? pnew.desiredProperty with
  -- nothing for the desired property exists in the market
  | none => pure st
  | some ppriceMap => xTradePrices debug feesFeatureBlock ppriceMap.entries st

/-- **`MetaDEx_ADD`**: the code, the book, the state, and the fills. -/
def metaDExAdd (debug : Bool) (feesFeatureBlock : Int) (book : MdPropertiesMap) (s : OmniState)
    (senderAddr : Address) (prop : PropertyId) (amount block : Int) (propertyDesired : PropertyId)
    (amountDesired : Int) (txid : Uint256) (idx : Nat) :
    Except String (Int × MdPropertiesMap × OmniState × List MatchedTrade) := do
  let newMdex : CMPMetaDEx :=
    { block := block, txid := txid, idx := idx, property := prop, amountForsale := amount,
      desiredProperty := propertyDesired, amountDesired := amountDesired,
      amountRemaining := amount, addr := senderAddr }
  -- ensure this is not a badly priced trade (for example due to zero amounts)
  if newMdex.unitPrice ≤ 0 then pure (metadexError - 66, book, s, [])
  else do
    let st ← xTrade debug feesFeatureBlock newMdex book s
    -- insert the remaining order into the book, and move its tokens into reserve
    if 0 < st.pnew.amountRemaining then
      match metaDExInsert st.book st.pnew with
      | none => pure (metadexError - 70, st.book, st.s, st.trades)
      | some book => do
        let s ← st.s.assertUpdateTallyMap senderAddr prop (-st.pnew.amountRemaining)
        let s ← s.assertUpdateTally senderAddr prop st.pnew.amountRemaining .metadexReserve
        pure (0, book, s, st.trades)
    else pure (0, st.book, st.s, st.trades)

/-! ## Prices -/

namespace CMPMetaDEx

theorem unitPrice_eq {o : CMPMetaDEx} (h : 0 < o.amountForsale) :
    o.unitPrice = (o.amountDesired : ℚ) / o.amountForsale := by
  rw [unitPrice, if_pos (ne_of_gt h)]

theorem inversePrice_eq {o : CMPMetaDEx} (h : 0 < o.amountDesired) :
    o.inversePrice = (o.amountForsale : ℚ) / o.amountDesired := by
  rw [inversePrice, if_pos (ne_of_gt h)]

/-- **Two orders meet either way round**: when one's unit price is within the other's inverse
price, the other's is within the first's. -/
theorem unitPrice_le_inversePrice_swap {o o' : CMPMetaDEx} (hf : 0 < o.amountForsale)
    (hd : 0 < o.amountDesired) (hf' : 0 < o'.amountForsale) (hd' : 0 < o'.amountDesired)
    (h : o.unitPrice ≤ o'.inversePrice) : o'.unitPrice ≤ o.inversePrice := by
  have hfq : (0 : ℚ) < o.amountForsale := by exact_mod_cast hf
  have hdq : (0 : ℚ) < o.amountDesired := by exact_mod_cast hd
  have hfq' : (0 : ℚ) < o'.amountForsale := by exact_mod_cast hf'
  have hdq' : (0 : ℚ) < o'.amountDesired := by exact_mod_cast hd'
  rw [unitPrice_eq hf, inversePrice_eq hd', div_le_div_iff₀ hfq hdq'] at h
  rw [unitPrice_eq hf', inversePrice_eq hd, div_le_div_iff₀ hfq' hdq]
  linarith

/-- A price paid of `w` for `c` units is at least the unit price of an order selling `f` for `d`
when `c * d ≤ w * f`. -/
theorem unitPrice_le_div {o : CMPMetaDEx} (hf : 0 < o.amountForsale) {c w : Int} (hc : 0 < c)
    (h : c * o.amountDesired ≤ w * o.amountForsale) : o.unitPrice ≤ (w : ℚ) / c := by
  have hfq : (0 : ℚ) < o.amountForsale := by exact_mod_cast hf
  have hcq : (0 : ℚ) < c := by exact_mod_cast hc
  have hq : (c : ℚ) * o.amountDesired ≤ w * o.amountForsale := by exact_mod_cast h
  rw [unitPrice_eq hf, div_le_div_iff₀ hfq hcq]
  linarith

@[simp] theorem inversePrice_setRemaining (o : CMPMetaDEx) (r : Int) :
    ({ o with amountRemaining := r } : CMPMetaDEx).inversePrice = o.inversePrice := rfl

@[simp] theorem key_setRemaining (o : CMPMetaDEx) (r : Int) :
    ({ o with amountRemaining := r } : CMPMetaDEx).key = o.key := rfl

end CMPMetaDEx

/-! ## The steps of a fill -/

theorem xAssert_of {c : Prop} [Decidable c] {what : String} (h : c) : xAssert c what = .ok () := by
  rw [xAssert, if_pos h]
  rfl

theorem xTradePreconditions_ok {pnew pold : CMPMetaDEx} (h₁ : 0 < pold.amountRemaining)
    (h₂ : 0 < pnew.amountRemaining) (h₃ : pnew.property ≠ pnew.desiredProperty)
    (h₄ : pnew.property = pold.desiredProperty) (h₅ : pold.property = pnew.desiredProperty)
    (h₆ : pold.unitPrice ≤ pnew.inversePrice) (h₇ : pnew.unitPrice ≤ pold.inversePrice) :
    xTradePreconditions pnew pold = .ok () := by
  simp only [xTradePreconditions, xAssert_of h₁, xAssert_of h₂, xAssert_of h₃, xAssert_of h₄,
    xAssert_of h₅, xAssert_of h₆, xAssert_of h₇, Except.ok_bind]

theorem xTradePostconditions_ok {pnew pold : CMPMetaDEx} {c w : Int}
    (h₁ : pold.unitPrice ≤ (w : ℚ) / c) (h₂ : (w : ℚ) / c ≤ pnew.inversePrice)
    (h₃ : c ≤ pold.amountRemaining) (h₄ : w ≤ pnew.amountRemaining) :
    xTradePostconditions pnew pold c w = .ok () := by
  simp only [xTradePostconditions, xAssert_of h₁, xAssert_of h₂,
    xAssert_of (show 0 ≤ pold.amountRemaining - c by omega),
    xAssert_of (show 0 ≤ pnew.amountRemaining - w by omega),
    xAssert_of (show pold.amountRemaining = pold.amountRemaining - c + c by omega),
    xAssert_of (show pnew.amountRemaining = pnew.amountRemaining - w + w by omega), Except.ok_bind]

/-- The messages of `x_Trade`'s own asserts, its four asserted transfers among them. -/
def xTradeAsserts : List String :=
  ["x_Trade: assert(0 < pold->getAmountRemaining())",
    "x_Trade: assert(0 < pnew->getAmountRemaining())",
    "x_Trade: assert(pnew->getProperty() != pnew->getDesProperty())",
    "x_Trade: assert(pnew->getProperty() == pold->getDesProperty())",
    "x_Trade: assert(pold->getProperty() == pnew->getDesProperty())",
    "x_Trade: assert(pold->unitPrice() <= pnew->inversePrice())",
    "x_Trade: assert(pnew->unitPrice() <= pold->inversePrice())",
    "x_Trade: assert(xEffectivePrice >= pold->unitPrice())",
    "x_Trade: assert(xEffectivePrice <= pnew->inversePrice())",
    "x_Trade: assert(0 <= seller_amountLeft)",
    "x_Trade: assert(0 <= buyer_amountLeft)",
    "x_Trade: assert(seller_amountForSale == seller_amountLeft + buyer_amountGot)",
    "x_Trade: assert(buyer_amountOffered == buyer_amountLeft + seller_amountGot)",
    "x_Trade: assert(pold->unitPrice() == sellersPrice)",
    "x_Trade: assert(buyer_amountLeft == 0)",
    "x_Trade: assert(update_tally_map(pnew->getAddr(), pnew->getProperty(), -seller_amountGot, BALANCE))",
    "x_Trade: assert(update_tally_map(pold->getAddr(), pold->getDesProperty(), seller_amountGot, BALANCE))",
    "x_Trade: assert(update_tally_map(pold->getAddr(), pold->getProperty(), -buyer_amountGot, METADEX_RESERVE))",
    "x_Trade: assert(update_tally_map(pnew->getAddr(), pnew->getDesProperty(), buyer_amountGotAfterFee, BALANCE))"]

/-- None of `x_Trade`'s asserts is a message of the fee functions. -/
theorem xTradeAsserts_not_feeErrors : ∀ e ∈ xTradeAsserts, e ∉ OmniState.feeErrors := by
  decide

/-! ## The rounding of a fill -/

/-- Two `int64_t` amounts multiply below `2^256`. -/
theorem mul_lt_modulus {a b : Nat} (ha : (a : Int) ≤ int64Max) (hb : (b : Int) ≤ int64Max) :
    a * b < Word256.modulus := by
  have ha' : a < 2 ^ 128 := by unfold int64Max at ha; omega
  have hb' : b < 2 ^ 128 := by unfold int64Max at hb; omega
  calc a * b < 2 ^ 128 * 2 ^ 128 := Nat.mul_lt_mul'' ha' hb'
    _ = Word256.modulus := by norm_num [Word256.modulus]

/-- **What the incoming order can buy** (`nCouldBuy`): what its remainder `R` buys at the price
`d / f`, rounded down, capped by what the resting order has left, `r`. It costs at most `R`. -/
theorem couldBuy_spec (R f d r : Nat) :
    let c := if R * f / d < r then R * f / d else r
    c ≤ r ∧ c * d ≤ R * f := by
  intro c
  have hfloor : R * f / d * d ≤ R * f := Nat.div_mul_le_self _ _
  by_cases hlt : R * f / d < r
  · simp only [c, if_pos hlt]
    exact ⟨le_of_lt hlt, hfloor⟩
  · simp only [c, if_neg hlt]
    refine ⟨le_refl r, le_trans (Nat.mul_le_mul_right d (not_lt.1 hlt)) hfloor⟩

/-- **What it pays** (`nWouldPay`): the cost `c * d / f` rounded up; between the exact cost and
what the incoming order has left. -/
theorem wouldPay_spec {R f d c : Nat} (hf : 0 < f) (hd : 0 < d) (hc : 0 < c)
    (hcost : c * d ≤ R * f) :
    0 < (c * d) ⌈/⌉ f ∧ (c * d) ⌈/⌉ f ≤ R ∧ c * d ≤ (c * d) ⌈/⌉ f * f := by
  have hup : c * d ≤ f * ((c * d) ⌈/⌉ f) := (ceilDiv_le_iff_le_mul hf).1 le_rfl
  have hlt := ProRata.ceilDiv_mul_lt_add (c * d) hf
  have hpos : 0 < c * d := Nat.mul_pos hc hd
  rw [Nat.mul_comm f] at hup
  refine ⟨Nat.pos_of_ne_zero fun h0 => ?_, ?_, hup⟩
  · rw [h0, Nat.zero_mul] at hup
    omega
  · -- `w * f < c * d + f ≤ (R + 1) * f`
    have hR : (c * d) ⌈/⌉ f * f < (R + 1) * f := by rw [Nat.succ_mul]; omega
    exact Nat.lt_succ_iff.1 (Nat.lt_of_mul_lt_mul_right hR)

/-- **`nCouldBuy` in whole numbers**: the conversions and the division never fail on `int64_t`
amounts. -/
theorem xTradeCouldBuy_eq {pnew pold : CMPMetaDEx} {R f d r : Nat}
    (hR : pnew.amountRemaining = R) (hf : pold.amountForsale = f) (hd : pold.amountDesired = d)
    (hr : pold.amountRemaining = r) (hRmax : (R : Int) ≤ int64Max) (hfmax : (f : Int) ≤ int64Max)
    (hrmax : (r : Int) ≤ int64Max) (hdpos : 0 < d) :
    xTradeCouldBuy pnew pold = .ok ((if R * f / d < r then R * f / d else r : Nat) : Int) := by
  unfold xTradeCouldBuy
  rw [hR, hf, hd, hr]
  simp only [convertTo256_of_nonneg (Int.natCast_nonneg _), Int.toNat_natCast, Except.ok_bind,
    Word256.mul_of_lt (mul_lt_modulus hRmax hfmax), Word256.div_of_pos hdpos]
  split
  · exact convertTo64_of_le (by omega)
  · rfl

/-- **`nWouldPay` in whole numbers**: `⌈c * d / f⌉`. -/
theorem xTradeWouldPay_eq {pold : CMPMetaDEx} {f d c : Nat} (hf : pold.amountForsale = f)
    (hd : pold.amountDesired = d) (hcmax : (c : Int) ≤ int64Max) (hdmax : (d : Int) ≤ int64Max)
    (hfpos : 0 < f) (hwmax : (((c * d) ⌈/⌉ f : Nat) : Int) ≤ int64Max) :
    xTradeWouldPay pold c = .ok (((c * d) ⌈/⌉ f : Nat) : Int) := by
  unfold xTradeWouldPay
  rw [hf, hd]
  simp only [convertTo256_of_nonneg (Int.natCast_nonneg _), Int.toNat_natCast, Except.ok_bind,
    Word256.mul_of_lt (mul_lt_modulus hcmax hdmax),
    divideAndRoundUp_eq_ceilDiv hfpos (mul_lt_modulus hcmax hdmax)]
  exact convertTo64_of_le hwmax

/-- **The amounts of a fill**, for orders whose amounts are in the `int64_t` range: the conversions
and divisions never fail, and a fill that is made buys `c` with `0 < c ≤ r`, for `w` with
`0 < w ≤ R` and `c * d ≤ w * f`, at a price within the incoming order's. -/
theorem xTradeAmounts_spec {pnew pold : CMPMetaDEx} (hR : 0 < pnew.amountRemaining)
    (hRmax : pnew.amountRemaining ≤ int64Max) (hf : 0 < pold.amountForsale)
    (hfmax : pold.amountForsale ≤ int64Max) (hd : 0 < pold.amountDesired)
    (hdmax : pold.amountDesired ≤ int64Max) (hr : 0 < pold.amountRemaining)
    (hrmax : pold.amountRemaining ≤ int64Max) :
    Except.WP (xTradeAmounts pnew pold)
      (fun res => ∀ c w, res = some (c, w) → 0 < c ∧ c ≤ pold.amountRemaining ∧ 0 < w ∧
        w ≤ pnew.amountRemaining ∧ c * pold.amountDesired ≤ w * pold.amountForsale ∧
        ¬pnew.inversePrice < (w : ℚ) / c)
      (fun _ => False) := by
  -- the four amounts, as the naturals `ConvertTo256` makes of them
  obtain ⟨R, hRn⟩ : ∃ R : Nat, pnew.amountRemaining = R := ⟨_, (Int.toNat_of_nonneg hR.le).symm⟩
  obtain ⟨f, hfn⟩ : ∃ f : Nat, pold.amountForsale = f := ⟨_, (Int.toNat_of_nonneg hf.le).symm⟩
  obtain ⟨d, hdn⟩ : ∃ d : Nat, pold.amountDesired = d := ⟨_, (Int.toNat_of_nonneg hd.le).symm⟩
  obtain ⟨r, hrn⟩ : ∃ r : Nat, pold.amountRemaining = r := ⟨_, (Int.toNat_of_nonneg hr.le).symm⟩
  rw [hRn] at hR hRmax ⊢
  rw [hfn] at hf hfmax ⊢
  rw [hdn] at hd hdmax ⊢
  rw [hrn] at hr hrmax ⊢
  obtain ⟨hcr, hcost⟩ := couldBuy_spec R f d r
  unfold xTradeAmounts
  rw [xTradeCouldBuy_eq hRn hfn hdn hrn hRmax hfmax hrmax (by omega), Except.ok_bind]
  generalize (if R * f / d < r then R * f / d else r) = c at hcr hcost
  apply Except.WP.ite
  · intro _ c' w' h
    cases h
  intro hc0
  have hc : 0 < c := by omega
  obtain ⟨hw, hwR, hwcost⟩ := wouldPay_spec (show 0 < f by omega) (show 0 < d by omega) hc hcost
  rw [xTradeWouldPay_eq hfn hdn (by omega) hdmax (by omega) (by omega), Except.ok_bind]
  apply Except.WP.ite
  · intro _ c' w' h
    cases h
  · intro hprice c' w' h
    cases h
    exact ⟨by exact_mod_cast hc, by exact_mod_cast hcr, by exact_mod_cast hw,
      by exact_mod_cast hwR, by exact_mod_cast hwcost, hprice⟩

/-! ## The fee and the transfers of a fill -/

/-- **The fee of a fill** of `c > 0` units: what the incoming order gets and the fee make up `c`,
the incoming order gets something, and the state moves as `AddFee` moves it; or `AddFee` fails. -/
theorem xTradeFee_spec {debug : Bool} {feesFeatureBlock : Int} {pnew pold : CMPMetaDEx} {c : Int}
    {s : OmniState} (hs : s.Sound pnew.block) (hc : 0 < c) :
    Except.WP (xTradeFee debug feesFeatureBlock pnew pold c s)
      (fun r => r.1 + r.2.1 = c ∧ 0 < r.1 ∧ 0 ≤ r.2.1 ∧ r.2.2.Sound pnew.block ∧
        r.2.2.stores = s.stores ∧
        (∀ q, r.2.2.tally.sumHolding q + r.2.2.feeCache.getCachedAmount q =
          s.tally.sumHolding q + s.feeCache.getCachedAmount q +
            if pnew.desiredProperty = q then r.2.1 else 0) ∧
        ∀ a q k, (k ≠ .balance ∨ q ≠ pnew.desiredProperty) →
          r.2.2.tally.money a q k = s.tally.money a q k)
      (· ∈ OmniState.feeErrors) := by
  unfold xTradeFee
  apply Except.WP.ite
  · -- a non-WHC pair once fees are active: `c / 2000` goes to the cache
    intro _
    have hfee : 0 ≤ c.tdiv 2000 ∧ c.tdiv 2000 < c := by
      rw [Int.tdiv_eq_ediv_of_nonneg hc.le]
      omega
    refine Except.WP.bind (OmniState.wp_addFee hs hfee.1) fun s' hs' => Except.WP.pure ?_
    obtain ⟨hsound, hst, hsupply, hmoney⟩ := hs'
    exact ⟨Int.sub_add_cancel _ _, by omega, hfee.1, hsound, hst, hsupply, hmoney⟩
  · intro _
    exact Except.WP.pure ⟨Int.add_zero c, hc, le_refl 0, hs, rfl, fun q => by simp,
      fun _ _ _ _ => rfl⟩

/-- **The transfers of a fill never fail** when the incoming order's owner can pay `w`, is not
frozen, the resting order's reserve covers `c`, and the supplies leave room: the payment property
moves between the two owners, `c` leaves the reserve, and `afterFee` of it reaches the incoming
order's owner. -/
theorem xTradeTransfers_spec {pnew pold : CMPMetaDEx} {c w afterFee block : Int} {s : OmniState}
    (hs : s.Sound block) (hc : 0 < c) (hw : 0 < w) (hafter : 0 < afterFee)
    (hprop : pnew.property ≠ pnew.desiredProperty) (hpd : pold.property = pnew.desiredProperty)
    (hpp : pold.desiredProperty = pnew.property)
    (hsupply : s.tally.sumHolding pnew.property ≤ int64Max)
    (hsupplyD : s.tally.sumHolding pnew.desiredProperty + afterFee ≤ int64Max + c)
    (hfunds : w ≤ s.tally.money pnew.addr pnew.property .balance)
    (hfrozen : isAddressFrozen s.frozen pnew.addr pnew.property = false)
    (hres : c ≤ s.tally.money pold.addr pold.property .metadexReserve) :
    ∃ s', xTradeTransfers pnew pold c w afterFee s = .ok s' ∧ s'.Sound block ∧
      s'.stores = s.stores ∧ s'.feeCache = s.feeCache ∧
      (∀ q, s'.tally.sumHolding q =
        s.tally.sumHolding q + if q = pnew.desiredProperty then afterFee - c else 0) ∧
      (∀ a q, s'.tally.money a q .metadexReserve = s.tally.money a q .metadexReserve -
        if pold.addr = a ∧ pold.property = q then c else 0) ∧
      s.tally.money pnew.addr pnew.property .balance - w ≤
        s'.tally.money pnew.addr pnew.property .balance := by
  -- the payment leaves the incoming order's owner
  obtain ⟨s₁, h₁⟩ := OmniState.assertUpdateTallyMap_of_range (s := s)
    (p := pnew.property) (a := -w) (by omega) (hs.money_mem pnew.addr pnew.property (by decide))
    ⟨by omega, by have := (hs.money_mem pnew.addr pnew.property (k := .balance) (by decide)).2; omega⟩
    (by rw [hfrozen]; simp)
  have hs₁ := hs.assertUpdateTallyMap h₁
  have hsum₁ := OmniState.sumHolding_assertUpdateTallyMap h₁
  -- and reaches the resting order's owner: at most the supply, less what just left
  have hroom₂ := hs₁.money_le_sumHolding pold.addr pnew.property (k := .balance) (by decide)
  rw [hsum₁, if_pos rfl] at hroom₂
  obtain ⟨s₂, h₂⟩ := OmniState.assertUpdateTallyMap_of_range (s := s₁)
    (p := pold.desiredProperty) (a := w) (by omega)
    (hs₁.money_mem pold.addr pold.desiredProperty (by decide))
    ⟨by have := (hs₁.money_mem pold.addr pold.desiredProperty (k := .balance) (by decide)).1; omega,
      by rw [hpp]; omega⟩ (by omega)
  have hs₂ := hs₁.assertUpdateTallyMap h₂
  have hsum₂ := OmniState.sumHolding_assertUpdateTallyMap h₂
  -- what was bought leaves the resting order's reserve, untouched so far
  have hres₂ : s₂.tally.money pold.addr pold.property .metadexReserve =
      s.tally.money pold.addr pold.property .metadexReserve := by
    rw [OmniState.money_assertUpdateTallyMap h₂, OmniState.money_assertUpdateTallyMap h₁]
    simp
  obtain ⟨s₃, h₃⟩ := OmniState.assertUpdateTally_of_range (s := s₂)
    (p := pold.property) (a := -c) (k := .metadexReserve) (by decide) (by omega)
    (hs₂.money_mem pold.addr pold.property (by decide))
    ⟨by omega, by have := (hs₂.money_mem pold.addr pold.property (k := .metadexReserve)
      (by decide)).2; omega⟩ (by simp)
  have hs₃ := hs₂.assertUpdateTally h₃
  have hsum₃ := OmniState.sumHolding_assertUpdateTally h₃ (by decide)
  -- and reaches the incoming order's owner, less the fee
  have hroom₄ := hs₃.money_le_sumHolding pnew.addr pnew.desiredProperty (k := .balance) (by decide)
  rw [hsum₃, hsum₂, hsum₁, hpp, hpd, if_neg (Ne.symm hprop), if_neg (Ne.symm hprop),
    if_pos rfl] at hroom₄
  obtain ⟨s₄, h₄⟩ := OmniState.assertUpdateTallyMap_of_range (s := s₃)
    (p := pnew.desiredProperty) (a := afterFee) (by omega)
    (hs₃.money_mem pnew.addr pnew.desiredProperty (by decide))
    ⟨by have := (hs₃.money_mem pnew.addr pnew.desiredProperty (k := .balance) (by decide)).1
        omega, by omega⟩ (by omega)
  refine ⟨s₄, ?_, hs₃.assertUpdateTallyMap h₄, ?_, ?_, fun q => ?_, fun a q => ?_, ?_⟩
  · -- the transfers are these four updates, under their own messages
    rw [xTradeTransfers, OmniState.assertUpdate_rename h₁, Except.ok_bind,
      OmniState.assertUpdate_rename h₂, Except.ok_bind, OmniState.assertUpdate_rename h₃,
      Except.ok_bind]
    exact OmniState.assertUpdate_rename h₄
  · rw [(OmniState.assertUpdateTallyMap_frame h₄).1, (OmniState.assertUpdateTally_frame h₃).1,
      (OmniState.assertUpdateTallyMap_frame h₂).1, (OmniState.assertUpdateTallyMap_frame h₁).1]
  · rw [(OmniState.assertUpdateTallyMap_frame h₄).2, (OmniState.assertUpdateTally_frame h₃).2,
      (OmniState.assertUpdateTallyMap_frame h₂).2, (OmniState.assertUpdateTallyMap_frame h₁).2]
  · -- the payment property comes and goes; the bought property loses `c` and gains `afterFee`
    rw [OmniState.sumHolding_assertUpdateTallyMap h₄, hsum₃, hsum₂, hsum₁, hpd, hpp]
    split_ifs <;> omega
  · rw [OmniState.money_assertUpdateTallyMap h₄, OmniState.money_assertUpdateTally h₃,
      OmniState.money_assertUpdateTallyMap h₂, OmniState.money_assertUpdateTallyMap h₁]
    by_cases ha : pold.addr = a ∧ pold.property = q
    · obtain ⟨rfl, rfl⟩ := ha
      simp
      omega
    · have ha' : ¬(a = pold.addr ∧ q = pold.property) := fun h => ha ⟨h.1.symm, h.2.symm⟩
      simp [ha, ha']
  · -- the payment property's balance of the incoming order's owner went down by `w` at most
    rw [OmniState.money_assertUpdateTallyMap h₄, OmniState.money_assertUpdateTally h₃,
      OmniState.money_assertUpdateTallyMap h₂, OmniState.money_assertUpdateTallyMap h₁]
    simp only [and_false, if_false, reduceCtorEq, and_self, if_true, true_and]
    split <;> omega

/-! ## What a fill does to its level -/

namespace MdSet

theorem mem_orders_iff {indexes : MdSet} {o : CMPMetaDEx} :
    o ∈ indexes.orders.entries.map Prod.snd ↔ ∃ k, indexes.orders.find? k = some o := by
  constructor
  · intro h
    obtain ⟨⟨k, o'⟩, he, rfl⟩ := List.mem_map.1 h
    exact ⟨k, OrdMap.find?_of_mem he⟩
  · rintro ⟨k, hk⟩
    exact List.mem_map.2 ⟨(k, o), OrdMap.mem_of_find? hk, rfl⟩

theorem find?_insert_fst {indexes : MdSet} {o : CMPMetaDEx} (h : indexes.orders.find? o.key = none)
    (k' : MdKey) :
    (indexes.insert o).1.orders.find? k' = if o.key = k' then some o else indexes.orders.find? k' := by
  rw [insert_eq_true h]
  exact OrdMap.find?_insert _ _ _ _

end MdSet

/-- **A level after a fill**: under the filled order's key, its remainder if it has one; every
other key as before. -/
theorem find?_fillLevel (indexes : MdSet) {k : MdKey} {pold : CMPMetaDEx} (hkey : pold.key = k)
    (left : Int) (k' : MdKey) :
    (fillLevel indexes k pold left).orders.find? k' =
      if k = k' then (if 0 < left then some { pold with amountRemaining := left } else none)
      else indexes.orders.find? k' := by
  unfold fillLevel
  dsimp only
  split
  · -- the remainder goes back under the key just erased
    have hfree : (indexes.erase k).orders.find? ({ pold with amountRemaining := left }).key = none := by
      rw [CMPMetaDEx.key_setRemaining, hkey, MdSet.find?_erase, if_pos rfl]
    rw [MdSet.find?_insert_fst hfree, CMPMetaDEx.key_setRemaining, hkey, MdSet.find?_erase]
    by_cases hk : k = k' <;> simp [hk]
  · rw [MdSet.find?_erase]

/-- **What a level reserves after a fill** of `c` units of its order `pold`: `c` less for
`pold`'s owner and property. -/
theorem reserveOf_fillLevel {indexes : MdSet} {k : MdKey} {pold : CMPMetaDEx}
    (hk : indexes.orders.find? k = some pold) (hkey : pold.key = k) {c : Int}
    (hcr : c ≤ pold.amountRemaining) (a : Address) (p : PropertyId) :
    (fillLevel indexes k pold (pold.amountRemaining - c)).reserveOf a p =
      indexes.reserveOf a p - if pold.addr = a ∧ pold.property = p then c else 0 := by
  have herase := MdSet.reserveOf_erase hk a p
  unfold fillLevel
  dsimp only
  split
  · have hfree : (indexes.erase k).orders.find?
        ({ pold with amountRemaining := pold.amountRemaining - c }).key = none := by
      rw [CMPMetaDEx.key_setRemaining, hkey, MdSet.find?_erase, if_pos rfl]
    rw [MdSet.reserveOf_insert hfree, herase]
    simp only [MdSet.weight]
    split <;> omega
  · rw [herase, MdSet.weight]
    split <;> omega

/-- **The orders of a book after one level is rewritten**: those it had, or orders the new set
holds that the old one did not, each satisfying what the rewrite promises of them. -/
theorem inBook_writeLevel_cases {book : MdPropertiesMap} {p : PropertyId} {q : ℚ} {L : MdSet}
    {P : CMPMetaDEx → Prop}
    (hL : ∀ k o, L.orders.find? k = some o → (levelAt book p q).orders.find? k = some o ∨ P o)
    {p' : PropertyId} {q' : ℚ} {o : CMPMetaDEx} (h : InBook (writeLevel book p q L) p' q' o) :
    InBook book p' q' o ∨ (p' = p ∧ q' = q ∧ P o) := by
  rw [inBook_writeLevel] at h
  split at h
  · next hpq =>
    obtain ⟨rfl, rfl⟩ := hpq
    obtain ⟨k, hk⟩ := MdSet.mem_orders_iff.1 h
    rcases hL k o hk with hk' | hP
    · exact .inl (inBook_iff.2 (MdSet.mem_orders_iff.2 ⟨k, hk'⟩))
    · exact .inr ⟨rfl, rfl, hP⟩
  · exact .inl h

/-- **The orders of a book after a fill**: those it had, or the filled order's remainder, at the
filled level. -/
theorem inBook_fill {book : MdPropertiesMap} {pd : PropertyId} {price : ℚ} {k : MdKey}
    {pold : CMPMetaDEx} (hkey : pold.key = k) {left : Int} {p : PropertyId} {q : ℚ}
    {o : CMPMetaDEx}
    (h : InBook (writeLevel book pd price (fillLevel (levelAt book pd price) k pold left)) p q o) :
    InBook book p q o ∨
      (p = pd ∧ q = price ∧ (o = { pold with amountRemaining := left } ∧ 0 < left)) := by
  refine inBook_writeLevel_cases (P := fun o => o = { pold with amountRemaining := left } ∧ 0 < left)
    (fun k' o' hk' => ?_) h
  rw [find?_fillLevel _ hkey] at hk'
  split at hk'
  · split at hk'
    · exact .inr ⟨(Option.some.inj hk').symm, ‹_›⟩
    · cases hk'
  · exact .inl hk'

/-- **A fill keeps a book sound**: the level's order is replaced by its remainder, and the state
moved its reserve by `c` and kept every supply with its cached fees. -/
theorem MetaDExSound.fill {block : Int} {book : MdPropertiesMap} {s s' : OmniState}
    {pd : PropertyId} {price : ℚ} {k : MdKey} {pold : CMPMetaDEx} {c : Int}
    (h : MetaDExSound block book s) (hk : (levelAt book pd price).orders.find? k = some pold)
    (hc : 0 ≤ c) (hcr : c ≤ pold.amountRemaining) (hs' : s'.Sound block)
    (hres : ∀ a p, s'.tally.money a p .metadexReserve = s.tally.money a p .metadexReserve -
      if pold.addr = a ∧ pold.property = p then c else 0)
    (hsupply : ∀ p, s'.tally.sumHolding p + s'.feeCache.getCachedAmount p =
      s.tally.sumHolding p + s.feeCache.getCachedAmount p) :
    MetaDExSound block
      (writeLevel book pd price (fillLevel (levelAt book pd price) k pold (pold.amountRemaining - c)))
      s' := by
  have hkey : pold.key = k := (levelAt book pd price).keyed _ (OrdMap.mem_of_find? hk)
  have hin : InBook book pd price pold := inBook_iff.2 (MdSet.mem_orders_iff.2 ⟨k, hk⟩)
  obtain ⟨hprop, hprice, -, hle⟩ := h.inv.shape pd price pold hin
  refine ⟨⟨fun p q o ho => ?_, fun a p => ?_⟩, fun p q o ho => ?_, hs', fun p => ?_⟩
  · -- the remainder sells what `pold` sold, at its price
    rcases inBook_fill hkey ho with ho | ⟨rfl, rfl, rfl, hleft⟩
    · exact h.inv.shape p q o ho
    · exact ⟨hprop, hprice, hleft, by dsimp only; omega⟩
  · rw [hres, h.inv.reserve, bookReserveOf_writeLevel, reserveOf_fillLevel hk hkey hcr]
    omega
  · rcases inBook_fill hkey ho with ho | ⟨rfl, rfl, rfl, -⟩
    · exact h.priced p q o ho
    · exact h.priced _ _ pold hin
  · rw [hsupply p]
    exact h.supply p

/-- **The preconditions of a fill hold** against an order of the level the incoming order wants,
at a price it accepts. -/
theorem MetaDExSound.preconditions {block : Int} {book : MdPropertiesMap} {s : OmniState}
    (h : MetaDExSound block book s) {pnew pold : CMPMetaDEx} {price : ℚ}
    (hin : InBook book pnew.desiredProperty price pold) (hprice : price ≤ pnew.inversePrice)
    (hwant : pold.desiredProperty = pnew.property) (hR : 0 < pnew.amountRemaining)
    (hf : 0 < pnew.amountForsale) (hd : 0 < pnew.amountDesired)
    (hdistinct : pnew.property ≠ pnew.desiredProperty) :
    xTradePreconditions pnew pold = .ok () := by
  obtain ⟨hprop, hq, hr, hle⟩ := h.inv.shape _ _ _ hin
  have hpd := (h.priced _ _ _ hin).1
  have h₆ : pold.unitPrice ≤ pnew.inversePrice := hq ▸ hprice
  exact xTradePreconditions_ok hr hR hdistinct hwant.symm hprop h₆
    (CMPMetaDEx.unitPrice_le_inversePrice_swap (by omega) hpd hf hd h₆)

/-! ## A run of `x_Trade` -/

/-- **An incoming order `x_Trade` can match**, from the state `s₀`: it sells something and wants
something, both amounts in the `int64_t` range, what it has left at most what it sells, two
distinct properties, and a sender not frozen for the property it sells. -/
structure Incoming (s₀ : OmniState) (o : CMPMetaDEx) : Prop where
  forsale : 0 < o.amountForsale
  priced : o.Priced
  remaining : o.amountRemaining ≤ o.amountForsale
  distinct : o.property ≠ o.desiredProperty
  notFrozen : isAddressFrozen s₀.frozen o.addr o.property = false

/-- **Where a run of `x_Trade` stands**, for the incoming order `pnew₀` from the state `s₀`: the
book is sound, every supply with its cached fees is as in `s₀`, the other stores too; the incoming
order has only its remainder changed, which its owner can still pay and which is `0` exactly when
it is satisfied; and every fill so far was at a price between the two orders'. -/
structure TradeInv (pnew₀ : CMPMetaDEx) (s₀ : OmniState) (st : TradeState) : Prop where
  sound : MetaDExSound pnew₀.block st.book st.s
  supply : ∀ p, st.s.tally.sumHolding p + st.s.feeCache.getCachedAmount p =
    s₀.tally.sumHolding p + s₀.feeCache.getCachedAmount p
  stores : st.s.stores = s₀.stores
  pnew : st.pnew = { pnew₀ with amountRemaining := st.pnew.amountRemaining }
  remaining : 0 ≤ st.pnew.amountRemaining ∧ st.pnew.amountRemaining ≤ pnew₀.amountRemaining
  satisfied : st.satisfied = true ↔ st.pnew.amountRemaining = 0
  funds : st.pnew.amountRemaining ≤ st.s.tally.money pnew₀.addr pnew₀.property .balance
  fair : ∀ t ∈ st.trades, t.pold.unitPrice ≤ t.effectivePrice ∧
    t.effectivePrice ≤ pnew₀.inversePrice

theorem MatchedTrade.effectivePrice_eq {t : MatchedTrade} {c : Int}
    (h : t.buyerAmountGotAfterFee + t.tradingFee = c) :
    t.effectivePrice = (t.sellerAmountGot : ℚ) / c := by
  rw [effectivePrice, ← h]
  push_cast
  rfl

/-- **One fill keeps a run sound**: against an order of the level the incoming order wants, at a
price it accepts, a fill fails only in `AddFee`; when it is made, the run is still sound, and the
book changed only at that order's key of that level. -/
theorem TradeInv.fill {debug : Bool} {feesFeatureBlock : Int} {pnew₀ : CMPMetaDEx}
    {s₀ : OmniState} (hin : Incoming s₀ pnew₀) {st : TradeState} (hinv : TradeInv pnew₀ s₀ st)
    (hsat : st.satisfied = false) {price : ℚ} (hprice : price ≤ pnew₀.inversePrice) {k : MdKey}
    {pold : CMPMetaDEx} (hk : (levelAt st.book pnew₀.desiredProperty price).orders.find? k = some pold)
    (hwant : pold.desiredProperty = pnew₀.property) :
    Except.WP (xTradeFill debug feesFeatureBlock price k pold st)
      (fun r => ∀ st', r = some st' → TradeInv pnew₀ s₀ st' ∧
        ∃ L, st'.book = writeLevel st.book pnew₀.desiredProperty price L ∧
          ∀ k', k' ≠ k → L.orders.find? k' = (levelAt st.book pnew₀.desiredProperty price).orders.find? k')
      (· ∈ OmniState.feeErrors) := by
  -- the incoming order as it stands: `pnew₀` with its remainder `R`
  obtain ⟨pnew, book, s, trades, ret, satisfied⟩ := st
  obtain ⟨hsound, hsupply, hstores, hpnew, ⟨hR0, hRle⟩, hsatiff, hfunds, hfair⟩ := hinv
  dsimp only at hsat hk hsound hsupply hstores hpnew hR0 hRle hsatiff hfunds hfair ⊢
  generalize pnew.amountRemaining = R at hpnew hR0 hRle hsatiff hfunds
  subst hpnew hsat
  set pnew : CMPMetaDEx := { pnew₀ with amountRemaining := R } with hpnew
  have hpR : pnew.amountRemaining = R := rfl
  obtain ⟨hf₀, ⟨hd₀, hfmax₀, -⟩, hrem₀, hdistinct, hfrozen₀⟩ := hin
  have hR : 0 < pnew.amountRemaining := by
    have : R ≠ 0 := fun h0 => Bool.false_ne_true (hsatiff.2 h0)
    omega
  -- the resting order is a live order of the level
  have hinBook : InBook book pnew.desiredProperty price pold :=
    inBook_iff.2 (MdSet.mem_orders_iff.2 ⟨k, hk⟩)
  obtain ⟨hpd, -, hr, hrle⟩ := hsound.inv.shape _ _ _ hinBook
  obtain ⟨hdpos, hfmax, hdmax⟩ := hsound.priced _ _ _ hinBook
  have hreserve := hsound.remaining_le_reserve hk
  unfold xTradeFill
  dsimp only
  rw [hsound.preconditions hinBook hprice hwant hR hf₀ hd₀ hdistinct, Except.ok_bind]
  refine Except.WP.bind ((xTradeAmounts_spec hR (by omega) (by omega) hfmax hdpos hdmax hr
    (by omega)).mono (fun _ h => h) fun _ h => h.elim) fun res hres => ?_
  rcases res with _ | ⟨c, w⟩
  · exact Except.WP.pure fun _ h => by cases h
  obtain ⟨hc, hcr, hw, hwR, hcost, hnotlt⟩ := hres c w rfl
  have hlow := CMPMetaDEx.unitPrice_le_div (by omega) hc hcost
  have hhigh := not_lt.1 hnotlt
  dsimp only
  rw [xTradePostconditions_ok hlow hhigh hcr hwR, Except.ok_bind]
  have hfeeWP : Except.WP (xTradeFee debug feesFeatureBlock pnew pold c s) _ _ :=
    xTradeFee_spec hsound.sound hc
  refine Except.WP.bind hfeeWP fun fr hfr => ?_
  obtain ⟨afterFee, fee, s₁⟩ := fr
  obtain ⟨hsplit, hafter, hfee, hs₁, hst₁, hsup₁, hmon₁⟩ := hfr
  dsimp only at hsplit hafter hfee hs₁ hst₁ hsup₁ hmon₁ ⊢
  -- the fee moved only balances of the bought property
  have hbal₁ : s₁.tally.money pnew₀.addr pnew₀.property .balance =
      s.tally.money pnew₀.addr pnew₀.property .balance := hmon₁ _ _ _ (.inr hdistinct)
  have hres₁ : ∀ a p, s₁.tally.money a p .metadexReserve = s.tally.money a p .metadexReserve :=
    fun a p => hmon₁ a p _ (.inl (by decide))
  have hroom₁ : s₁.tally.sumHolding pnew₀.property ≤ int64Max := by
    have h₁ := hsup₁ pnew₀.property
    rw [if_neg hdistinct.symm] at h₁
    have := hsound.supply pnew₀.property
    have := hs₁.cached pnew₀.property
    omega
  have hroomD₁ : s₁.tally.sumHolding pnew₀.desiredProperty + afterFee ≤ int64Max + c := by
    have h₁ := hsup₁ pnew₀.desiredProperty
    rw [if_pos rfl] at h₁
    have := hsound.supply pnew₀.desiredProperty
    have := hs₁.cached pnew₀.desiredProperty
    omega
  have hfrozen₁ : isAddressFrozen s₁.frozen pnew₀.addr pnew₀.property = false := by
    rw [show s₁.frozen = s₀.frozen from congrArg Prod.fst (hst₁.trans hstores)]
    exact hfrozen₀
  obtain ⟨s₂, h₂, hs₂, hst₂, hfc₂, hsum₂, hres₂, hfunds₂⟩ :=
    xTradeTransfers_spec hs₁ hc hw hafter (show pnew.property ≠ pnew.desiredProperty from hdistinct)
      hpd hwant hroom₁ hroomD₁
      (by show w ≤ s₁.tally.money pnew₀.addr pnew₀.property .balance; omega) hfrozen₁
      (by rw [hres₁]; omega)
  have hfunds₂' : s₁.tally.money pnew₀.addr pnew₀.property .balance - w ≤
      s₂.tally.money pnew₀.addr pnew₀.property .balance := hfunds₂
  rw [h₂, Except.ok_bind]
  refine Except.WP.pure fun st' hst' => ?_
  cases hst'
  -- every supply with its cached fees is back where it was
  have hsup₂ : ∀ p, s₂.tally.sumHolding p + s₂.feeCache.getCachedAmount p =
      s.tally.sumHolding p + s.feeCache.getCachedAmount p := by
    intro p
    have h₁ := hsup₁ p
    rw [hsum₂ p, hfc₂]
    by_cases hp : p = pnew.desiredProperty
    · rw [if_pos hp]
      rw [if_pos hp.symm] at h₁
      omega
    · rw [if_neg hp]
      rw [if_neg (Ne.symm hp)] at h₁
      omega
  have hkey : pold.key = k := (levelAt book _ price).keyed _ (OrdMap.mem_of_find? hk)
  refine ⟨⟨hsound.fill hk hc.le hcr hs₂ (fun a p => by rw [hres₂, hres₁]) hsup₂,
    fun p => (hsup₂ p).trans (hsupply p), hst₂.trans (hst₁.trans hstores), rfl,
    ⟨by dsimp only; omega, by dsimp only; omega⟩, by simp, by dsimp only; omega, fun t ht => ?_⟩,
    _, rfl, fun k' hk' => by rw [find?_fillLevel _ hkey, if_neg (Ne.symm hk')]⟩
  -- the new fill is at `w / c`, between the two prices
  rcases List.mem_append.1 ht with ht | ht
  · exact hfair t ht
  · rw [List.mem_singleton] at ht
    subst ht
    rw [MatchedTrade.effectivePrice_eq hsplit]
    exact ⟨hlow, hhigh⟩

theorem TradeInv.pnew_property {pnew₀ : CMPMetaDEx} {s₀ : OmniState} {st : TradeState}
    (hinv : TradeInv pnew₀ s₀ st) : st.pnew.property = pnew₀.property := by
  rw [hinv.pnew]

theorem TradeInv.pnew_inversePrice {pnew₀ : CMPMetaDEx} {s₀ : OmniState} {st : TradeState}
    (hinv : TradeInv pnew₀ s₀ st) : st.pnew.inversePrice = pnew₀.inversePrice := by
  rw [hinv.pnew, CMPMetaDEx.inversePrice_setRemaining]

/-- **The walk over the orders of one level** keeps a run sound, when every order still to visit is
live in the level: an order that does not want what the incoming order sells is passed, and every
other is filled or passed by `TradeInv.fill`. Only the walked level changes. -/
theorem TradeInv.offers {debug : Bool} {feesFeatureBlock : Int} {pnew₀ : CMPMetaDEx}
    {s₀ : OmniState} (hin : Incoming s₀ pnew₀) {price : ℚ} (hprice : price ≤ pnew₀.inversePrice) :
    ∀ (l : List (MdKey × CMPMetaDEx)) (st : TradeState), TradeInv pnew₀ s₀ st →
      st.satisfied = false → l.Pairwise (fun a b => a.1 < b.1) →
      (∀ e ∈ l, (levelAt st.book pnew₀.desiredProperty price).orders.find? e.1 = some e.2) →
      Except.WP (xTradeOffers debug feesFeatureBlock price l st)
        (fun st' => TradeInv pnew₀ s₀ st' ∧ ∀ q, q ≠ price →
          levelAt st'.book pnew₀.desiredProperty q = levelAt st.book pnew₀.desiredProperty q)
        (· ∈ OmniState.feeErrors) := by
  intro l
  induction l with
  | nil =>
    intro st hinv _ _ _
    exact Except.WP.pure ⟨hinv, fun _ _ => rfl⟩
  | cons e rest ih =>
    intro st hinv hsat hsorted hlive
    obtain ⟨k, pold⟩ := e
    have hk := hlive (k, pold) List.mem_cons_self
    have hrest : ∀ e ∈ rest, k < e.1 := (List.pairwise_cons.1 hsorted).1
    have hlive' : ∀ e ∈ rest,
        (levelAt st.book pnew₀.desiredProperty price).orders.find? e.1 = some e.2 :=
      fun e he => hlive e (List.mem_cons_of_mem _ he)
    -- the order sits at its own price: the assert on it holds
    have hq : pold.unitPrice = price :=
      (hinv.sound.inv.shape _ _ _ (inBook_iff.2 (MdSet.mem_orders_iff.2 ⟨k, hk⟩))).2.1
    unfold xTradeOffers
    rw [if_neg (not_not.2 hq)]
    by_cases hwant : pold.desiredProperty ≠ st.pnew.property
    · -- passed: it does not want what the incoming order sells
      rw [if_pos hwant]
      exact ih st hinv hsat (List.pairwise_cons.1 hsorted).2 hlive'
    rw [if_neg hwant]
    refine Except.WP.bind (TradeInv.fill hin hinv hsat hprice hk
      ((not_not.1 hwant).trans hinv.pnew_property)) fun r hr => ?_
    rcases r with _ | st'
    · exact ih st hinv hsat (List.pairwise_cons.1 hsorted).2 hlive'
    obtain ⟨hinv', L, hbook, hL⟩ := hr st' rfl
    have hothers : ∀ q, q ≠ price →
        levelAt st'.book pnew₀.desiredProperty q = levelAt st.book pnew₀.desiredProperty q := by
      intro q hq'
      rw [hbook, levelAt_writeLevel, if_neg (fun h => hq' h.2.symm)]
    dsimp only
    by_cases hsat' : st'.satisfied = true
    · -- filled: the incoming order has nothing left, and the walk stops
      rw [if_pos hsat', if_neg (not_not.2 (hinv'.satisfied.1 hsat'))]
      exact Except.WP.pure ⟨hinv', hothers⟩
    rw [if_neg hsat']
    -- the rest of the level is still live: only the filled order's key changed
    refine (ih st' hinv' (Bool.eq_false_iff.2 hsat') (List.pairwise_cons.1 hsorted).2
      fun e he => ?_).mono (fun st'' ⟨hinv'', hothers'⟩ => ⟨hinv'', fun q hq' => ?_⟩)
      fun _ he => he
    · rw [hbook, levelAt_writeLevel, if_pos ⟨rfl, rfl⟩, hL e.1 (ne_of_gt (hrest e he))]
      exact hlive' e he
    · rw [hothers' q hq', hothers q hq']

/-- **The walk over the price levels** keeps a run sound, when every level still to visit is the
level of the book at its price: a level above the incoming order's inverse price is passed, and
the others are walked by `TradeInv.offers`, which leaves the later levels alone. -/
theorem TradeInv.prices {debug : Bool} {feesFeatureBlock : Int} {pnew₀ : CMPMetaDEx}
    {s₀ : OmniState} (hin : Incoming s₀ pnew₀) :
    ∀ (l : List (ℚ × MdSet)) (st : TradeState), TradeInv pnew₀ s₀ st → st.satisfied = false →
      l.Pairwise (fun a b => a.1 < b.1) →
      (∀ e ∈ l, levelAt st.book pnew₀.desiredProperty e.1 = e.2) →
      Except.WP (xTradePrices debug feesFeatureBlock l st) (TradeInv pnew₀ s₀)
        (· ∈ OmniState.feeErrors) := by
  intro l
  induction l with
  | nil =>
    intro st hinv _ _ _
    exact Except.WP.pure hinv
  | cons e rest ih =>
    intro st hinv hsat hsorted hlive
    obtain ⟨price, offers⟩ := e
    have hrest : ∀ e ∈ rest, price < e.1 := (List.pairwise_cons.1 hsorted).1
    have hlive' : ∀ e ∈ rest, levelAt st.book pnew₀.desiredProperty e.1 = e.2 :=
      fun e he => hlive e (List.mem_cons_of_mem _ he)
    unfold xTradePrices
    by_cases hskip : st.pnew.inversePrice < price
    · -- too dear for the incoming order
      rw [if_pos hskip]
      exact ih st hinv hsat (List.pairwise_cons.1 hsorted).2 hlive'
    rw [if_neg hskip]
    have hprice : price ≤ pnew₀.inversePrice := hinv.pnew_inversePrice ▸ not_lt.1 hskip
    -- the snapshot of the level is the level itself
    have hoffers : ∀ e ∈ offers.orders.entries,
        (levelAt st.book pnew₀.desiredProperty price).orders.find? e.1 = some e.2 := by
      intro e he
      rw [hlive (price, offers) List.mem_cons_self]
      exact OrdMap.find?_of_mem he
    refine Except.WP.bind (TradeInv.offers hin hprice offers.orders.entries st hinv hsat
      offers.orders.sorted hoffers) fun st' ⟨hinv', hothers⟩ => ?_
    apply Except.WP.ite
    · intro _
      exact Except.WP.pure hinv'
    · intro hsat'
      refine ih st' hinv' (Bool.eq_false_iff.2 hsat') (List.pairwise_cons.1 hsorted).2
        fun e he => ?_
      rw [hothers e.1 (ne_of_gt (hrest e he))]
      exact hlive' e he

/-- **`x_Trade` keeps a sound book sound** for an incoming order its owner can pay: it fails only
in `AddFee`, and ends in a sound run. -/
theorem xTrade_spec {debug : Bool} {feesFeatureBlock : Int} {pnew₀ : CMPMetaDEx}
    {book : MdPropertiesMap} {s₀ : OmniState} (hin : Incoming s₀ pnew₀)
    (h : MetaDExSound pnew₀.block book s₀) (hR : 0 < pnew₀.amountRemaining)
    (hfunds : pnew₀.amountRemaining ≤ s₀.tally.money pnew₀.addr pnew₀.property .balance) :
    Except.WP (xTrade debug feesFeatureBlock pnew₀ book s₀) (TradeInv pnew₀ s₀)
      (· ∈ OmniState.feeErrors) := by
  -- the run starts sound: nothing filled, nothing moved
  have hinit : TradeInv pnew₀ s₀ ⟨pnew₀, book, s₀, [], .nothing, false⟩ :=
    ⟨h, fun _ => rfl, rfl, rfl, ⟨hR.le, le_rfl⟩, by simp only [Bool.false_eq_true, false_iff]; omega,
      hfunds, fun _ ht => absurd ht List.not_mem_nil⟩
  unfold xTrade
  dsimp only
  split
  · exact Except.WP.pure hinit
  · next prices hprices =>
    refine TradeInv.prices hin prices.entries _ hinit rfl prices.sorted fun e he => ?_
    simp only [levelAt, OrdMap.findD_eq, hprices, Option.getD_some, OrdMap.find?_of_mem he]

/-! ## Filing the remainder -/

/-- **What `MetaDEx_INSERT` writes**: the order under its key, in the level of its property and unit
price, whose key was free. -/
theorem metaDExInsert_eq_some {book book' : MdPropertiesMap} {o : CMPMetaDEx}
    (h : metaDExInsert book o = some book') :
    (levelAt book o.property o.unitPrice).orders.find? o.key = none ∧
      book' = writeLevel book o.property o.unitPrice
        ((levelAt book o.property o.unitPrice).insert o).1 := by
  unfold metaDExInsert at h
  dsimp only at h
  split at h
  · cases h
  · next indexes heq =>
    have hfree : (levelAt book o.property o.unitPrice).orders.find? o.key = none := by
      cases hk : (levelAt book o.property o.unitPrice).orders.find? o.key with
      | none => rfl
      | some o' =>
        -- a taken key makes `insert` answer `false`
        unfold levelAt at hk
        rw [MdSet.insert, if_pos (by simp [hk])] at heq
        cases heq
    cases h
    refine ⟨hfree, ?_⟩
    unfold writeLevel levelAt
    rw [heq]

/-- **Filing the incoming order's remainder keeps a book sound**: the two asserted updates that move
it from `BALANCE` to `METADEX_RESERVE` go through, and every supply with its cached fees is kept. -/
theorem MetaDExSound.insertOrder {block : Int} {book book' : MdPropertiesMap} {s : OmniState}
    {o : CMPMetaDEx} (h : MetaDExSound block book s) (hins : metaDExInsert book o = some book')
    (hpos : 0 < o.amountRemaining) (hle : o.amountRemaining ≤ o.amountForsale) (hpriced : o.Priced)
    (hfunds : o.amountRemaining ≤ s.tally.money o.addr o.property .balance)
    (hfrozen : isAddressFrozen s.frozen o.addr o.property = false) :
    ∃ s₁ s₂, s.assertUpdateTallyMap o.addr o.property (-o.amountRemaining) = .ok s₁ ∧
      s₁.assertUpdateTally o.addr o.property o.amountRemaining .metadexReserve = .ok s₂ ∧
      MetaDExSound block book' s₂ ∧
      ∀ p, s₂.tally.sumHolding p + s₂.feeCache.getCachedAmount p =
        s.tally.sumHolding p + s.feeCache.getCachedAmount p := by
  obtain ⟨hfree, rfl⟩ := metaDExInsert_eq_some hins
  have hs := h.sound
  have hbal := hs.money_mem o.addr o.property (k := .balance) (by decide)
  obtain ⟨s₁, h₁⟩ := OmniState.assertUpdateTallyMap_of_range (a := -o.amountRemaining) (by omega)
    hbal ⟨by omega, by omega⟩ (by rw [hfrozen]; simp)
  have hs₁ := hs.assertUpdateTallyMap h₁
  have hsum₁ := OmniState.sumHolding_assertUpdateTallyMap h₁
  -- the reserve has room: with what just left the balance, it is at most the supply
  have hroom := hs₁.money_le_sumHolding o.addr o.property (k := .metadexReserve) (by decide)
  rw [hsum₁, if_pos rfl] at hroom
  obtain ⟨s₂, h₂⟩ := OmniState.assertUpdateTally_of_range (k := .metadexReserve)
    (a := o.amountRemaining) (by decide) (by omega) (hs₁.money_mem o.addr o.property (by decide))
    ⟨by have := (hs₁.money_mem o.addr o.property (k := .metadexReserve) (by decide)).1; omega,
      by have := h.sumHolding_le o.property; omega⟩ (by simp)
  have hs₂ := hs₁.assertUpdateTally h₂
  have hsum₂ := OmniState.sumHolding_assertUpdateTally h₂ (by decide)
  have hsup : ∀ p, s₂.tally.sumHolding p + s₂.feeCache.getCachedAmount p =
      s.tally.sumHolding p + s.feeCache.getCachedAmount p := by
    intro p
    rw [hsum₂, hsum₁, (OmniState.assertUpdateTally_frame h₂).2,
      (OmniState.assertUpdateTallyMap_frame h₁).2]
    split_ifs <;> omega
  -- the orders of the new book: those of the old one, and `o` at its own level
  have hcases : ∀ {p q o'}, InBook (writeLevel book o.property o.unitPrice
      ((levelAt book o.property o.unitPrice).insert o).1) p q o' →
      InBook book p q o' ∨ (p = o.property ∧ q = o.unitPrice ∧ o' = o) := by
    intro p q o' ho'
    refine inBook_writeLevel_cases (P := fun o'' => o'' = o) (fun k o'' hk => ?_) ho'
    rw [MdSet.find?_insert_fst hfree] at hk
    split at hk
    · exact .inr (Option.some.inj hk).symm
    · exact .inl hk
  refine ⟨s₁, s₂, h₁, h₂, ⟨⟨fun p q o' ho' => ?_, fun a p => ?_⟩, fun p q o' ho' => ?_, hs₂,
    fun p => ?_⟩, hsup⟩
  · rcases hcases ho' with ho' | ⟨rfl, rfl, rfl⟩
    · exact h.inv.shape p q o' ho'
    · exact ⟨rfl, rfl, hpos, hle⟩
  · -- the reserve of `o`'s owner and property grew by what `o` has left, as the book's
    rw [OmniState.money_assertUpdateTally h₂, OmniState.money_assertUpdateTallyMap h₁,
      h.inv.reserve, bookReserveOf_writeLevel, MdSet.reserveOf_insert hfree, MdSet.weight]
    by_cases ha : o.addr = a ∧ o.property = p
    · obtain ⟨rfl, rfl⟩ := ha
      simp
      omega
    · have ha' : ¬(a = o.addr ∧ p = o.property) := fun h => ha ⟨h.1.symm, h.2.symm⟩
      simp [ha, ha']
  · rcases hcases ho' with ho' | ⟨rfl, rfl, rfl⟩
    · exact h.priced p q o' ho'
    · exact hpriced
  · rw [hsup p]
    exact h.supply p

/-! ## `MetaDEx_ADD` -/

/-- **`MetaDEx_ADD` keeps a sound book sound**, for an order with both amounts positive and in the
`int64_t` range, of two distinct properties, from a sender not frozen who holds what it sells: it
fails only in `AddFee`; otherwise the book is sound, every supply with its cached fees is kept, and
every fill is at a price between the resting order's unit price and the incoming order's inverse
price `amount / amountDesired`. -/
theorem metaDExAdd_spec {debug : Bool} {feesFeatureBlock block : Int} {book : MdPropertiesMap}
    {s : OmniState} {senderAddr : Address} {prop propertyDesired : PropertyId}
    {amount amountDesired : Int} {txid : Uint256} {idx : Nat} (h : MetaDExSound block book s)
    (hamount : 0 < amount) (hamountMax : amount ≤ int64Max) (hdesired : 0 < amountDesired)
    (hdesiredMax : amountDesired ≤ int64Max) (hdistinct : prop ≠ propertyDesired)
    (hfunds : amount ≤ s.tally.money senderAddr prop .balance)
    (hfrozen : isAddressFrozen s.frozen senderAddr prop = false) :
    Except.WP (metaDExAdd debug feesFeatureBlock book s senderAddr prop amount block propertyDesired
        amountDesired txid idx)
      (fun r => MetaDExSound block r.2.1 r.2.2.1 ∧
        (∀ p, r.2.2.1.tally.sumHolding p + r.2.2.1.feeCache.getCachedAmount p =
          s.tally.sumHolding p + s.feeCache.getCachedAmount p) ∧
        ∀ t ∈ r.2.2.2, t.pold.unitPrice ≤ t.effectivePrice ∧
          t.effectivePrice ≤ (amount : ℚ) / amountDesired)
      (· ∈ OmniState.feeErrors) := by
  unfold metaDExAdd
  dsimp only
  set newMdex : CMPMetaDEx :=
    { block := block, txid := txid, idx := idx, property := prop, amountForsale := amount,
      desiredProperty := propertyDesired, amountDesired := amountDesired, amountRemaining := amount,
      addr := senderAddr } with hnew
  have hinc : Incoming s newMdex :=
    ⟨hamount, ⟨hdesired, hamountMax, hdesiredMax⟩, le_rfl, hdistinct, hfrozen⟩
  have hprice : 0 < newMdex.unitPrice := by
    rw [CMPMetaDEx.unitPrice_eq hamount]
    exact div_pos (by exact_mod_cast hdesired) (by exact_mod_cast hamount)
  have hinverse : newMdex.inversePrice = (amount : ℚ) / amountDesired :=
    CMPMetaDEx.inversePrice_eq hdesired
  rw [if_neg (not_le.2 hprice)]
  refine Except.WP.bind (xTrade_spec hinc h hamount hfunds) fun st hinv => ?_
  -- every fill of the run was at a fair price
  have hfair : ∀ t ∈ st.trades, t.pold.unitPrice ≤ t.effectivePrice ∧
      t.effectivePrice ≤ (amount : ℚ) / amountDesired := fun t ht => hinverse ▸ hinv.fair t ht
  apply Except.WP.ite
  · intro hrem
    split
    · exact Except.WP.pure ⟨hinv.sound, hinv.supply, hfair⟩
    · -- the remainder is filed, and moved from the balance into the reserve
      next book' hins =>
      have haddr : st.pnew.addr = senderAddr := by rw [hinv.pnew]
      have hprop : st.pnew.property = prop := by rw [hinv.pnew]
      have hle : st.pnew.amountRemaining ≤ st.pnew.amountForsale := by
        have hforsale : st.pnew.amountForsale = amount := by rw [hinv.pnew]
        rw [hforsale]
        exact hinv.remaining.2
      have hpriced : st.pnew.Priced := by
        rw [hinv.pnew]
        exact ⟨hdesired, hamountMax, hdesiredMax⟩
      have hfrozen' : isAddressFrozen st.s.frozen st.pnew.addr st.pnew.property = false := by
        rw [haddr, hprop, show st.s.frozen = s.frozen from congrArg Prod.fst hinv.stores]
        exact hfrozen
      obtain ⟨s₁, s₂, h₁, h₂, hsound₂, hsup₂⟩ := hinv.sound.insertOrder hins hrem hle hpriced
        (by rw [haddr, hprop]; exact hinv.funds) hfrozen'
      rw [haddr, hprop] at h₁ h₂
      rw [h₁, Except.ok_bind, h₂, Except.ok_bind]
      exact Except.WP.pure ⟨hsound₂, fun p => (hsup₂ p).trans (hinv.supply p), hfair⟩
  · intro _
    exact Except.WP.pure ⟨hinv.sound, hinv.supply, hfair⟩

/-! ## The book invariant of the MetaDEx -/

/-- **The MetaDEx keeps a sound book sound.** From a sound book and state, `MetaDEx_ADD` of an
order with both amounts positive and in the `int64_t` range, of two distinct properties, from a
sender not frozen who holds what it sells, fails only with a message of the fee functions, never
with one of `x_Trade`'s asserts; otherwise it leaves a sound book, keeps every supply with its
cached fees, and fills every order at a price between the resting order's unit price and the
incoming order's inverse price. The three cancels always succeed, leave a sound book and keep
every supply with its cached fees. -/
theorem metaDEx_book_invariant (debug : Bool) (feesFeatureBlock block : Int)
    (book : MdPropertiesMap) (s : OmniState) (h : MetaDExSound block book s) :
    (∀ (senderAddr : Address) (prop propertyDesired : PropertyId) (amount amountDesired : Int)
        (txid : Uint256) (idx : Nat), 0 < amount → amount ≤ int64Max → 0 < amountDesired →
        amountDesired ≤ int64Max → prop ≠ propertyDesired →
        amount ≤ s.tally.money senderAddr prop .balance →
        isAddressFrozen s.frozen senderAddr prop = false →
        Except.WP (metaDExAdd debug feesFeatureBlock book s senderAddr prop amount block
            propertyDesired amountDesired txid idx)
          (fun r => MetaDExSound block r.2.1 r.2.2.1 ∧
            (∀ p, r.2.2.1.tally.sumHolding p + r.2.2.1.feeCache.getCachedAmount p =
              s.tally.sumHolding p + s.feeCache.getCachedAmount p) ∧
            ∀ t ∈ r.2.2.2, t.pold.unitPrice ≤ t.effectivePrice ∧
              t.effectivePrice ≤ (amount : ℚ) / amountDesired)
          (fun e => e ∈ OmniState.feeErrors ∧ e ∉ xTradeAsserts)) ∧
    (∀ (sender : Address) (prop : PropertyId) (amount : Int) (propertyDesired : PropertyId)
        (amountDesired : Int),
      ∃ r, metaDExCancelAtPrice book s sender prop amount propertyDesired amountDesired = .ok r ∧
        MetaDExSound block r.2.1 r.2.2 ∧
        ∀ p, r.2.2.tally.sumHolding p + r.2.2.feeCache.getCachedAmount p =
          s.tally.sumHolding p + s.feeCache.getCachedAmount p) ∧
    (∀ (sender : Address) (prop propertyDesired : PropertyId),
      ∃ r, metaDExCancelAllForPair book s sender prop propertyDesired = .ok r ∧
        MetaDExSound block r.2.1 r.2.2 ∧
        ∀ p, r.2.2.tally.sumHolding p + r.2.2.feeCache.getCachedAmount p =
          s.tally.sumHolding p + s.feeCache.getCachedAmount p) ∧
    (∀ (sender : Address) (ecosystem : Nat),
      ∃ r, metaDExCancelEverything book s sender ecosystem = .ok r ∧
        MetaDExSound block r.2.1 r.2.2 ∧
        ∀ p, r.2.2.tally.sumHolding p + r.2.2.feeCache.getCachedAmount p =
          s.tally.sumHolding p + s.feeCache.getCachedAmount p) := by
  refine ⟨?_, metaDExCancelAtPrice_sound h, metaDExCancelAllForPair_sound h,
    metaDExCancelEverything_sound h⟩
  intro senderAddr prop propertyDesired amount amountDesired txid idx hamount hamountMax hdesired
    hdesiredMax hdistinct hfunds hfrozen
  -- a failure is a fee function's, and no fee function fails with an assert of `x_Trade`
  exact (metaDExAdd_spec h hamount hamountMax hdesired hdesiredMax hdistinct hfunds hfrozen).mono
    (fun _ hr => hr) fun e he => ⟨he, fun hx => xTradeAsserts_not_feeErrors e hx he⟩

/-- A node where `alice` holds ten units of property `3` and `bob` five of property `4`. -/
def traderState : OmniState :=
  { OmniState.fresh ⟨.regTest, true⟩ with
    tally := (OrdMap.empty.insert "alice" ⟨OrdMap.empty.insert 3 { balance := 10 }⟩).insert "bob"
      ⟨OrdMap.empty.insert 4 { balance := 5 }⟩ }

/-- With nothing on the book the node is sound: it is a fresh node after two credits. -/
theorem traderState_sound (block : Int) : MetaDExSound block OrdMap.empty traderState := by
  obtain ⟨s₁, h₁, h₂⟩ : ∃ s₁, (OmniState.fresh ⟨.regTest, true⟩).assertUpdateTallyMap "alice" 3 10 =
      .ok s₁ ∧ s₁.assertUpdateTallyMap "bob" 4 5 = .ok traderState := ⟨_, rfl, rfl⟩
  have hs := ((OmniState.sound_fresh _ block).assertUpdateTallyMap h₁).assertUpdateTallyMap h₂
  refine MetaDExSound.emptyBook hs (fun p => ?_) fun a p => ?_
  · -- ten units of `3` and five of `4` were credited, and nothing is cached
    have hfresh : (OmniState.fresh ⟨.regTest, true⟩).tally.sumHolding p = 0 := rfl
    rw [OmniState.sumHolding_assertUpdateTallyMap h₂, OmniState.sumHolding_assertUpdateTallyMap h₁,
      hfresh, show traderState.feeCache.getCachedAmount p = 0 from rfl]
    split_ifs <;> decide
  · -- only balances were credited
    rw [OmniState.money_assertUpdateTallyMap h₂, OmniState.money_assertUpdateTallyMap h₁]
    simp [OmniState.fresh, TallyMap.money]

/-- `alice` places an order of ten units of property `3` for ten of property `4` on the empty book;
it finds nothing to trade with and rests there. `bob` then places an order of his five units of `4`
for five of `3`, which fills half of hers. -/
theorem metaDEx_book_invariant_fill :
    ∃ r, metaDExAdd true 999999 OrdMap.empty traderState "alice" 3 10 2 4 10 1 0 = .ok r ∧
      MetaDExSound 2 r.2.1 r.2.2.1 ∧
      (0 : Int) < 5 ∧ (5 : Int) ≤ int64Max ∧ (4 : PropertyId) ≠ 3 ∧
      (5 : Int) ≤ r.2.2.1.tally.money "bob" 4 .balance ∧
      isAddressFrozen r.2.2.1.frozen "bob" 4 = false ∧
      (metaDExAdd true 999999 r.2.1 r.2.2.1 "bob" 4 5 2 3 5 2 0).map
          (fun r' => r'.2.2.2.length) = .ok 1 ∧
      Except.WP (metaDExAdd true 999999 r.2.1 r.2.2.1 "bob" 4 5 2 3 5 2 0)
        (fun r' => MetaDExSound 2 r'.2.1 r'.2.2.1 ∧
          (∀ p, r'.2.2.1.tally.sumHolding p + r'.2.2.1.feeCache.getCachedAmount p =
            r.2.2.1.tally.sumHolding p + r.2.2.1.feeCache.getCachedAmount p) ∧
          ∀ t ∈ r'.2.2.2, t.pold.unitPrice ≤ t.effectivePrice ∧
            t.effectivePrice ≤ ((5 : Int) : ℚ) / (5 : Int))
        (fun e => e ∈ OmniState.feeErrors ∧ e ∉ xTradeAsserts) := by
  -- the two orders, run: `alice`'s succeeds, and against its book `bob` can pay and makes one fill
  have hrun : (metaDExAdd true 999999 OrdMap.empty traderState "alice" 3 10 2 4 10 1 0).map
      (fun r => (decide ((5 : Int) ≤ r.2.2.1.tally.money "bob" 4 .balance),
        isAddressFrozen r.2.2.1.frozen "bob" 4,
        (metaDExAdd true 999999 r.2.1 r.2.2.1 "bob" 4 5 2 3 5 2 0).map fun r' => r'.2.2.2.length)) =
      .ok (true, false, .ok 1) := by
    decide +kernel
  obtain ⟨r, hr, hcheck⟩ := Except.map_eq_ok.1 hrun
  simp only [Prod.mk.injEq, decide_eq_true_eq] at hcheck
  obtain ⟨hfunds, hfrozen, hfill⟩ := hcheck
  -- `alice`'s order keeps the empty book sound
  have hsound : MetaDExSound 2 r.2.1 r.2.2.1 :=
    ((metaDEx_book_invariant true 999999 2 OrdMap.empty traderState (traderState_sound 2)).1
      "alice" 3 4 10 10 1 0 (by decide) (by decide) (by decide) (by decide) (by decide)
      (by decide) (by decide)).ok hr |>.1
  exact ⟨r, hr, hsound, by decide, by decide, by decide, hfunds, hfrozen, hfill,
    (metaDEx_book_invariant true 999999 2 r.2.1 r.2.2.1 hsound).1 "bob" 4 3 5 5 2 0
      (by decide) (by decide) (by decide) (by decide) (by decide) hfunds hfrozen⟩

/-! ## An order that wants nothing -/

/-- `alice`'s order of ten units of property `3` for nothing: its unit price is `0`. -/
def unpricedOrder : CMPMetaDEx :=
  { block := 1, txid := 1, idx := 0, property := 3, amountForsale := 10, desiredProperty := 4,
    amountDesired := 0, amountRemaining := 10, addr := "alice" }

/-- The book holding `alice`'s order, at its unit price. -/
def unpricedBook : MdPropertiesMap :=
  OrdMap.empty.insert 3
    (OrdMap.empty.insert unpricedOrder.unitPrice (MdSet.empty.insert unpricedOrder).1)

/-- A node with `alice`'s reserve for the order, and five units of property `4` held by `bob`. -/
def unpricedState : OmniState :=
  { OmniState.fresh ⟨.regTest, true⟩ with
    tally := (OrdMap.empty.insert "alice" ⟨OrdMap.empty.insert 3 { metadexReserve := 10 }⟩).insert
      "bob" ⟨OrdMap.empty.insert 4 { balance := 5 }⟩ }

/-- **A resting order that wants nothing trips `x_Trade`.** The book of `alice`'s order of property
`3` for `0` units satisfies the book invariant; `bob` offers all his five units of `4` for five of
`3`, and `x_Trade` fails its assert that `bob`'s unit price is within `alice`'s inverse price, which
is `0`. -/
theorem metaDExAdd_unpriced_order_asserts (debug : Bool) (feesFeatureBlock : Int) :
    MetaDExInv unpricedBook unpricedState.tally ∧
      5 ≤ unpricedState.tally.money "bob" 4 .balance ∧
      metaDExAdd debug feesFeatureBlock unpricedBook unpricedState "bob" 4 5 2 3 5 2 0 =
        .error "x_Trade: assert(pnew->unitPrice() <= pold->inversePrice())" := by
  refine ⟨⟨fun p q o ho => ?_, fun a p => ?_⟩, by decide, ?_⟩
  · -- the one order sells `3` at its unit price, with all of it left
    obtain ⟨prices, indexes, hp, hq, hmem⟩ := ho
    simp only [unpricedBook, OrdMap.find?_insert, OrdMap.find?_empty] at hp
    split_ifs at hp with hp3
    cases hp
    simp only [OrdMap.find?_insert, OrdMap.find?_empty] at hq
    split_ifs at hq with hq'
    cases hq
    have ho : o = unpricedOrder := by
      simp only [MdSet.insert, MdSet.empty, OrdMap.contains_eq, OrdMap.find?_empty,
        Option.isSome_none, Bool.false_eq_true, if_false, OrdMap.entries_empty_insert,
        List.map_cons, List.map_nil, List.mem_singleton] at hmem
      exact hmem
    subst hp3 hq' ho
    exact ⟨rfl, rfl, by decide, by decide⟩
  · -- the reserve of `alice` in `3` is the order's, every other reserve is `0`
    simp only [unpricedState, bookReserveOf, pricesReserveOf, MdSet.reserveOf, unpricedBook,
      OrdMap.sumBy, TallyMap.money, OrdMap.findD_insert, OrdMap.findD_empty, CMPTally.getMoney_eq]
    by_cases ha : a = "alice" <;> by_cases hb : a = "bob" <;> by_cases hp : p = 3 <;>
      simp [ha, hb, hp, MdSet.insert, MdSet.empty, unpricedOrder, BalanceRecord.get, eq_comm]
    -- `bob` holds only a balance
    split <;> rfl
  · -- the first fill's seventh precondition: `1 ≤ 0` is false
    norm_num [metaDExAdd, xTrade, xTradePrices, xTradeOffers, xTradeFill, xTradePreconditions,
      xAssert, unpricedBook, unpricedOrder, CMPMetaDEx.unitPrice, CMPMetaDEx.inversePrice,
      MdSet.insert, MdSet.empty]

/-- The same with the fee logging of a default node and the main network's `FEES_FEATURE_BLOCK`. -/
theorem metaDExAdd_unpriced_order_asserts_on_main :
    MetaDExInv unpricedBook unpricedState.tally ∧
      5 ≤ unpricedState.tally.money "bob" 4 .balance ∧
      metaDExAdd true 999999 unpricedBook unpricedState "bob" 4 5 2 3 5 2 0 =
        .error "x_Trade: assert(pnew->unitPrice() <= pold->inversePrice())" :=
  metaDExAdd_unpriced_order_asserts true 999999

end WormholeCore
