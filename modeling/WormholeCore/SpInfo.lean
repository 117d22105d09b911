/-
# `WormholeCore.SpInfo` — the smart-property store (`CMPSPInfo`, sp.{h,cpp}).

`CMPSPInfo` keeps every property's record in LevelDB under four key prefixes. The model keeps one
field per prefix:

* `'s' + propertyId` → the live record, and `'b' + update_block + propertyId` → the record an
  `updateSP` displaced: together one `Lib.UndoLog` keyed by property, stamped by `update_block`;
* `'t' + txid` → the property a transaction created (`txIndex`);
* `'B'` → the watermark;

and the two in-memory counters `next_spid`, `next_test_spid`. The functions keep the source's
names: `putSP` (a creation, saving nothing), `updateSP` (a saving write under the NEW record's
`update_block`), `getSP`, `hasSP`, `findSPByTX`, `popBlock` (the walk of `Lib.UndoLog.popBlock`,
plus the deletion of the `'t'` entries of the records it drops and the count it returns), and
`IsPropertyIdValid`.

LevelDB status errors and deserialisation failures, which the source only logs or turns into a
negative return, are not modelled: a stored record always reads back.
-/
import WormholeCore.Basic
import WormholeCore.Lib.UndoLog

namespace WormholeCore

open Lib

/-- **`CMPSPInfo::Entry`** — the record of one property, with the defaults of `Entry()`. -/
structure CMPSPInfo.Entry where
  issuer : Address := ""
  propType : Nat := 0
  prevPropId : PropertyId := 0
  category : String := ""
  subcategory : String := ""
  name : String := ""
  url : String := ""
  data : String := ""
  numTokens : Int := 0
  propertyDesired : PropertyId := 0
  deadline : Int := 0
  rate : Int := 0
  earlyBird : Nat := 0
  percentage : Nat := 0
  closeEarly : Bool := false
  maxTokens : Bool := false
  missedTokens : Int := 0
  timeclosed : Int := 0
  txidClose : Uint256 := 0
  txid : Uint256 := 0
  creationBlock : Uint256 := 0
  updateBlock : Uint256 := 0
  fixed : Bool := false
  manual : Bool := false
  /-- Per transaction: the amounts a crowdsale purchase, a grant or a revocation recorded. -/
  historicalData : OrdMap Uint256 (List Int) := OrdMap.empty
deriving DecidableEq

/-- **`CMPSPInfo`** — the LevelDB key ranges and the two identifier counters. -/
structure CMPSPInfo where
  store : UndoLog Uint256 PropertyId CMPSPInfo.Entry
  txIndex : OrdMap Uint256 PropertyId
  watermark : Option Uint256
  nextSpid : PropertyId
  nextTestSpid : PropertyId
deriving DecidableEq

namespace CMPSPInfo

/-- `implied_omni`, the record of WHC written by `initburnbch`; its issuer is the network's burn
address. -/
def impliedOmni (exodus : Address) : Entry where
  issuer := exodus
  propType := 8
  numTokens := 0
  category := "N/A"
  subcategory := "N/A"
  name := "WHC"
  url := "http://www.wormhole.cash"
  data := "WHC serve as the binding between Bitcoin cash, smart properties and contracts created on the Wormhole."

/-- `init(nextSPID, nextTestSPID)`; the source's defaults are `3` and `TEST_ECO_PROPERTY_1`. -/
def init (db : CMPSPInfo) (nextSPID nextTestSPID : PropertyId) : CMPSPInfo :=
  { db with nextSpid := nextSPID, nextTestSpid := nextTestSPID }

/-- `getSP`: the live record, if any. -/
def getSP (db : CMPSPInfo) (propertyId : PropertyId) : Option Entry := db.store.live.find? propertyId

/-- `hasSP`. -/
def hasSP (db : CMPSPInfo) (propertyId : PropertyId) : Bool := (db.getSP propertyId).isSome

/-- `findSPByTX`: `0` when no property was created by `txid`. -/
def findSPByTX (db : CMPSPInfo) (txid : Uint256) : PropertyId := db.txIndex.findD txid 0

/-- `initburnbch`: write the implied WHC record unless property 1 exists. -/
def initburnbch (db : CMPSPInfo) (exodus : Address) : CMPSPInfo :=
  if db.hasSP omniPropertyWhc then db
  else { db with store := db.store.put omniPropertyWhc (impliedOmni exodus) }

/-- The store a node opens on an empty database: `CMPSPInfo(path, fWipe)` runs `init()` and
`initburnbch()`. -/
def fresh (exodus : Address) : CMPSPInfo :=
  initburnbch ⟨UndoLog.empty, OrdMap.empty, none, 3, testEcoProperty1⟩ exodus

/-- `peekNextSPID(ecosystem)`. -/
def peekNextSPID (db : CMPSPInfo) (ecosystem : Nat) : PropertyId :=
  if ecosystem = omniPropertyWhc then db.nextSpid
  else if ecosystem = omniPropertyTwhc then db.nextTestSpid
  else 0

/-- `putSP(ecosystem, info)`: take the ecosystem's next identifier (`0` for any other ecosystem),
write the record and the `'t'` index, save nothing. The source's sanity check on an existing
record only logs. -/
def putSP (db : CMPSPInfo) (ecosystem : Nat) (info : Entry) : PropertyId × CMPSPInfo :=
  let propertyId := db.peekNextSPID ecosystem
  let db' : CMPSPInfo :=
    if ecosystem = omniPropertyWhc then { db with nextSpid := db.nextSpid + 1 }
    else if ecosystem = omniPropertyTwhc then { db with nextTestSpid := db.nextTestSpid + 1 }
    else db
  (propertyId, { db' with store := db'.store.put propertyId info,
                          txIndex := db'.txIndex.insert info.txid propertyId })

/-- `updateSP(propertyId, info)`: the live record, if any, is saved under
`'b' + info.update_block + propertyId`, then `info` becomes live. -/
def updateSP (db : CMPSPInfo) (propertyId : PropertyId) (info : Entry) : CMPSPInfo :=
  { db with store := db.store.write info.updateBlock propertyId info }

/-- The decision `popBlock` takes on one record. -/
def revertOf (db : CMPSPInfo) (blockHash : Uint256) (propertyId : PropertyId) (info : Entry) :
    UndoLog.Revert Entry :=
  UndoLog.revertOf Entry.updateBlock Entry.creationBlock db.store blockHash propertyId info

/-- **`popBlock(block_hash)`**: undo the records stamped `block_hash` in one batch. A record created
in that block is deleted with its `'t'` entry, any other is replaced by its saved copy; when a copy
is missing the result is `-3` and nothing is written. Otherwise the result is the number of
records left. -/
def popBlock (db : CMPSPInfo) (blockHash : Uint256) : Int × CMPSPInfo :=
  match UndoLog.popBlock Entry.updateBlock Entry.creationBlock db.store blockHash with
  | none => (-3, db)
  | some store' =>
    let entries := db.store.live.entries
    let dropped := entries.filter (fun e => db.revertOf blockHash e.1 e.2 = .drop)
    (((entries.length - dropped.length : Nat) : Int),
      { db with store := store', txIndex := dropped.foldl (fun t e => t.erase e.2.txid) db.txIndex })

/-- `setWatermark`. -/
def setWatermark (db : CMPSPInfo) (watermark : Uint256) : CMPSPInfo := { db with watermark := some watermark }

/-- `getWatermark`. -/
def getWatermark (db : CMPSPInfo) : Option Uint256 := db.watermark

/-- `Clear()`: wipe the database and reset the counters. -/
def clear (db : CMPSPInfo) : CMPSPInfo :=
  init { db with store := UndoLog.empty, txIndex := OrdMap.empty, watermark := none } 3
    testEcoProperty1

/-! ## Reading back -/

@[simp] theorem getSP_updateSP (db : CMPSPInfo) (p p' : PropertyId) (info : Entry) :
    (db.updateSP p info).getSP p' = if p = p' then some info else db.getSP p' := by
  simp [updateSP, getSP]

@[simp] theorem putSP_fst (db : CMPSPInfo) (ecosystem : Nat) (info : Entry) :
    (db.putSP ecosystem info).1 = db.peekNextSPID ecosystem := rfl

/-- `putSP` moves the counters and the `'t'` index, and PUTS its record: nothing is saved. -/
@[simp] theorem store_putSP (db : CMPSPInfo) (ecosystem : Nat) (info : Entry) :
    (db.putSP ecosystem info).2.store = db.store.put (db.peekNextSPID ecosystem) info := by
  unfold putSP
  split_ifs <;> rfl

@[simp] theorem getSP_putSP (db : CMPSPInfo) (ecosystem : Nat) (info : Entry) (p' : PropertyId) :
    (db.putSP ecosystem info).2.getSP p' =
      if db.peekNextSPID ecosystem = p' then some info else db.getSP p' := by
  rw [getSP, store_putSP]
  simp [getSP]

/-- The store of a fresh node holds the record of WHC and nothing else. -/
theorem getSP_fresh (exodus : Address) (p : PropertyId) :
    (fresh exodus).getSP p =
      if omniPropertyWhc = p then some (impliedOmni exodus) else none := by
  simp [fresh, initburnbch, hasSP, getSP, UndoLog.empty]

/-- A fresh node's counters are `3` and `TEST_ECO_PROPERTY_1`. -/
theorem counters_fresh (exodus : Address) :
    (fresh exodus).nextSpid = 3 ∧ (fresh exodus).nextTestSpid = testEcoProperty1 := by
  unfold fresh initburnbch
  split <;> exact ⟨rfl, rfl⟩

/-- A main-ecosystem `putSP` takes `nextSpid`. -/
theorem peekNextSPID_whc (db : CMPSPInfo) : db.peekNextSPID omniPropertyWhc = db.nextSpid := rfl

/-- A main-ecosystem `putSP` moves `nextSpid` on by one and leaves `nextTestSpid`. -/
theorem putSP_whc_counters (db : CMPSPInfo) (info : Entry) :
    (db.putSP omniPropertyWhc info).2.nextSpid = db.nextSpid + 1 ∧
      (db.putSP omniPropertyWhc info).2.nextTestSpid = db.nextTestSpid :=
  ⟨rfl, rfl⟩

/-- `popBlock` either fails with `-3`, changing nothing, or installs the store the undo walk
computes. -/
theorem popBlock_cases (db : CMPSPInfo) (blockHash : Uint256) :
    (UndoLog.popBlock Entry.updateBlock Entry.creationBlock db.store blockHash = none ∧
        db.popBlock blockHash = (-3, db)) ∨
      ∃ store', UndoLog.popBlock Entry.updateBlock Entry.creationBlock db.store blockHash =
        some store' ∧ (db.popBlock blockHash).2.store = store' := by
  unfold popBlock
  cases UndoLog.popBlock Entry.updateBlock Entry.creationBlock db.store blockHash with
  | none => exact .inl ⟨rfl, rfl⟩
  | some store' => exact .inr ⟨store', rfl, rfl⟩

/-- A `popBlock` that finds every saved copy returns a count, never `-3`. -/
theorem popBlock_fst_of_some {db : CMPSPInfo} {blockHash : Uint256} {store' : UndoLog Uint256 PropertyId Entry}
    (h : UndoLog.popBlock Entry.updateBlock Entry.creationBlock db.store blockHash = some store') :
    0 ≤ (db.popBlock blockHash).1 := by
  unfold popBlock
  rw [h]
  exact Int.natCast_nonneg _

/-! ## The calls of one block -/

/-- A store call a transaction handler makes while a block is processed. -/
inductive SpCall where
  | putSP (ecosystem : Nat) (info : Entry)
  | updateSP (propertyId : PropertyId) (info : Entry)

/-- The record a call stores. -/
def SpCall.info : SpCall → Entry
  | .putSP _ info => info
  | .updateSP _ info => info

/-- Make one call. -/
def call (db : CMPSPInfo) : SpCall → CMPSPInfo
  | .putSP ecosystem info => (db.putSP ecosystem info).2
  | .updateSP propertyId info => db.updateSP propertyId info

/-- Make the calls in order. -/
def callAll (db : CMPSPInfo) : List SpCall → CMPSPInfo
  | [] => db
  | c :: cs => (db.call c).callAll cs

/-- The store operation a call makes, at the identifier it resolves to on `db`. -/
def opOf (db : CMPSPInfo) : SpCall → UndoLog.Op PropertyId Entry
  | .putSP ecosystem info => .put (db.peekNextSPID ecosystem) info
  | .updateSP propertyId info => .write propertyId info

/-- The store operations of a run of calls, each resolved on the store it is made on. -/
def opsOf (db : CMPSPInfo) : List SpCall → List (UndoLog.Op PropertyId Entry)
  | [] => []
  | c :: cs => db.opOf c :: (db.call c).opsOf cs

/-- A call stamped with block `h` is the store operation it resolves to, made in block `h`. -/
theorem store_call (db : CMPSPInfo) (h : Uint256) (c : SpCall) (hc : c.info.updateBlock = h) :
    (db.call c).store = UndoLog.apply h db.store (db.opOf c) := by
  cases c with
  | putSP ecosystem info => simp [call, opOf, UndoLog.apply]
  | updateSP propertyId info =>
    simp only [SpCall.info] at hc
    simp [call, opOf, updateSP, UndoLog.apply, hc]

/-- **Simulation of a block.** Calls all stamped with `h` act on the key ranges `'s'` and `'b'`
as the resolved operations run in block `h`. -/
theorem store_callAll (db : CMPSPInfo) (h : Uint256) :
    ∀ cs : List SpCall, (∀ c ∈ cs, c.info.updateBlock = h) →
      (db.callAll cs).store = UndoLog.runBlock h db.store (db.opsOf cs)
  | [], _ => rfl
  | c :: cs, hcs => by
    have hrest := store_callAll (db.call c) h cs (fun c' hc' => hcs c' (List.mem_cons_of_mem c hc'))
    rw [callAll, hrest, opsOf, UndoLog.runBlock_cons, store_call db h c (hcs c List.mem_cons_self)]

/-- Every operation of a run of calls stores the record of one of the calls. -/
theorem val_mem_opsOf {op : UndoLog.Op PropertyId Entry} :
    ∀ {db : CMPSPInfo} {cs : List SpCall}, op ∈ db.opsOf cs → ∃ c ∈ cs, op.val = c.info
  | _, [], hop => by simp [opsOf] at hop
  | db, c :: cs, hop => by
    rcases List.mem_cons.mp hop with rfl | hop
    · exact ⟨c, List.mem_cons_self, by cases c <;> rfl⟩
    · obtain ⟨c', hc', hval⟩ := val_mem_opsOf hop
      exact ⟨c', List.mem_cons_of_mem c hc', hval⟩

/-- **Rolling back a block that names each existing property at most once.** Let block `h` start
from `db`, whose records are stamped with other blocks, and let its calls stamp their records with
`h`, create only identifiers that had no record, and mark a record created in `h` exactly when its
property had none at the start. If no property that had a record is named twice, `popBlock h`
succeeds and every property reads as it did at the start of the block. -/
theorem popBlock_callAll (db : CMPSPInfo) (h : Uint256) (cs : List SpCall)
    (hstart : ∀ p e, db.getSP p = some e → e.updateBlock ≠ h)
    (hstamp : ∀ c ∈ cs, c.info.updateBlock = h)
    (hcreated : ∀ op ∈ db.opsOf cs, (op.val.creationBlock = h ↔ db.getSP op.key = none))
    (hput : ∀ p e, UndoLog.Op.put p e ∈ db.opsOf cs → db.getSP p = none)
    (honce : ∀ p, (db.getSP p).isSome → (db.opsOf cs).countP (fun op => op.key = p) ≤ 1) :
    0 ≤ ((db.callAll cs).popBlock h).1 ∧
      ∀ p, ((db.callAll cs).popBlock h).2.getSP p = db.getSP p := by
  have hops : ∀ op ∈ db.opsOf cs, op.val.updateBlock = h := by
    intro op hop
    obtain ⟨c, hc, hval⟩ := val_mem_opsOf hop
    rw [hval]
    exact hstamp c hc
  obtain ⟨s', hpop, hlive⟩ :=
    UndoLog.popBlock_runBlock db.store h (db.opsOf cs) hstart hops hcreated hput honce
  rw [← store_callAll db h cs hstamp] at hpop
  refine ⟨popBlock_fst_of_some hpop, fun p => ?_⟩
  rcases popBlock_cases (db.callAll cs) h with ⟨hnone, _⟩ | ⟨store', hsome, hstore⟩
  · rw [hpop] at hnone
    cases hnone
  · rw [hpop, Option.some.injEq] at hsome
    subst hsome
    simp only [getSP, hstore, hlive]

/-- Block `2` updates property `3` once and creates property `4`: its rollback gives back every
record block `1` left. -/
theorem grantAndCreate_popBlock_exact :
    let e₀ : Entry :=
      { issuer := "issuer", manual := true, txid := 10, creationBlock := 1, updateBlock := 1 }
    let db₁ := ((CMPSPInfo.fresh "").putSP 1 e₀).2
    let cs := [SpCall.updateSP 3 { e₀ with numTokens := 100, updateBlock := 2 },
      SpCall.putSP 1 { e₀ with txid := 11, creationBlock := 2, updateBlock := 2 }]
    0 ≤ ((db₁.callAll cs).popBlock 2).1 ∧
      ∀ p, ((db₁.callAll cs).popBlock 2).2.getSP p = db₁.getSP p := by
  intro e₀ db₁ cs
  -- the block writes property `3` over its record and puts property `4`
  have hops : db₁.opsOf cs = [.write 3 { e₀ with numTokens := 100, updateBlock := 2 },
      .put 4 { e₀ with txid := 11, creationBlock := 2, updateBlock := 2 }] := rfl
  refine popBlock_callAll db₁ 2 cs ?_ (by decide) (by rw [hops]; decide) ?_ ?_
  · intro p e he
    have hall : ∀ kv ∈ db₁.store.live.entries, kv.2.updateBlock ≠ 2 := by decide
    exact hall (p, e) (OrdMap.mem_of_find? he)
  · intro p e hp
    rw [hops] at hp
    simp only [List.mem_cons, reduceCtorEq, false_or, List.mem_nil_iff, or_false] at hp
    rw [(UndoLog.Op.put.inj hp).1]
    decide
  · intro p _
    rw [hops]
    -- the two operations name different properties
    simp only [List.countP_cons, List.countP_nil, UndoLog.Op.key]
    rcases eq_or_ne p 3 with rfl | h3
    · simp
    rcases eq_or_ne p 4 with rfl | h4
    · simp
    simp [h3.symm, h4.symm]

/-- **A second update in the same block defeats the rollback.** Block `1` creates managed
property `3`; block `2` updates it twice, as two `GrantTokens` of that block do. Both updates save
the displaced record under the same key `'b' + 2 + 3`, so the second overwrites the first's copy,
and `popBlock 2` brings back the record of the FIRST update, not the one block `1` left. -/
theorem popBlock_restores_intermediate_update :
    let e₀ : Entry :=
      { issuer := "issuer", manual := true, txid := 10, creationBlock := 1, updateBlock := 1 }
    let db₁ := ((CMPSPInfo.fresh "").putSP 1 e₀).2
    let db₂ := (db₁.updateSP 3 { e₀ with numTokens := 100, updateBlock := 2 }).updateSP 3
      { e₀ with numTokens := 200, updateBlock := 2 }
    db₁.getSP 3 = some e₀ ∧
      (db₂.popBlock 2).2.getSP 3 = some { e₀ with numTokens := 100, updateBlock := 2 } := by
  decide

end CMPSPInfo

/-- **`mastercore::IsPropertyIdValid`**: `0` and `OMNI_PROPERTY_TWHC` never are; any other id is
valid when below its ecosystem's next identifier. -/
def isPropertyIdValid (db : CMPSPInfo) (propertyId : PropertyId) : Bool :=
  if propertyId = 0 ∨ propertyId = omniPropertyTwhc then false
  else if propertyId < testEcoProperty1 then decide (propertyId < db.peekNextSPID 1)
  else decide (propertyId < db.peekNextSPID 2)

end WormholeCore
