/-
# `WormholeCore.Erc721` — the ERC721 stores (`CMPSPERC721Info`, `ERC721TokenInfos`; ERC721.{h,cpp}).

Both stores keep a write-back CACHE in front of LevelDB. A handler loads a record into the cache
(`FRESH`), changes it there and marks it `DIRTY`; `flush(block_hash)` writes the dirty records
once per block, each one under its `'s'` key, saving the record it displaces under a `'b'` key made
from the NEW record's `updateBlock`/`updateBlockHash` — exactly `Lib.UndoLog.write` at the stamp of
the written value — and a record with no previous value together with its `'t'` index entry.
`popBlock(block_hash)` is the walk of `Lib.UndoLog.popBlock` on the same stamps.

A record's stamp is whatever the handler left in it: the rollback of a block therefore touches
only the records whose stamp was set to that block's hash.

A cache is `Coherent` when every record it holds `FRESH` is the stored one. Each operation comes
with what it does to the `view` the handlers read, and `view_flush` says that a flush of a coherent
cache changes no view: the counting argument of `WormholeCore.Erc721Supply` rests on it.

LevelDB status errors and deserialisation failures are not modelled.
-/
import WormholeCore.Basic
import WormholeCore.Lib.UndoLog

namespace WormholeCore

open Lib

/-- `Flags` of a cached record. -/
inductive Flags where
  | fresh
  | dirty
deriving DecidableEq, Repr

/-- `UINT256ONE`-based counters are `uint256`; `increaseOne` wraps. -/
def increaseOne (origin : Uint256) : Uint256 := (origin + 1) % 2 ^ 256

/-- `++` on a `uint64_t`. -/
def incU64 (n : Nat) : Nat := (n + 1) % 2 ^ 64

/-- `--` on a `uint64_t`. -/
def decU64 (n : Nat) : Nat := (n + 2 ^ 64 - 1) % 2 ^ 64

theorem incU64_of_lt {n : Nat} (h : n + 1 < 2 ^ 64) : incU64 n = n + 1 := by
  unfold incU64
  omega

theorem decU64_of_pos {n : Nat} (h₀ : 0 < n) (h : n < 2 ^ 64) : decU64 n = n - 1 := by
  unfold decU64
  omega

theorem incU64_lt (n : Nat) : incU64 n < 2 ^ 64 := Nat.mod_lt _ (by decide)

/-! ## ERC721 properties -/

/-- **`CMPSPERC721Info::PropertyInfo`**, with the defaults of `PropertyInfo()`. -/
structure CMPSPERC721Info.PropertyInfo where
  issuer : Address := ""
  name : String := ""
  symbol : String := ""
  url : String := ""
  data : String := ""
  maxTokens : Nat := 0
  haveIssuedNumber : Nat := 0
  currentValidIssuedNumer : Nat := 0
  autoNextTokenID : Nat := 1
  txid : Uint256 := 0
  creationBlock : Uint256 := 0
  updateBlock : Uint256 := 0
deriving DecidableEq

/-- **`CMPSPERC721Info`** — the property records (`'s'`, `'b'`), the `'t'` index, the watermark,
the next identifier and `cacheMapPropertyInfo`. -/
structure CMPSPERC721Info where
  db : UndoLog Uint256 Uint256 CMPSPERC721Info.PropertyInfo
  txIndex : OrdMap Uint256 Uint256
  watermark : Option Uint256
  nextErc721spid : Uint256
  cacheMapPropertyInfo : OrdMap Uint256 (CMPSPERC721Info.PropertyInfo × Flags)
deriving DecidableEq

namespace CMPSPERC721Info

/-- An empty store: `init()` with `next_erc721spid = UINT256ONE`. -/
def empty : CMPSPERC721Info := ⟨UndoLog.empty, OrdMap.empty, none, 1, OrdMap.empty⟩

/-- `clear()`: `init()`, then wipe the database. -/
def clear (_ : CMPSPERC721Info) : CMPSPERC721Info := empty

/-- `init(nextSPID)`: set the next identifier and empty the cache. -/
def init (s : CMPSPERC721Info) (nextSPID : Uint256) : CMPSPERC721Info :=
  { s with nextErc721spid := nextSPID, cacheMapPropertyInfo := OrdMap.empty }

/-- A record as the handlers see it: the cached copy, else the stored one. -/
def view (s : CMPSPERC721Info) (propertyID : Uint256) : Option PropertyInfo :=
  match s.cacheMapPropertyInfo.find? propertyID with
  | some cached => some cached.1
  | none => s.db.live.find? propertyID

/-- `getForUpdateSP`: the cached record, loading it `FRESH` from the database if needed. -/
def getForUpdateSP (s : CMPSPERC721Info) (propertyID : Uint256) :
    Option (PropertyInfo × Flags) × CMPSPERC721Info :=
  match s.cacheMapPropertyInfo.find? propertyID with
  | some cached => (some cached, s)
  | none =>
    match s.db.live.find? propertyID with
    | none => (none, s)
    | some info =>
      (some (info, .fresh),
        { s with cacheMapPropertyInfo := s.cacheMapPropertyInfo.insert propertyID (info, .fresh) })

/-- `existSP`: whether the property exists, loading it `FRESH` into the cache. -/
def existSP (s : CMPSPERC721Info) (propertyID : Uint256) : Bool × CMPSPERC721Info :=
  let r := s.getForUpdateSP propertyID
  (r.1.isSome, r.2)

/-- Store a changed record in the cache (the handlers write through the pointer
`getForUpdateSP` returned). -/
def setCached (s : CMPSPERC721Info) (propertyID : Uint256) (entry : PropertyInfo × Flags) :
    CMPSPERC721Info :=
  { s with cacheMapPropertyInfo := s.cacheMapPropertyInfo.insert propertyID entry }

/-- `putSP(info)`: the next identifier, the record cached `DIRTY`. -/
def putSP (s : CMPSPERC721Info) (info : PropertyInfo) : Uint256 × CMPSPERC721Info :=
  (s.nextErc721spid,
    { s with nextErc721spid := increaseOne s.nextErc721spid,
             cacheMapPropertyInfo := s.cacheMapPropertyInfo.insert s.nextErc721spid (info, .dirty) })

/-- One dirty record written by `flush`: a new record with its `'t'` entry, or a saving write
under the record's own `updateBlock`. -/
def flushOne (s : CMPSPERC721Info) (e : Uint256 × (PropertyInfo × Flags)) : CMPSPERC721Info :=
  if e.2.2 = .dirty then
    match s.db.live.find? e.1 with
    | none => { s with db := s.db.put e.1 e.2.1, txIndex := s.txIndex.insert e.2.1.txid e.1 }
    | some _ => { s with db := s.db.write e.2.1.updateBlock e.1 e.2.1 }
  else s

/-- **`flush(watermark)`**: write the dirty records, set the watermark, empty the cache. -/
def flush (s : CMPSPERC721Info) (watermark : Uint256) : CMPSPERC721Info :=
  let s' := s.cacheMapPropertyInfo.entries.foldl flushOne s
  { s' with watermark := some watermark, cacheMapPropertyInfo := OrdMap.empty }

/-- **`popBlock(block_hash)`**: undo the records stamped `block_hash`; `false` (and nothing
written) when a saved copy is missing. -/
def popBlock (s : CMPSPERC721Info) (blockHash : Uint256) : Bool × CMPSPERC721Info :=
  match UndoLog.popBlock PropertyInfo.updateBlock PropertyInfo.creationBlock s.db blockHash with
  | none => (false, s)
  | some db' =>
    let dropped := s.db.live.entries.filter (fun e =>
      UndoLog.revertOf PropertyInfo.updateBlock PropertyInfo.creationBlock s.db blockHash e.1 e.2 = .drop)
    (true, { s with db := db', txIndex := dropped.foldl (fun t e => t.erase e.2.txid) s.txIndex })

/-- `getWatermark`. -/
def getWatermark (s : CMPSPERC721Info) : Option Uint256 := s.watermark

/-- `setWatermark(watermark)`. -/
def setWatermark (s : CMPSPERC721Info) (watermark : Uint256) : CMPSPERC721Info :=
  { s with watermark := some watermark }

/-! ### What a flush commits, and what its rollback keeps -/

/-- `flushOne` writes only the record it is given. -/
theorem flushOne_find?_of_ne (s : CMPSPERC721Info) (e : Uint256 × (PropertyInfo × Flags))
    {k : Uint256} (hk : e.1 ≠ k) : (flushOne s e).db.live.find? k = s.db.live.find? k := by
  unfold flushOne
  split
  · split <;> simp [hk]
  · rfl

/-- A dirty record is live after `flushOne`, new or not. -/
theorem flushOne_find?_dirty (s : CMPSPERC721Info) (k : Uint256) (v : PropertyInfo) :
    (flushOne s (k, (v, .dirty))).db.live.find? k = some v := by
  unfold flushOne
  rw [if_pos rfl]
  split <;> simp

/-- The walk of `flush` leaves a key that none of its entries names. -/
theorem foldl_flushOne_find?_of_not_mem {k : Uint256} :
    ∀ (l : List (Uint256 × (PropertyInfo × Flags))) (s : CMPSPERC721Info), k ∉ l.map Prod.fst →
      (l.foldl flushOne s).db.live.find? k = s.db.live.find? k
  | [], _, _ => rfl
  | e :: l, s, hk => by
    rw [List.map_cons, List.mem_cons, not_or] at hk
    rw [List.foldl_cons, foldl_flushOne_find?_of_not_mem l _ hk.2,
      flushOne_find?_of_ne s e (Ne.symm hk.1)]

/-- The walk of `flush` over entries with increasing keys leaves each dirty one live. -/
theorem foldl_flushOne_find?_of_dirty {k : Uint256} {v : PropertyInfo} :
    ∀ (l : List (Uint256 × (PropertyInfo × Flags))) (s : CMPSPERC721Info),
      l.Pairwise (fun a b => a.1 < b.1) → (k, (v, .dirty)) ∈ l →
        (l.foldl flushOne s).db.live.find? k = some v
  | [], _, _, hm => absurd hm List.not_mem_nil
  | e :: l, s, hl, hm => by
    rw [List.pairwise_cons] at hl
    rcases List.mem_cons.mp hm with rfl | hm
    · -- the entry is written here, and no later entry names its key again
      have hk : k ∉ l.map Prod.fst := by
        rw [List.mem_map]
        rintro ⟨e', he', rfl⟩
        exact lt_irrefl _ (hl.1 e' he')
      rw [List.foldl_cons, foldl_flushOne_find?_of_not_mem l _ hk, flushOne_find?_dirty]
    · exact foldl_flushOne_find?_of_dirty l _ hl.2 hm

/-- **`flush` commits the dirty cache**: a record cached `DIRTY` is the live one afterwards. -/
theorem find?_flush_of_dirty {s : CMPSPERC721Info} {k : Uint256} {v : PropertyInfo}
    (hc : s.cacheMapPropertyInfo.find? k = some (v, .dirty)) (watermark : Uint256) :
    (s.flush watermark).db.live.find? k = some v :=
  foldl_flushOne_find?_of_dirty _ s s.cacheMapPropertyInfo.sorted (OrdMap.mem_of_find? hc)

/-- **The rollback of a block keeps what the block left unstamped.** A record that the block
changed in the cache without setting its `updateBlock` to the block's hash is still the live one
after `flush(h)` and then `popBlock(h)`: the rollback does not bring back the record it replaced. -/
theorem view_popBlock_flush_of_stamp_ne {s : CMPSPERC721Info} {k h : Uint256} {v : PropertyInfo}
    (hc : s.cacheMapPropertyInfo.find? k = some (v, .dirty)) (hv : v.updateBlock ≠ h) :
    ((s.flush h).popBlock h).2.view k = some v := by
  have hlive := find?_flush_of_dirty hc h
  unfold popBlock
  split
  · -- a failed rollback writes nothing; the cache is empty after the flush
    exact hlive
  · rename_i db' hpop
    exact UndoLog.find?_popBlock_of_stamp_ne hpop hlive hv

/-- Property `1` as block `110` left it: one token issued. -/
def erc721PropertyAt110 : PropertyInfo :=
  { issuer := "issuer", maxTokens := 10, haveIssuedNumber := 1, currentValidIssuedNumer := 1,
    autoNextTokenID := 2, txid := 5, creationBlock := 110, updateBlock := 110 }

/-- Block `111` issues a second token of property `1`: the handler caches the record `DIRTY`,
its stamp unchanged. -/
def erc721CachedAt111 : CMPSPERC721Info :=
  { empty with
    db := UndoLog.empty.put 1 erc721PropertyAt110,
    cacheMapPropertyInfo := OrdMap.empty.insert 1
      ({ erc721PropertyAt110 with
          haveIssuedNumber := 2, currentValidIssuedNumer := 2, autoNextTokenID := 3 }, .dirty) }

/-- Flushing and popping block `111` leaves the second token issued. -/
theorem erc721CachedAt111_popBlock_keeps_issue :
    ((erc721CachedAt111.flush 111).popBlock 111).2.view 1 =
      some { erc721PropertyAt110 with
        haveIssuedNumber := 2, currentValidIssuedNumer := 2, autoNextTokenID := 3 } :=
  view_popBlock_flush_of_stamp_ne rfl (by decide)

/-! ### What the handlers see, through the cache and across a flush -/

/-- **A coherent cache**: a record cached `FRESH` is the stored one. -/
def Coherent (s : CMPSPERC721Info) : Prop :=
  ∀ p i, s.cacheMapPropertyInfo.find? p = some (i, .fresh) → s.db.live.find? p = some i

theorem view_getForUpdateSP (s : CMPSPERC721Info) (p q : Uint256) :
    (s.getForUpdateSP p).2.view q = s.view q := by
  unfold getForUpdateSP
  split
  · rfl
  · next hc =>
    split
    · rfl
    · next info hdb =>
      unfold view
      by_cases h : p = q
      · subst h
        simp [hc, hdb]
      · simp [h]

@[simp] theorem nextErc721spid_getForUpdateSP (s : CMPSPERC721Info) (p : Uint256) :
    (s.getForUpdateSP p).2.nextErc721spid = s.nextErc721spid := by
  unfold getForUpdateSP
  split
  · rfl
  · split <;> rfl

theorem getForUpdateSP_fst (s : CMPSPERC721Info) (p : Uint256) :
    (s.getForUpdateSP p).1.map Prod.fst = s.view p := by
  unfold getForUpdateSP view
  split
  · simp
  · split <;> simp [*]

theorem Coherent.getForUpdateSP {s : CMPSPERC721Info} (hs : s.Coherent) (p : Uint256) :
    (s.getForUpdateSP p).2.Coherent := by
  unfold CMPSPERC721Info.getForUpdateSP
  split
  · exact hs
  · split
    · exact hs
    · next info hdb =>
      intro q i hq
      simp only [OrdMap.find?_insert] at hq ⊢
      split at hq
      · next h =>
        subst h
        cases hq
        exact hdb
      · exact hs q i hq

@[simp] theorem view_setCached (s : CMPSPERC721Info) (p : Uint256) (e : PropertyInfo × Flags)
    (q : Uint256) : (s.setCached p e).view q = if p = q then some e.1 else s.view q := by
  unfold setCached view
  by_cases h : p = q <;> simp [h]

theorem Coherent.setCached_dirty {s : CMPSPERC721Info} (hs : s.Coherent) (p : Uint256)
    (i : PropertyInfo) : (s.setCached p (i, .dirty)).Coherent := by
  intro q j hq
  simp only [setCached, OrdMap.find?_insert] at hq
  split at hq
  · cases hq
  · exact hs q j hq

@[simp] theorem nextErc721spid_putSP (s : CMPSPERC721Info) (info : PropertyInfo) :
    (s.putSP info).2.nextErc721spid = increaseOne s.nextErc721spid := rfl

@[simp] theorem view_putSP (s : CMPSPERC721Info) (info : PropertyInfo) (q : Uint256) :
    (s.putSP info).2.view q = if s.nextErc721spid = q then some info else s.view q := by
  unfold putSP view
  by_cases h : s.nextErc721spid = q <;> simp [h]

theorem Coherent.putSP {s : CMPSPERC721Info} (hs : s.Coherent) (info : PropertyInfo) :
    (s.putSP info).2.Coherent := by
  intro q j hq
  simp only [CMPSPERC721Info.putSP, OrdMap.find?_insert] at hq
  split at hq
  · cases hq
  · exact hs q j hq

/-- `flushOne` leaves everything but a dirty record's key. -/
theorem flushOne_of_not_dirty (s : CMPSPERC721Info) {e : Uint256 × (PropertyInfo × Flags)}
    (he : e.2.2 ≠ .dirty) : flushOne s e = s := by
  unfold flushOne
  rw [if_neg he]

theorem foldl_flushOne_find?_of_clean {k : Uint256} :
    ∀ (l : List (Uint256 × (PropertyInfo × Flags))) (s : CMPSPERC721Info),
      (∀ e ∈ l, e.1 = k → e.2.2 ≠ .dirty) →
      (l.foldl flushOne s).db.live.find? k = s.db.live.find? k
  | [], _, _ => rfl
  | e :: l, s, hk => by
    rw [List.foldl_cons, foldl_flushOne_find?_of_clean l _ fun e' he' => hk e' (.tail _ he')]
    by_cases he : e.1 = k
    · rw [flushOne_of_not_dirty s (hk e List.mem_cons_self he)]
    · exact flushOne_find?_of_ne s e he

theorem nextErc721spid_foldl_flushOne :
    ∀ (l : List (Uint256 × (PropertyInfo × Flags))) (s : CMPSPERC721Info),
      (l.foldl flushOne s).nextErc721spid = s.nextErc721spid
  | [], _ => rfl
  | e :: l, s => by
    rw [List.foldl_cons, nextErc721spid_foldl_flushOne l]
    unfold flushOne
    split
    · split <;> rfl
    · rfl

@[simp] theorem nextErc721spid_flush (s : CMPSPERC721Info) (w : Uint256) :
    (s.flush w).nextErc721spid = s.nextErc721spid :=
  nextErc721spid_foldl_flushOne _ s

/-- **`flush` changes no view** of a coherent cache: the dirty records are written, the fresh ones
are stored already. -/
theorem view_flush {s : CMPSPERC721Info} (hs : s.Coherent) (w q : Uint256) :
    (s.flush w).view q = s.view q := by
  have hview : (s.flush w).view q = (s.flush w).db.live.find? q := by
    simp [flush, view]
  rw [hview]
  unfold view
  cases hc : s.cacheMapPropertyInfo.find? q with
  | none =>
    -- no entry of the cache names the key
    refine foldl_flushOne_find?_of_clean _ s fun e he heq => ?_
    rw [← heq, OrdMap.find?_of_mem he] at hc
    cases hc
  | some cached =>
    obtain ⟨v, f⟩ := cached
    cases f with
    | dirty => exact find?_flush_of_dirty hc w
    | fresh =>
      rw [show (s.flush w).db.live.find? q = s.db.live.find? q from
        foldl_flushOne_find?_of_clean _ s fun e he heq => ?_]
      · exact hs q v hc
      · rw [← heq, OrdMap.find?_of_mem he, Option.some_inj] at hc
        rw [hc]
        exact Flags.noConfusion

theorem Coherent.flush (s : CMPSPERC721Info) (w : Uint256) : (s.flush w).Coherent := by
  intro q j hq
  simp [CMPSPERC721Info.flush] at hq

end CMPSPERC721Info

/-! ## ERC721 tokens -/

/-- **`ERC721TokenInfos::TokenInfo`**. -/
structure ERC721TokenInfos.TokenInfo where
  owner : Address := ""
  url : String := ""
  attributes : Uint256 := 0
  txid : Uint256 := 0
  updateBlockHash : Uint256 := 0
  creationBlockHash : Uint256 := 0
deriving DecidableEq

/-- **`ERC721TokenInfos`** — the token records keyed by `(propertyID, tokenID)`, the `'t'` index,
the watermark and `cacheProperty`. -/
structure ERC721TokenInfos where
  db : UndoLog Uint256 (Uint256 ×ₗ Uint256) ERC721TokenInfos.TokenInfo
  txIndex : OrdMap Uint256 (Uint256 × Uint256)
  watermark : Option Uint256
  cacheProperty : OrdMap Uint256 (OrdMap Uint256 (ERC721TokenInfos.TokenInfo × Flags))
deriving DecidableEq

namespace ERC721TokenInfos

/-- An empty store. -/
def empty : ERC721TokenInfos := ⟨UndoLog.empty, OrdMap.empty, none, OrdMap.empty⟩

/-- `clear()`. -/
def clear (_ : ERC721TokenInfos) : ERC721TokenInfos := empty

/-- The cached tokens of a property (`cacheProperty[propertyID].cacheTokens`, empty if absent). -/
def cacheTokens (s : ERC721TokenInfos) (propertyID : Uint256) : OrdMap Uint256 (TokenInfo × Flags) :=
  s.cacheProperty.findD propertyID OrdMap.empty

/-- A token as the handlers see it: the cached copy, else the stored one. -/
def view (s : ERC721TokenInfos) (propertyID tokenID : Uint256) : Option TokenInfo :=
  match (s.cacheTokens propertyID).find? tokenID with
  | some cached => some cached.1
  | none => s.db.live.find? (toLex (propertyID, tokenID))

/-- `cacheProperty[propertyID]` made present (the source creates it on every access). -/
def touch (s : ERC721TokenInfos) (propertyID : Uint256) : ERC721TokenInfos :=
  { s with cacheProperty := s.cacheProperty.insert propertyID (s.cacheTokens propertyID) }

/-- Store a token in the cache. -/
def setCached (s : ERC721TokenInfos) (propertyID tokenID : Uint256) (entry : TokenInfo × Flags) :
    ERC721TokenInfos :=
  let tokens := (s.cacheTokens propertyID).insert tokenID entry
  { s with cacheProperty := s.cacheProperty.insert propertyID tokens }

/-- `getForUpdateToken`: the cached token, loading it `FRESH` from the database if needed. -/
def getForUpdateToken (s : ERC721TokenInfos) (propertyID tokenID : Uint256) :
    Option (TokenInfo × Flags) × ERC721TokenInfos :=
  let s := s.touch propertyID
  match (s.cacheTokens propertyID).find? tokenID with
  | some cached => (some cached, s)
  | none =>
    match s.db.live.find? (toLex (propertyID, tokenID)) with
    | none => (none, s)
    | some info => (some (info, .fresh), s.setCached propertyID tokenID (info, .fresh))

/-- `putToken`: cache a new token `DIRTY`; `false` when it is cached or stored already (a stored
one is loaded `FRESH`). -/
def putToken (s : ERC721TokenInfos) (propertyID tokenID : Uint256) (info : TokenInfo) :
    Bool × ERC721TokenInfos :=
  let s := s.touch propertyID
  match (s.cacheTokens propertyID).find? tokenID with
  | some _ => (false, s)
  | none =>
    match s.db.live.find? (toLex (propertyID, tokenID)) with
    | some stored => (false, s.setCached propertyID tokenID (stored, .fresh))
    | none => (true, s.setCached propertyID tokenID (info, .dirty))

/-- One dirty token written by `flush`. -/
def flushOne (propertyID : Uint256) (s : ERC721TokenInfos) (e : Uint256 × (TokenInfo × Flags)) :
    ERC721TokenInfos :=
  if e.2.2 = .dirty then
    match s.db.live.find? (toLex (propertyID, e.1)) with
    | none => { s with db := s.db.put (toLex (propertyID, e.1)) e.2.1,
                       txIndex := s.txIndex.insert e.2.1.txid (propertyID, e.1) }
    | some _ => { s with db := s.db.write e.2.1.updateBlockHash (toLex (propertyID, e.1)) e.2.1 }
  else s

/-- **`flush(block_hash)`**: write the dirty tokens, set the watermark, empty the cache. -/
def flush (s : ERC721TokenInfos) (blockHash : Uint256) : ERC721TokenInfos :=
  let s' := s.cacheProperty.entries.foldl
    (fun s p => p.2.entries.foldl (flushOne p.1) s) s
  { s' with watermark := some blockHash, cacheProperty := OrdMap.empty }

/-- **`popBlock(block_hash)`**: undo the tokens stamped `block_hash`. -/
def popBlock (s : ERC721TokenInfos) (blockHash : Uint256) : Bool × ERC721TokenInfos :=
  match UndoLog.popBlock TokenInfo.updateBlockHash TokenInfo.creationBlockHash s.db blockHash with
  | none => (false, s)
  | some db' =>
    let dropped := s.db.live.entries.filter (fun e =>
      UndoLog.revertOf TokenInfo.updateBlockHash TokenInfo.creationBlockHash s.db blockHash e.1 e.2 =
        .drop)
    (true, { s with db := db', txIndex := dropped.foldl (fun t e => t.erase e.2.txid) s.txIndex })

/-- `getWatermark`. -/
def getWatermark (s : ERC721TokenInfos) : Option Uint256 := s.watermark

/-- `setWatermark(watermark)`. -/
def setWatermark (s : ERC721TokenInfos) (watermark : Uint256) : ERC721TokenInfos :=
  { s with watermark := some watermark }

/-! ### What the handlers see, through the cache and across a flush -/

/-- **A coherent cache**: a token cached `FRESH` is the stored one. -/
def Coherent (s : ERC721TokenInfos) : Prop :=
  ∀ p t i, (s.cacheTokens p).find? t = some (i, .fresh) → s.db.live.find? (toLex (p, t)) = some i

@[simp] theorem cacheTokens_touch (s : ERC721TokenInfos) (p q : Uint256) :
    (s.touch p).cacheTokens q = s.cacheTokens q := by
  unfold touch cacheTokens
  by_cases h : p = q
  · subst h
    simp [OrdMap.findD_eq]
  · simp [h]

@[simp] theorem db_touch (s : ERC721TokenInfos) (p : Uint256) : (s.touch p).db = s.db := rfl

@[simp] theorem view_touch (s : ERC721TokenInfos) (p q t : Uint256) :
    (s.touch p).view q t = s.view q t := by
  simp [view]

theorem Coherent.touch {s : ERC721TokenInfos} (hs : s.Coherent) (p : Uint256) :
    (s.touch p).Coherent := by
  intro q t i h
  rw [cacheTokens_touch] at h
  exact hs q t i h

@[simp] theorem cacheTokens_setCached (s : ERC721TokenInfos) (p t : Uint256)
    (e : TokenInfo × Flags) (q : Uint256) :
    (s.setCached p t e).cacheTokens q =
      if p = q then (s.cacheTokens p).insert t e else s.cacheTokens q := by
  unfold setCached cacheTokens
  by_cases h : p = q <;> simp [h]

@[simp] theorem db_setCached (s : ERC721TokenInfos) (p t : Uint256) (e : TokenInfo × Flags) :
    (s.setCached p t e).db = s.db := rfl

@[simp] theorem view_setCached (s : ERC721TokenInfos) (p t : Uint256) (e : TokenInfo × Flags)
    (q u : Uint256) :
    (s.setCached p t e).view q u = if p = q ∧ t = u then some e.1 else s.view q u := by
  unfold view
  by_cases hp : p = q
  · subst hp
    by_cases ht : t = u <;> simp [ht]
  · simp [hp]

theorem Coherent.setCached_dirty {s : ERC721TokenInfos} (hs : s.Coherent) (p t : Uint256)
    (i : TokenInfo) : (s.setCached p t (i, .dirty)).Coherent := by
  intro q u j h
  rw [cacheTokens_setCached] at h
  split at h
  · next hp =>
    subst hp
    rw [OrdMap.find?_insert] at h
    split at h
    · cases h
    · exact hs p u j h
  · exact hs q u j h

theorem getForUpdateToken_fst (s : ERC721TokenInfos) (p t : Uint256) :
    (s.getForUpdateToken p t).1.map Prod.fst = s.view p t := by
  unfold getForUpdateToken
  simp only [cacheTokens_touch, db_touch]
  unfold view
  split
  · simp [*]
  · split <;> simp [*]

theorem view_getForUpdateToken (s : ERC721TokenInfos) (p t q u : Uint256) :
    (s.getForUpdateToken p t).2.view q u = s.view q u := by
  unfold getForUpdateToken
  simp only [cacheTokens_touch, db_touch]
  split
  · exact view_touch s p q u
  · next hc =>
    split
    · exact view_touch s p q u
    · next info hdb =>
      rw [view_setCached, view_touch]
      split
      · next h =>
        obtain ⟨rfl, rfl⟩ := h
        simp [view, hc, hdb]
      · rfl

theorem Coherent.getForUpdateToken {s : ERC721TokenInfos} (hs : s.Coherent) (p t : Uint256) :
    (s.getForUpdateToken p t).2.Coherent := by
  unfold ERC721TokenInfos.getForUpdateToken
  simp only [cacheTokens_touch, db_touch]
  split
  · exact hs.touch p
  · split
    · exact hs.touch p
    · next info hdb =>
      intro q u j h
      simp only [cacheTokens_setCached, cacheTokens_touch] at h
      simp only [db_setCached, db_touch]
      split at h
      · next hp =>
        subst hp
        rw [OrdMap.find?_insert] at h
        split at h
        · next ht =>
          subst ht
          cases h
          exact hdb
        · exact hs p u j h
      · exact hs q u j h

/-- **`putToken` succeeds exactly on a free identifier**, and then the token is the given one. -/
theorem putToken_fst (s : ERC721TokenInfos) (p t : Uint256) (info : TokenInfo) :
    (s.putToken p t info).1 = (s.view p t).isNone := by
  unfold putToken
  simp only [cacheTokens_touch, db_touch]
  unfold view
  split
  · simp [*]
  · split <;> simp [*]

theorem view_putToken (s : ERC721TokenInfos) (p t : Uint256) (info : TokenInfo) (q u : Uint256) :
    (s.putToken p t info).2.view q u =
      if p = q ∧ t = u ∧ s.view p t = none then some info else s.view q u := by
  unfold putToken
  simp only [cacheTokens_touch, db_touch]
  split
  · next c hc =>
    rw [view_touch]
    have : s.view p t ≠ none := by simp [view, hc]
    simp [this]
  · next hc =>
    split
    · next stored hdb =>
      rw [view_setCached, view_touch]
      have : s.view p t = some stored := by simp [view, hc, hdb]
      split
      · next h =>
        obtain ⟨rfl, rfl⟩ := h
        simp [this]
      · simp [this]
    · next hdb =>
      rw [view_setCached, view_touch]
      have : s.view p t = none := by simp [view, hc, hdb]
      simp [this]

theorem Coherent.putToken {s : ERC721TokenInfos} (hs : s.Coherent) (p t : Uint256)
    (info : TokenInfo) : (s.putToken p t info).2.Coherent := by
  unfold ERC721TokenInfos.putToken
  simp only [cacheTokens_touch, db_touch]
  split
  · exact hs.touch p
  · split
    · next stored hdb =>
      intro q u j h
      simp only [cacheTokens_setCached, cacheTokens_touch] at h
      simp only [db_setCached, db_touch]
      split at h
      · next hp =>
        subst hp
        rw [OrdMap.find?_insert] at h
        split at h
        · next ht =>
          subst ht
          cases h
          exact hdb
        · exact hs p u j h
      · exact hs q u j h
    · exact (hs.touch p).setCached_dirty p t info

/-- `flushOne` writes only the token it is given. -/
theorem flushOne_find?_of_ne (p : Uint256) (s : ERC721TokenInfos)
    (e : Uint256 × (TokenInfo × Flags)) {k : Uint256 ×ₗ Uint256} (hk : toLex (p, e.1) ≠ k) :
    (flushOne p s e).db.live.find? k = s.db.live.find? k := by
  unfold flushOne
  split
  · split <;> simp [hk]
  · rfl

/-- A dirty token is live after `flushOne`, new or not. -/
theorem flushOne_find?_dirty (p : Uint256) (s : ERC721TokenInfos) (t : Uint256) (v : TokenInfo) :
    (flushOne p s (t, (v, .dirty))).db.live.find? (toLex (p, t)) = some v := by
  unfold flushOne
  rw [if_pos rfl]
  split <;> simp

theorem flushOne_of_not_dirty (p : Uint256) (s : ERC721TokenInfos)
    {e : Uint256 × (TokenInfo × Flags)} (he : e.2.2 ≠ .dirty) : flushOne p s e = s := by
  unfold flushOne
  rw [if_neg he]

/-- The walk over one property's tokens leaves a key that no dirty entry names. -/
theorem foldl_flushOne_find?_of_clean (p : Uint256) {k : Uint256 ×ₗ Uint256} :
    ∀ (l : List (Uint256 × (TokenInfo × Flags))) (s : ERC721TokenInfos),
      (∀ e ∈ l, toLex (p, e.1) = k → e.2.2 ≠ .dirty) →
      (l.foldl (flushOne p) s).db.live.find? k = s.db.live.find? k
  | [], _, _ => rfl
  | e :: l, s, hk => by
    rw [List.foldl_cons, foldl_flushOne_find?_of_clean p l _ fun e' he' => hk e' (.tail _ he')]
    by_cases he : toLex (p, e.1) = k
    · rw [flushOne_of_not_dirty p s (hk e List.mem_cons_self he)]
    · exact flushOne_find?_of_ne p s e he

/-- The walk over one property's tokens, by increasing identifier, leaves each dirty one live. -/
theorem foldl_flushOne_find?_of_dirty (p : Uint256) {t : Uint256} {v : TokenInfo} :
    ∀ (l : List (Uint256 × (TokenInfo × Flags))) (s : ERC721TokenInfos),
      l.Pairwise (fun a b => a.1 < b.1) → (t, (v, .dirty)) ∈ l →
        (l.foldl (flushOne p) s).db.live.find? (toLex (p, t)) = some v
  | [], _, _, hm => absurd hm List.not_mem_nil
  | e :: l, s, hl, hm => by
    rw [List.pairwise_cons] at hl
    rcases List.mem_cons.mp hm with rfl | hm
    · -- no later entry names the same token
      rw [List.foldl_cons, foldl_flushOne_find?_of_clean p l _ fun e' he' heq => ?_,
        flushOne_find?_dirty]
      have ht : e'.1 = t := by simpa using heq
      exact absurd (hl.1 e' he') (by rw [ht]; exact lt_irrefl _)
    · exact foldl_flushOne_find?_of_dirty p l _ hl.2 hm

/-- The walk of `flush` over the cached properties leaves a key that no dirty entry names. -/
theorem foldl_flushTokens_find?_of_clean {k : Uint256 ×ₗ Uint256} :
    ∀ (L : List (Uint256 × OrdMap Uint256 (TokenInfo × Flags))) (s : ERC721TokenInfos),
      (∀ P ∈ L, ∀ e ∈ P.2.entries, toLex (P.1, e.1) = k → e.2.2 ≠ .dirty) →
      (L.foldl (fun s P => P.2.entries.foldl (flushOne P.1) s) s).db.live.find? k =
        s.db.live.find? k
  | [], _, _ => rfl
  | P :: L, s, hk => by
    rw [List.foldl_cons, foldl_flushTokens_find?_of_clean L _ fun P' hP' => hk P' (.tail _ hP'),
      foldl_flushOne_find?_of_clean P.1 _ s (hk P List.mem_cons_self)]

/-- The walk of `flush`, by increasing property, leaves each dirty token live. -/
theorem foldl_flushTokens_find?_of_dirty {p t : Uint256}
    {tokens : OrdMap Uint256 (TokenInfo × Flags)} {v : TokenInfo} :
    ∀ (L : List (Uint256 × OrdMap Uint256 (TokenInfo × Flags))) (s : ERC721TokenInfos),
      L.Pairwise (fun a b => a.1 < b.1) → (p, tokens) ∈ L → (t, (v, .dirty)) ∈ tokens.entries →
      (L.foldl (fun s P => P.2.entries.foldl (flushOne P.1) s) s).db.live.find? (toLex (p, t)) =
        some v
  | [], _, _, hm, _ => absurd hm List.not_mem_nil
  | P :: L, s, hL, hm, ht => by
    rw [List.pairwise_cons] at hL
    rcases List.mem_cons.mp hm with rfl | hm
    · -- no later property is the same one
      rw [List.foldl_cons, foldl_flushTokens_find?_of_clean L _ fun P' hP' e _ heq => ?_,
        foldl_flushOne_find?_of_dirty p _ s tokens.sorted ht]
      have hp : P'.1 = p := by simpa using congrArg (fun x => (ofLex x).1) heq
      exact absurd (hL.1 P' hP') (by rw [hp]; exact lt_irrefl _)
    · exact foldl_flushTokens_find?_of_dirty L _ hL.2 hm ht

/-- **`flush` changes no view** of a coherent cache. -/
theorem view_flush {s : ERC721TokenInfos} (hs : s.Coherent) (h p t : Uint256) :
    (s.flush h).view p t = s.view p t := by
  have hview : (s.flush h).view p t = (s.flush h).db.live.find? (toLex (p, t)) := by
    simp [flush, view, cacheTokens]
  rw [hview]
  -- the one cached entry that names the key is the property's token
  have hkey : ∀ P ∈ s.cacheProperty.entries, ∀ e ∈ P.2.entries, toLex (P.1, e.1) = toLex (p, t) →
      (s.cacheTokens p).find? t = some e.2 := by
    intro P hP e he heq
    obtain ⟨h1, h2⟩ : P.1 = p ∧ e.1 = t := by simpa using heq
    have hP' : s.cacheProperty.find? p = some P.2 := by
      rw [← h1]
      exact OrdMap.find?_of_mem hP
    simp [cacheTokens, OrdMap.findD_eq, hP', ← h2, OrdMap.find?_of_mem he]
  unfold view
  cases hc : (s.cacheTokens p).find? t with
  | none =>
    refine foldl_flushTokens_find?_of_clean _ s fun P hP e he heq => ?_
    rw [hkey P hP e he heq] at hc
    cases hc
  | some cached =>
    obtain ⟨v, f⟩ := cached
    cases f with
    | dirty =>
      obtain ⟨tokens, hp, ht⟩ : ∃ tokens, (p, tokens) ∈ s.cacheProperty.entries ∧
          tokens.find? t = some (v, .dirty) := by
        cases hp : s.cacheProperty.find? p with
        | none => simp [cacheTokens, OrdMap.findD_eq, hp] at hc
        | some tokens =>
          exact ⟨tokens, OrdMap.mem_of_find? hp, by simpa [cacheTokens, OrdMap.findD_eq, hp] using hc⟩
      exact foldl_flushTokens_find?_of_dirty _ s s.cacheProperty.sorted hp (OrdMap.mem_of_find? ht)
    | fresh =>
      refine (foldl_flushTokens_find?_of_clean _ s fun P hP e he heq => ?_).trans (hs p t v hc)
      rw [hkey P hP e he heq, Option.some_inj] at hc
      rw [hc]
      exact Flags.noConfusion

theorem Coherent.flush (s : ERC721TokenInfos) (h : Uint256) : (s.flush h).Coherent := by
  intro p t i hc
  simp [ERC721TokenInfos.flush, cacheTokens] at hc

end ERC721TokenInfos

end WormholeCore
