/-
# `WormholeCore.SendAll` — what a send-all moves (`logicMath_SendAll`, tx.cpp; `CMPTally::init`
and `next`, tally.cpp).

A send-all walks the sender's token map with the tally's own iterator. `init` points it at the
first record and `next` hands out the key under it before advancing, so the walk visits the keys in
increasing order and stops at the first key `0`. A record of property `0` is the smallest key, so it
stops the walk before anything is visited. Each visited property of the main ecosystem whose
balance is positive, with neither side frozen for it, has its whole balance moved from the sender
to the receiver. The model walks `mp_token.keys.takeWhile (· ≠ 0)`.

The effect is stated over the readings of the tally (`TallyMap.money`): `sendAllMoves` says which
properties move, `sendAllReading` what every counter reads afterwards.

## What is proved here

* `sendAllStep_eq` — one property of the walk, by the one condition that matters
  (`sendAllMoves`);
* `sendAllStep_ok` — one step changes only the readings of the property it visits, and those as
  `sendAllReading` says;
* `foldlM_sendAllStep` — the walk over distinct non-zero keys: the visited properties read as
  `sendAllReading`, the others as before, and the count is the number of visited properties that
  move;
* `sendAllWalk_ok` — the walk over the sender's keys: a record of property `0` stops it at once,
  and without one it visits every key;
* `logicMathSendAll_exact` — the whole effect of a send-all: on `0`, exactly the moves, and nothing
  else in the state; on `PKT_ERROR_SEND_ALL-55`, nothing at all; and, in the ecosystem WHC for a
  sender with a tally but no record of property `0`, `PKT_ERROR_SEND_ALL-55` exactly when no
  property moves;
* `sendAll_without_tally_refused` — a sender without a tally is refused with
  `PKT_ERROR_SEND_ALL-54`, although no property moves;
* `sendAll_zero_record_stops_walk` — for a sender with a record of property `0`, nothing is
  visited and the send-all is refused with `PKT_ERROR_SEND_ALL-55`, even where a property would
  move.
-/
import WormholeCore.Tx

namespace WormholeCore

open Lib

namespace CMPTransaction

/-! ## Which properties move, and what the tally reads afterwards -/

/-- Whether a send-all moves property `p`: a property of the main ecosystem of which the sender
holds a positive balance, with neither the sender nor the receiver frozen for it. -/
def sendAllMoves (m : TallyMap) (frozen : FrozenSet) (sender receiver : Address) (p : PropertyId) :
    Bool :=
  isMainEcosystemProperty p && decide (0 < m.money sender p .balance) &&
    !isAddressFrozen frozen sender p && !isAddressFrozen frozen receiver p

/-- The reading of `(a, p, k)` once the send-all is done: a moved property's balance is emptied
from the sender into the receiver (no change when they are the same address); every other reading
is as before. -/
def sendAllReading (m : TallyMap) (frozen : FrozenSet) (sender receiver a : Address) (p : PropertyId)
    (k : TallyType) : Int :=
  if k = .balance ∧ sendAllMoves m frozen sender receiver p = true ∧ sender ≠ receiver then
    if a = sender then 0
    else if a = receiver then m.money receiver p .balance + m.money sender p .balance
    else m.money a p k
  else m.money a p k

/-- What a send-all does to `p` depends only on the readings of `p`. -/
theorem sendAllMoves_congr {m m' : TallyMap} {frozen : FrozenSet} {sender receiver : Address}
    {p : PropertyId} (h : ∀ a k, m.money a p k = m'.money a p k) :
    sendAllMoves m frozen sender receiver p = sendAllMoves m' frozen sender receiver p := by
  simp only [sendAllMoves, h]

theorem sendAllReading_congr {m m' : TallyMap} {frozen : FrozenSet} {sender receiver : Address}
    {p : PropertyId} (h : ∀ a k, m.money a p k = m'.money a p k) (a : Address) (k : TallyType) :
    sendAllReading m frozen sender receiver a p k = sendAllReading m' frozen sender receiver a p k := by
  simp only [sendAllReading, sendAllMoves_congr h, h]

/-- A property that does not move reads as before. -/
theorem sendAllReading_of_not_moves {m : TallyMap} {frozen : FrozenSet} {sender receiver : Address}
    {p : PropertyId} (h : sendAllMoves m frozen sender receiver p = false) (a : Address)
    (k : TallyType) : sendAllReading m frozen sender receiver a p k = m.money a p k := by
  simp [sendAllReading, h]

/-! ## One step of the walk -/

/-- **One property of the walk** in the ecosystem WHC: it moves exactly when `sendAllMoves` says
so, by a debit of the sender's whole balance and a credit of it to the receiver. -/
theorem sendAllStep_eq (sender receiver : Address) (t : OmniState) (n : Nat) {p : PropertyId}
    (hp : p ≠ 0) :
    sendAllStep sender receiver omniPropertyWhc (t, n) p =
      if sendAllMoves t.tally t.frozen sender receiver p then do
        let s ← t.assertUpdateTallyMap sender p (-t.tally.money sender p .balance)
        let s ← s.assertUpdateTallyMap receiver p (t.tally.money sender p .balance)
        pure (s, n + 1)
      else pure (t, n) := by
  -- in the ecosystem WHC, "not of the test ecosystem" is "of the main ecosystem" for `p ≠ 0`
  have hmain : isMainEcosystemProperty p = !isTestEcosystemProperty p := by
    simp [isMainEcosystemProperty, omniPropertyBtc, hp]
  unfold sendAllStep
  simp only [sendAllMoves, hmain, TallyMap.money]
  by_cases htest : isTestEcosystemProperty p = true
  · simp [htest]
  by_cases hfs : isAddressFrozen t.frozen sender p = true
  · simp [htest, hfs, omniPropertyWhc, omniPropertyTwhc]
  by_cases hfr : isAddressFrozen t.frozen receiver p = true
  · simp [htest, hfs, hfr, omniPropertyWhc, omniPropertyTwhc]
  simp only [Bool.not_eq_true] at htest hfs hfr
  by_cases hpos : 0 < (t.tally.findD sender {}).getMoney p .balance
  · simp [htest, hfs, hfr, hpos, omniPropertyWhc, omniPropertyTwhc]
  · simp [htest, hfs, hfr, hpos, omniPropertyWhc, omniPropertyTwhc]

/-- The readings after the sender's balance `b` of `p` went to the receiver. -/
theorem money_sendAllMove {t t₁ t₂ : OmniState} {sender receiver : Address} {p : PropertyId}
    {b : Int} (hb : b = t.tally.money sender p .balance)
    (h₁ : t.assertUpdateTallyMap sender p (-b) = .ok t₁)
    (h₂ : t₁.assertUpdateTallyMap receiver p b = .ok t₂) (a : Address) (q : PropertyId)
    (k : TallyType) :
    t₂.tally.money a q k =
      if q = p ∧ k = .balance ∧ sender ≠ receiver then
        (if a = sender then 0
        else if a = receiver then t.tally.money receiver p .balance + b else t.tally.money a q k)
      else t.tally.money a q k := by
  rw [OmniState.money_assertUpdateTallyMap h₂, OmniState.money_assertUpdateTallyMap h₁]
  by_cases hq : q = p ∧ k = .balance
  · obtain ⟨rfl, rfl⟩ := hq
    by_cases hsr : sender = receiver
    · subst hsr
      by_cases ha : a = sender <;> simp [ha]
    · by_cases ha : a = sender
      · subst ha
        simp [hsr, hb]
      · by_cases har : a = receiver
        · subst har
          simp [ha, hsr]
        · simp [ha, har, hsr]
  · have hq' : ¬(q = p ∧ k = .balance ∧ sender ≠ receiver) := fun h => hq ⟨h.1, h.2.1⟩
    rw [if_neg hq']
    simp only [hq, and_false, if_false]

/-- **One step of the walk** changes nothing but the tally, and in the tally only the readings
of the property it visits, which become what `sendAllReading` says. A property that does not
move leaves the state alone; one that moves adds one to the count. -/
theorem sendAllStep_ok {sender receiver : Address} {t t' : OmniState} {n n' : Nat}
    {p : PropertyId} (hp : p ≠ 0)
    (h : sendAllStep sender receiver omniPropertyWhc (t, n) p = .ok (t', n')) :
    t'.stores = t.stores ∧ t'.feeCache = t.feeCache ∧
      n' = n + (if sendAllMoves t.tally t.frozen sender receiver p then 1 else 0) ∧
      (sendAllMoves t.tally t.frozen sender receiver p = false → t' = t) ∧
      ∀ a q k, t'.tally.money a q k =
        if q = p then sendAllReading t.tally t.frozen sender receiver a p k else t.tally.money a q k := by
  rw [sendAllStep_eq sender receiver t n hp] at h
  by_cases hmoves : sendAllMoves t.tally t.frozen sender receiver p = true
  · rw [if_pos hmoves] at h
    simp only [Except.bind_eq_ok, Except.pure_eq_ok, Prod.mk.injEq] at h
    obtain ⟨t₁, h₁, t₂, h₂, rfl, rfl⟩ := h
    obtain ⟨hst₁, hfee₁⟩ := OmniState.assertUpdateTallyMap_frame h₁
    obtain ⟨hst₂, hfee₂⟩ := OmniState.assertUpdateTallyMap_frame h₂
    refine ⟨hst₂.trans hst₁, hfee₂.trans hfee₁, by simp [hmoves], fun h => by simp [hmoves] at h,
      fun a q k => ?_⟩
    rw [money_sendAllMove rfl h₁ h₂]
    by_cases hq : q = p
    · subst hq
      simp [sendAllReading, hmoves]
    · simp [hq]
  · rw [Bool.not_eq_true] at hmoves
    rw [if_neg (by simp [hmoves]), Except.pure_eq_ok, Prod.mk.injEq] at h
    obtain ⟨rfl, rfl⟩ := h
    refine ⟨rfl, rfl, by simp [hmoves], fun _ => rfl, fun a q k => ?_⟩
    by_cases hq : q = p
    · subst hq
      rw [if_pos rfl, sendAllReading_of_not_moves hmoves]
    · rw [if_neg hq]

/-! ## The walk -/

/-- **The walk over distinct non-zero keys** whose properties still read as in `s`: the visited
properties end up reading as `sendAllReading` says of `s`, the others as before the walk, nothing
but the tally changes, and the count grows by the number of visited properties that move. A walk
that moves nothing leaves the state as it found it. -/
theorem foldlM_sendAllStep {sender receiver : Address} {s : OmniState} :
    ∀ (keys : List PropertyId) (t : OmniState) (n : Nat) (t' : OmniState) (n' : Nat),
      (∀ p ∈ keys, p ≠ 0) → keys.Nodup → t.stores = s.stores →
      (∀ a p k, p ∈ keys → t.tally.money a p k = s.tally.money a p k) →
      keys.foldlM (sendAllStep sender receiver omniPropertyWhc) (t, n) = .ok (t', n') →
      t'.stores = t.stores ∧ t'.feeCache = t.feeCache ∧
        n' = n + (keys.filter (sendAllMoves s.tally s.frozen sender receiver)).length ∧
        ((keys.filter (sendAllMoves s.tally s.frozen sender receiver)).length = 0 → t' = t) ∧
        ∀ a q k, t'.tally.money a q k =
          if q ∈ keys then sendAllReading s.tally s.frozen sender receiver a q k
          else t.tally.money a q k
  | [], t, n, t', n', _, _, _, _, h => by
    rw [List.foldlM_nil, Except.pure_eq_ok, Prod.mk.injEq] at h
    obtain ⟨rfl, rfl⟩ := h
    exact ⟨rfl, rfl, rfl, fun _ => rfl, fun a q k => by simp⟩
  | p :: keys, t, n, t', n', hne, hnodup, hst, hread, h => by
    rw [List.nodup_cons] at hnodup
    rw [List.foldlM_cons, Except.bind_eq_ok] at h
    obtain ⟨⟨t₁, n₁⟩, h₁, h₂⟩ := h
    have hp := hne p List.mem_cons_self
    obtain ⟨hst₁, hfee₁, hn₁, hsame₁, hmoney₁⟩ := sendAllStep_ok hp h₁
    -- what the step did to `p` is what `s` says of it: `t` still reads `p` as `s` does
    have hp_read : ∀ a k, t.tally.money a p k = s.tally.money a p k :=
      fun a k => hread a p k List.mem_cons_self
    have hfrozen : t.frozen = s.frozen := congrArg Prod.fst hst
    have hmoves : sendAllMoves t.tally t.frozen sender receiver p =
        sendAllMoves s.tally s.frozen sender receiver p := by
      rw [hfrozen, sendAllMoves_congr hp_read]
    -- the rest of the keys still read as in `s` after the step
    have hread₁ : ∀ a q k, q ∈ keys → t₁.tally.money a q k = s.tally.money a q k := by
      intro a q k hq
      have hqp : q ≠ p := fun h => hnodup.1 (h ▸ hq)
      rw [hmoney₁, if_neg hqp]
      exact hread a q k (List.mem_cons_of_mem p hq)
    obtain ⟨hst', hfee', hn', hsame', hmoney'⟩ := foldlM_sendAllStep keys t₁ n₁ t' n'
      (fun q hq => hne q (List.mem_cons_of_mem p hq)) hnodup.2 (hst₁.trans hst) hread₁ h₂
    refine ⟨hst'.trans hst₁, hfee'.trans hfee₁, ?_, fun hzero => ?_, fun a q k => ?_⟩
    · rw [hn', hn₁, List.filter_cons, hmoves]
      by_cases hm : sendAllMoves s.tally s.frozen sender receiver p = true
      · simp only [hm, if_true, List.length_cons]
        omega
      · simp only [hm, Bool.false_eq_true, if_false]
        omega
    · -- nothing moved: neither `p` nor the rest
      rw [List.filter_cons] at hzero
      split at hzero
      · simp at hzero
      · rename_i hnot
        rw [hsame' hzero, hsame₁ (by rw [hmoves]; simpa using hnot)]
    · rw [hmoney']
      by_cases hq : q ∈ keys
      · rw [if_pos hq, if_pos (List.mem_cons_of_mem p hq)]
      · rw [if_neg hq, hmoney₁]
        by_cases hqp : q = p
        · subst hqp
          rw [if_pos rfl, if_pos List.mem_cons_self, sendAllReading_congr hp_read, hfrozen]
        · rw [if_neg hqp, if_neg (by simp [hqp, hq])]

/-! ## The keys the walk visits -/

theorem ne_zero_of_mem_walk {t : CMPTally} {p : PropertyId}
    (hp : p ∈ t.mpToken.keys.takeWhile (· ≠ 0)) : p ≠ 0 := by
  simpa using List.mem_takeWhile_imp hp

theorem nodup_walk (t : CMPTally) : (t.mpToken.keys.takeWhile (· ≠ 0)).Nodup :=
  (List.takeWhile_sublist _).nodup t.mpToken.nodup_keys

/-- A key of the tally is a property with a record. -/
theorem mem_keys_of_find? {t : CMPTally} {q : PropertyId} {v : BalanceRecord}
    (h : t.mpToken.find? q = some v) : q ∈ t.mpToken.keys :=
  List.mem_map_of_mem (OrdMap.mem_of_find? h)

/-- **Without a record of property `0` the walk visits every key.** -/
theorem walk_eq_keys {t : CMPTally} (h0 : t.mpToken.find? 0 = none) :
    t.mpToken.keys.takeWhile (· ≠ 0) = t.mpToken.keys := by
  rw [List.takeWhile_eq_self_iff]
  intro x hx
  have hx0 : x ≠ 0 := by
    rintro rfl
    obtain ⟨e, he, he1⟩ := List.mem_map.1 hx
    rw [← he1, OrdMap.find?_of_mem he] at h0
    cases h0
  simpa using hx0

/-- **A walk that visits anything visits every key**: the keys increase, so a record of property
`0` would come first and stop the walk at once. -/
theorem find?_zero_of_walk_ne_nil {t : CMPTally} (h : t.mpToken.keys.takeWhile (· ≠ 0) ≠ []) :
    t.mpToken.find? 0 = none := by
  have hsorted : t.mpToken.keys.Pairwise (· < ·) := List.pairwise_map.2 t.mpToken.sorted
  cases hk : t.mpToken.keys with
  | nil =>
    rw [hk] at h
    exact absurd rfl h
  | cons x xs =>
    rw [hk, List.takeWhile_cons] at h
    have hx : x ≠ 0 := by
      intro hx0
      simp [hx0] at h
    rw [hk, List.pairwise_cons] at hsorted
    cases hf : t.mpToken.find? 0 with
    | none => rfl
    | some v =>
      have hmem := mem_keys_of_find? hf
      rw [hk] at hmem
      rcases List.mem_cons.1 hmem with h0 | h0
      · exact absurd h0.symm hx
      · exact absurd (hsorted.1 0 h0) (Nat.not_lt_zero x)

/-- A property without a record in an address's tally reads as zero. -/
theorem money_of_not_mem_keys {m : TallyMap} {a : Address} {t : CMPTally} (ht : m.find? a = some t)
    {q : PropertyId} (hq : q ∉ t.mpToken.keys) (k : TallyType) : m.money a q k = 0 := by
  have hnone : t.mpToken.find? q = none := by
    cases hf : t.mpToken.find? q with
    | none => rfl
    | some v => exact absurd (mem_keys_of_find? hf) hq
  rw [TallyMap.money, OrdMap.findD_eq, ht, Option.getD_some, CMPTally.getMoney_eq, hnone,
    Option.getD_none, BalanceRecord.get_default]

/-- A property the sender has no record of does not move. -/
theorem sendAllMoves_of_not_mem_keys {m : TallyMap} {frozen : FrozenSet} {sender receiver : Address}
    {t : CMPTally} (ht : m.find? sender = some t) {q : PropertyId} (hq : q ∉ t.mpToken.keys) :
    sendAllMoves m frozen sender receiver q = false := by
  simp [sendAllMoves, money_of_not_mem_keys ht hq]

/-! ## The branches of a send-all -/

/-- Outside the ecosystem WHC a send-all is refused with `PKT_ERROR_SP-21`. -/
theorem logicMathSendAll_of_not_whc {tx : CMPTransaction} {s : OmniState}
    (h : tx.ecosystem.toNat ≠ omniPropertyWhc) :
    logicMathSendAll tx s = .ok (pktErrorSp - 21, s) := by
  simp [logicMathSendAll, isTransactionTypeAllowed, Ne.symm h]

/-- A sender without a tally is refused with `PKT_ERROR_SEND_ALL-54`. -/
theorem logicMathSendAll_of_no_tally {tx : CMPTransaction} {s : OmniState}
    (heco : tx.ecosystem.toNat = omniPropertyWhc) (h : s.tally.find? tx.sender = none) :
    logicMathSendAll tx s = .ok (pktErrorSendAll - 54, s) := by
  simp [logicMathSendAll, isTransactionTypeAllowed, heco, h]

/-- Otherwise the send-all is the walk over the sender's keys, judged by its count. -/
theorem logicMathSendAll_eq_walk {tx : CMPTransaction} {s : OmniState} {t : CMPTally}
    (heco : tx.ecosystem.toNat = omniPropertyWhc) (ht : s.tally.find? tx.sender = some t) :
    logicMathSendAll tx s =
      ((t.mpToken.keys.takeWhile (· ≠ 0)).foldlM
          (sendAllStep tx.sender tx.receiverOrSender omniPropertyWhc) (s, 0) >>= fun r =>
        if r.2 = 0 then pure (pktErrorSendAll - 55, r.1) else pure (0, r.1)) := by
  simp [logicMathSendAll, isTransactionTypeAllowed, heco, ht]

/-! ## The walk of a send-all -/

/-- **The walk of a send-all** over the sender's tally `t`: nothing but the tally changes, and a
walk that counts nothing leaves the state alone. A walk that counts something saw a first key that
is not `0`, so `t` has no record of property `0`; and without one the walk visits every key, so it
counts nothing exactly when no property moves, and every reading ends up as `sendAllReading`
says. -/
theorem sendAllWalk_ok {sender receiver : Address} {s s' : OmniState} {t : CMPTally} {n : Nat}
    (ht : s.tally.find? sender = some t)
    (h : (t.mpToken.keys.takeWhile (· ≠ 0)).foldlM (sendAllStep sender receiver omniPropertyWhc)
      (s, 0) = .ok (s', n)) :
    s'.stores = s.stores ∧ s'.feeCache = s.feeCache ∧ (n = 0 → s' = s) ∧
      (n ≠ 0 → t.mpToken.find? 0 = none) ∧
      (t.mpToken.find? 0 = none →
        (n = 0 ↔ ∀ p, sendAllMoves s.tally s.frozen sender receiver p = false) ∧
        ∀ a p k, s'.tally.money a p k = sendAllReading s.tally s.frozen sender receiver a p k) := by
  obtain ⟨hst, hfee, hn, hsame, hmoney⟩ := foldlM_sendAllStep _ s 0 s' n
    (fun _ hp => ne_zero_of_mem_walk hp) (nodup_walk t) rfl (fun _ _ _ _ => rfl) h
  rw [zero_add] at hn
  -- an empty walk counts nothing
  have hvisited : n ≠ 0 → t.mpToken.keys.takeWhile (· ≠ 0) ≠ [] := by
    intro hn0 hnil
    rw [hnil, List.foldlM_nil, Except.pure_eq_ok, Prod.mk.injEq] at h
    exact hn0 h.2.symm
  refine ⟨hst, hfee, fun hzero => hsame (hn ▸ hzero),
    fun hn0 => find?_zero_of_walk_ne_nil (hvisited hn0), fun h0 => ?_⟩
  rw [walk_eq_keys h0] at hn hmoney
  -- a property without a record does not move
  have hout : ∀ p, p ∉ t.mpToken.keys → sendAllMoves s.tally s.frozen sender receiver p = false :=
    fun _ hp => sendAllMoves_of_not_mem_keys ht hp
  refine ⟨?_, fun a p k => ?_⟩
  · rw [hn, List.length_eq_zero_iff, List.filter_eq_nil_iff]
    constructor
    · intro hall p
      by_cases hp : p ∈ t.mpToken.keys
      · simpa using hall p hp
      · exact hout p hp
    · intro hall p _
      simp [hall p]
  · rw [hmoney]
    split
    · rfl
    · rename_i hp
      rw [sendAllReading_of_not_moves (hout p hp)]

/-! ## What a send-all does -/

/-- **What a send-all does.** When `logicMath_SendAll` returns `0`, the stores and the fee cache
are as before, and every reading of the tally is what `sendAllReading` says: each property that
`sendAllMoves` picks has the sender's whole balance moved to the receiver, and nothing else
changed. When it returns `PKT_ERROR_SEND_ALL-55`, the state is untouched. And in the ecosystem
WHC, for a sender with a tally without a record of property `0`, it returns
`PKT_ERROR_SEND_ALL-55` exactly when no property moves. -/
theorem logicMathSendAll_exact {tx : CMPTransaction} {s s' : OmniState} {code : Int}
    (h : logicMathSendAll tx s = .ok (code, s')) :
    (code = 0 → s'.stores = s.stores ∧ s'.feeCache = s.feeCache ∧
      ∀ a p k, s'.tally.money a p k =
        sendAllReading s.tally s.frozen tx.sender tx.receiverOrSender a p k) ∧
    (code = pktErrorSendAll - 55 → s' = s) ∧
    (tx.ecosystem.toNat = omniPropertyWhc → ∀ t, s.tally.find? tx.sender = some t →
      t.mpToken.find? 0 = none →
      (code = pktErrorSendAll - 55 ↔
        ∀ p, sendAllMoves s.tally s.frozen tx.sender tx.receiverOrSender p = false)) := by
  by_cases heco : tx.ecosystem.toNat = omniPropertyWhc
  swap
  · -- refused before anything is read
    rw [logicMathSendAll_of_not_whc heco, Except.ok.injEq, Prod.mk.injEq] at h
    obtain ⟨rfl, rfl⟩ := h
    exact ⟨fun h => absurd h (by decide), fun _ => rfl, fun h => absurd h heco⟩
  cases ht : s.tally.find? tx.sender with
  | none =>
    rw [logicMathSendAll_of_no_tally heco ht, Except.ok.injEq, Prod.mk.injEq] at h
    obtain ⟨rfl, rfl⟩ := h
    exact ⟨fun h => absurd h (by decide), fun _ => rfl, fun _ _ ht' => absurd ht' (by simp)⟩
  | some t =>
    rw [logicMathSendAll_eq_walk heco ht, Except.bind_eq_ok] at h
    obtain ⟨⟨s₁, n⟩, hwalk, hcode⟩ := h
    obtain ⟨hst, hfee, hsame, hzero, hfull⟩ := sendAllWalk_ok ht hwalk
    -- the walk's own tally is the one the statement is about
    have htally : ∀ t', some t = some t' → t' = t := fun _ h => (Option.some.inj h).symm
    by_cases hn : n = 0
    · -- nothing counted: `PKT_ERROR_SEND_ALL-55` and the state as it was
      rw [if_pos hn, Except.pure_eq_ok, Prod.mk.injEq] at hcode
      obtain ⟨rfl, rfl⟩ := hcode
      refine ⟨fun h => absurd h (by decide), fun _ => hsame hn, fun _ t' ht' h0 => ?_⟩
      rw [htally t' ht'] at h0
      exact ⟨fun _ => (hfull h0).1.1 hn, fun _ => rfl⟩
    · -- something counted: `0`, and the walk saw every key
      rw [if_neg hn, Except.pure_eq_ok, Prod.mk.injEq] at hcode
      obtain ⟨rfl, rfl⟩ := hcode
      refine ⟨fun _ => ⟨hst, hfee, (hfull (hzero hn)).2⟩, fun h => absurd h.symm (by decide),
        fun _ t' ht' h0 => ?_⟩
      rw [htally t' ht'] at h0
      exact ⟨fun h => absurd h.symm (by decide), fun hall => absurd ((hfull h0).1.2 hall) hn⟩

/-- A send-all (type 4) of the ecosystem WHC from `alice` to `bob`. -/
def aliceSendAll : CMPTransaction :=
  { txid := 1, block := 0, blockHash := none, blockTime := 0, sender := "alice", receiver := "bob",
    type := 4, version := 0, ecosystem := 1 }

/-- A node on which `alice` holds ten units of property `3`. -/
def aliceHolds (cfg : NodeConfig) : OmniState :=
  { OmniState.fresh cfg with tally := OrdMap.empty.insert "alice" ⟨OrdMap.empty.insert 3 { balance := 10 }⟩ }

/-- `alice`'s ten units of property `3` go to `bob`. -/
theorem aliceSendAll_exact : ∃ s',
    logicMathSendAll aliceSendAll (aliceHolds ⟨.regTest, true⟩) = .ok (0, s') ∧
      s'.tally.money "alice" 3 .balance = 0 ∧ s'.tally.money "bob" 3 .balance = 10 := by
  obtain ⟨s', hs'⟩ : ∃ s', logicMathSendAll aliceSendAll (aliceHolds ⟨.regTest, true⟩) =
      .ok (0, s') := ⟨_, rfl⟩
  obtain ⟨-, -, hread⟩ := (logicMathSendAll_exact hs').1 rfl
  exact ⟨s', hs', by rw [hread]; decide, by rw [hread]; decide⟩

/-- **A record of property `0` stops the walk.** `CMPTally::next` ends the walk at the first key
`0`, and a record of property `0` is the smallest key: for a sender whose tally has one, nothing is
visited, and a send-all of the ecosystem WHC is refused with `PKT_ERROR_SEND_ALL-55`, leaving the
state as it was, whatever the sender's other balances. -/
theorem sendAll_zero_record_stops_walk {tx : CMPTransaction} {s : OmniState} {t : CMPTally}
    (heco : tx.ecosystem.toNat = omniPropertyWhc) (ht : s.tally.find? tx.sender = some t)
    (hzero : (t.mpToken.find? 0).isSome) :
    logicMathSendAll tx s = .ok (pktErrorSendAll - 55, s) := by
  -- a walk that visits anything started below the record of property `0`
  have hwalk : t.mpToken.keys.takeWhile (· ≠ 0) = [] := by
    by_contra hne
    rw [find?_zero_of_walk_ne_nil hne] at hzero
    cases hzero
  rw [logicMathSendAll_eq_walk heco ht, hwalk, List.foldlM_nil]
  rfl

/-- A node on which `alice` holds a unit of property `0` beside ten of property `3`. -/
def aliceHoldsZero (cfg : NodeConfig) : OmniState :=
  { OmniState.fresh cfg with
    tally := OrdMap.empty.insert "alice"
      ⟨(OrdMap.empty.insert 0 { balance := 1 }).insert 3 { balance := 10 }⟩ }

/-- `alice`'s record of property `0` stops her send-all, although her ten units of property `3`
would move. -/
theorem aliceHoldsZero_sendAll_refused :
    logicMathSendAll aliceSendAll (aliceHoldsZero { network := .main }) =
        .ok (pktErrorSendAll - 55, aliceHoldsZero { network := .main }) ∧
      sendAllMoves (aliceHoldsZero { network := .main }).tally
        (aliceHoldsZero { network := .main }).frozen "alice" "bob" 3 = true :=
  ⟨sendAll_zero_record_stops_walk rfl rfl rfl, by simp only [aliceHoldsZero, OmniState.fresh]; decide⟩

/-- **A sender with nothing is not refused with `PKT_ERROR_SEND_ALL-55`.** On a fresh node `alice`
has no tally, so no property moves; the send-all is refused with `PKT_ERROR_SEND_ALL-54`. -/
theorem sendAll_without_tally_refused (cfg : NodeConfig) :
    logicMathSendAll aliceSendAll (OmniState.fresh cfg) =
        .ok (pktErrorSendAll - 54, OmniState.fresh cfg) ∧
      ∀ p, sendAllMoves (OmniState.fresh cfg).tally (OmniState.fresh cfg).frozen "alice" "bob" p =
        false := by
  refine ⟨logicMathSendAll_of_no_tally rfl rfl, fun p => ?_⟩
  simp [sendAllMoves, TallyMap.money, OmniState.fresh]

/-- The same on a fresh node of the main network. -/
theorem sendAll_without_tally_refused_on_main :
    logicMathSendAll aliceSendAll (OmniState.fresh { network := .main }) =
        .ok (pktErrorSendAll - 54, OmniState.fresh { network := .main }) ∧
      ∀ p, sendAllMoves (OmniState.fresh { network := .main }).tally
        (OmniState.fresh { network := .main }).frozen "alice" "bob" p = false :=
  sendAll_without_tally_refused _

end CMPTransaction

end WormholeCore
