/-
# `WormholeCore.Lib.OrdMap` — a finite map kept as a key-sorted association list.

The ordered containers of a C++ program (`std::map`, `std::set`, a LevelDB key range) are modelled
here by ONE structure: a list of `(key, value)` entries whose keys are STRICTLY increasing. The
invariant is a field, so a map with a repeated or misplaced key cannot be built, and the
representation is canonical: two maps that answer every lookup alike are EQUAL as Lean values
(`ext_find?`), which is what `operator==` on two `std::map`s compares.

Nothing in this module names the program being verified: keys are any linear order, values any
type. It provides

* lookup (`find?`, `findD`), insertion-or-replacement (`insert`), removal (`erase`), iteration
  (`entries`, `keys`);
* the read-after-write lemmas (`find?_insert`, `find?_erase`) that every proof about a store goes
  through, tagged `@[simp]`;
* a weighted sum over the entries and how one `insert` or `erase` moves it (`sumBy_insert`,
  `sumBy_erase`) — the engine of every conservation argument — and the bound of one entry by a
  sum of non-negative weights (`le_sumBy`).
-/
import Mathlib

namespace WormholeCore.Lib

/-- **`OrdMap κ ν`** — entries with strictly increasing keys. -/
structure OrdMap (κ : Type) [LinearOrder κ] (ν : Type) where
  entries : List (κ × ν)
  sorted : entries.Pairwise (fun a b => a.1 < b.1)
deriving DecidableEq

namespace OrdMap

variable {κ ν : Type} [LinearOrder κ]

/-! ## Operations on the raw entry list -/

/-- First value stored under `k`. -/
def findL (k : κ) : List (κ × ν) → Option ν
  | [] => none
  | e :: t => if e.1 = k then some e.2 else findL k t

/-- Put `(k, v)` at its sorted place, replacing the entry under `k` if there is one. -/
def insertL (k : κ) (v : ν) : List (κ × ν) → List (κ × ν)
  | [] => [(k, v)]
  | e :: t =>
    if k < e.1 then (k, v) :: e :: t
    else if k = e.1 then (k, v) :: t
    else e :: insertL k v t

theorem mem_insertL {k : κ} {v : ν} :
    ∀ {l : List (κ × ν)} {e : κ × ν}, e ∈ insertL k v l → e = (k, v) ∨ e ∈ l
  | [], e, h => by simpa [insertL] using h
  | d :: t, e, h => by
    simp only [insertL] at h
    split_ifs at h with h1 h2
    · simpa using h
    · rcases List.mem_cons.mp h with rfl | h
      · exact .inl rfl
      · exact .inr (List.mem_cons_of_mem d h)
    · rcases List.mem_cons.mp h with rfl | h
      · exact .inr (List.mem_cons_self)
      · rcases mem_insertL h with h | h
        · exact .inl h
        · exact .inr (List.mem_cons_of_mem d h)

theorem insertL_sorted (k : κ) (v : ν) :
    ∀ {l : List (κ × ν)}, l.Pairwise (fun a b => a.1 < b.1) →
      (insertL k v l).Pairwise (fun a b => a.1 < b.1)
  | [], _ => by simp [insertL]
  | d :: t, hl => by
    have ⟨hd, ht⟩ := List.pairwise_cons.mp hl
    simp only [insertL]
    split_ifs with h1 h2
    · refine List.pairwise_cons.mpr ⟨?_, hl⟩
      intro e he
      rcases List.mem_cons.mp he with rfl | he
      · exact h1
      · exact lt_trans h1 (hd e he)
    · subst h2
      exact List.pairwise_cons.mpr ⟨hd, ht⟩
    · -- `k` belongs strictly after the head `d`
      have hdk : d.1 < k := lt_of_le_of_ne (not_lt.mp h1) (Ne.symm h2)
      refine List.pairwise_cons.mpr ⟨?_, insertL_sorted k v ht⟩
      intro e he
      rcases mem_insertL he with rfl | he
      · exact hdk
      · exact hd e he

theorem findL_insertL (k k' : κ) (v : ν) :
    ∀ l : List (κ × ν), findL k' (insertL k v l) = if k = k' then some v else findL k' l
  | [] => by simp [insertL, findL]
  | d :: t => by
    have ih := findL_insertL k k' v t
    by_cases h1 : k < d.1
    · -- the new entry becomes the head
      by_cases hk : k = k'
      · subst hk; simp [insertL, h1, findL]
      · simp [insertL, h1, findL, hk]
    · by_cases h2 : k = d.1
      · -- the head is overwritten
        subst h2
        by_cases hk : d.1 = k' <;> simp [insertL, findL, hk]
      · by_cases hd : d.1 = k'
        · have hk : k ≠ k' := fun h => h2 (h.trans hd.symm)
          have h1' : ¬k < k' := hd ▸ h1
          simp [insertL, h1', findL, hd, hk]
        · simp [insertL, h1, h2, findL, hd, ih]

theorem findL_filter (k k' : κ) :
    ∀ l : List (κ × ν),
      findL k' (l.filter (fun e => !decide (e.1 = k))) = if k = k' then none else findL k' l
  | [] => by simp [findL]
  | d :: t => by
    have ih := findL_filter k k' t
    by_cases hd : d.1 = k
    · -- the erased entry itself
      rw [List.filter_cons_of_neg (by simpa using hd), ih]
      by_cases hk : k = k'
      · simp [hk]
      · have hdk : d.1 ≠ k' := hd ▸ hk
        simp [findL, hk, hdk]
    · rw [List.filter_cons_of_pos (by simpa using hd)]
      by_cases hk : k = k'
      · subst hk
        simp [findL, hd, ih]
      · by_cases hdk : d.1 = k' <;> simp [findL, hk, hdk, ih]

/-- Below the head key of a sorted list nothing is stored. -/
theorem findL_eq_none_of_lt {k : κ} :
    ∀ {l : List (κ × ν)}, l.Pairwise (fun a b => a.1 < b.1) → (∀ e ∈ l, k < e.1) → findL k l = none
  | [], _, _ => rfl
  | d :: t, hl, hk => by
    have hne : d.1 ≠ k := ne_of_gt (hk d List.mem_cons_self)
    simp only [findL, hne, if_false]
    exact findL_eq_none_of_lt (List.pairwise_cons.mp hl).2
      (fun e he => hk e (List.mem_cons_of_mem d he))

theorem findL_mem {k : κ} {v : ν} : ∀ {l : List (κ × ν)}, findL k l = some v → (k, v) ∈ l
  | [], h => by simp [findL] at h
  | d :: t, h => by
    simp only [findL] at h
    split_ifs at h with hd
    · cases h; subst hd; exact List.mem_cons_self
    · exact List.mem_cons_of_mem d (findL_mem h)

/-- In a sorted list every stored entry is the one a lookup finds. -/
theorem findL_of_mem {k : κ} {v : ν} :
    ∀ {l : List (κ × ν)}, l.Pairwise (fun a b => a.1 < b.1) → (k, v) ∈ l → findL k l = some v
  | [], _, h => absurd h List.not_mem_nil
  | d :: t, hl, h => by
    obtain ⟨hd, ht⟩ := List.pairwise_cons.mp hl
    rcases List.mem_cons.mp h with rfl | h
    · simp [findL]
    · have hne : d.1 ≠ k := ne_of_lt (hd (k, v) h)
      simp only [findL, hne, if_false]
      exact findL_of_mem ht h

/-- **Canonicity on raw lists.** Two sorted entry lists with the same lookups are equal. -/
theorem eq_of_findL :
    ∀ {l₁ l₂ : List (κ × ν)}, l₁.Pairwise (fun a b => a.1 < b.1) →
      l₂.Pairwise (fun a b => a.1 < b.1) → (∀ k, findL k l₁ = findL k l₂) → l₁ = l₂
  | [], [], _, _, _ => rfl
  | [], d :: t, _, _, h => by simpa [findL] using (h d.1).symm
  | d :: t, [], _, _, h => by simpa [findL] using h d.1
  | d₁ :: t₁, d₂ :: t₂, h₁, h₂, h => by
    have ⟨hd₁, ht₁⟩ := List.pairwise_cons.mp h₁
    have ⟨hd₂, ht₂⟩ := List.pairwise_cons.mp h₂
    -- the head keys agree: a smaller head key would be missing from the other list
    have hkey : d₁.1 = d₂.1 := by
      rcases lt_trichotomy d₁.1 d₂.1 with hlt | heq | hgt
      · have := h d₁.1
        rw [findL_eq_none_of_lt h₂ (fun e he => by
          rcases List.mem_cons.mp he with rfl | he
          · exact hlt
          · exact lt_trans hlt (hd₂ e he))] at this
        simp [findL] at this
      · exact heq
      · have := h d₂.1
        rw [findL_eq_none_of_lt h₁ (fun e he => by
          rcases List.mem_cons.mp he with rfl | he
          · exact hgt
          · exact lt_trans hgt (hd₁ e he))] at this
        simp [findL] at this
    have hval : d₁.2 = d₂.2 := by simpa [findL, hkey] using h d₂.1
    have htail : ∀ k, findL k t₁ = findL k t₂ := by
      intro k
      by_cases hk : d₁.1 = k
      · rw [findL_eq_none_of_lt ht₁ (fun e he => hk ▸ hd₁ e he),
          findL_eq_none_of_lt ht₂ (fun e he => (hkey ▸ hk) ▸ hd₂ e he)]
      · have hk₂ : d₂.1 ≠ k := hkey ▸ hk
        simpa [findL, hk, hk₂] using h k
    rw [Prod.ext hkey hval, eq_of_findL ht₁ ht₂ htail]

/-! ## The map interface -/

/-- The empty map. -/
def empty : OrdMap κ ν := ⟨[], List.Pairwise.nil⟩

instance : Inhabited (OrdMap κ ν) := ⟨empty⟩

/-- Lookup (`std::map::find`). -/
def find? (m : OrdMap κ ν) (k : κ) : Option ν := findL k m.entries

/-- Lookup with a default for absent keys. -/
def findD (m : OrdMap κ ν) (k : κ) (d : ν) : ν := (m.find? k).getD d

/-- Whether a key is present (`std::map::count`). -/
def contains (m : OrdMap κ ν) (k : κ) : Bool := (m.find? k).isSome

/-- Insert, or overwrite the value under an existing key (`m[k] = v`). -/
def insert (m : OrdMap κ ν) (k : κ) (v : ν) : OrdMap κ ν :=
  ⟨insertL k v m.entries, insertL_sorted k v m.sorted⟩

/-- Remove the entry under `k`, if any (`std::map::erase`). -/
def erase (m : OrdMap κ ν) (k : κ) : OrdMap κ ν :=
  ⟨m.entries.filter (fun e => !decide (e.1 = k)), m.sorted.filter _⟩

/-- The keys in increasing order (the iteration order of a `std::map`). -/
def keys (m : OrdMap κ ν) : List κ := m.entries.map Prod.fst

/-- The number of entries. -/
def size (m : OrdMap κ ν) : Nat := m.entries.length

/-- The keys are distinct. -/
theorem nodup_keys (m : OrdMap κ ν) : (m.entries.map Prod.fst).Nodup :=
  (List.pairwise_map.2 m.sorted).imp ne_of_lt

@[simp] theorem find?_empty (k : κ) : (empty : OrdMap κ ν).find? k = none := rfl

@[simp] theorem entries_empty : (empty : OrdMap κ ν).entries = [] := rfl

@[simp] theorem entries_empty_insert (k : κ) (v : ν) : (empty.insert k v).entries = [(k, v)] := rfl

@[simp] theorem find?_insert (m : OrdMap κ ν) (k k' : κ) (v : ν) :
    (m.insert k v).find? k' = if k = k' then some v else m.find? k' :=
  findL_insertL k k' v m.entries

@[simp] theorem find?_erase (m : OrdMap κ ν) (k k' : κ) :
    (m.erase k).find? k' = if k = k' then none else m.find? k' :=
  findL_filter k k' m.entries

theorem find?_insert_self (m : OrdMap κ ν) (k : κ) (v : ν) : (m.insert k v).find? k = some v := by
  simp

theorem find?_insert_of_ne (m : OrdMap κ ν) {k k' : κ} (v : ν) (h : k ≠ k') :
    (m.insert k v).find? k' = m.find? k' := by
  simp [h]

theorem findD_eq (m : OrdMap κ ν) (k : κ) (d : ν) : m.findD k d = (m.find? k).getD d := rfl

@[simp] theorem findD_insert (m : OrdMap κ ν) (k k' : κ) (v d : ν) :
    (m.insert k v).findD k' d = if k = k' then v else m.findD k' d := by
  by_cases h : k = k' <;> simp [findD_eq, h]

@[simp] theorem findD_empty (k : κ) (d : ν) : (empty : OrdMap κ ν).findD k d = d := rfl

@[simp] theorem contains_eq (m : OrdMap κ ν) (k : κ) : m.contains k = (m.find? k).isSome := rfl

theorem mem_of_find? {m : OrdMap κ ν} {k : κ} {v : ν} (h : m.find? k = some v) :
    (k, v) ∈ m.entries :=
  findL_mem h

theorem find?_of_mem {m : OrdMap κ ν} {k : κ} {v : ν} (h : (k, v) ∈ m.entries) :
    m.find? k = some v :=
  findL_of_mem m.sorted h

/-- **Canonicity.** Maps that answer every lookup alike are equal. -/
theorem ext_find? {m₁ m₂ : OrdMap κ ν} (h : ∀ k, m₁.find? k = m₂.find? k) : m₁ = m₂ := by
  cases m₁ with
  | mk e₁ s₁ =>
    cases m₂ with
    | mk e₂ s₂ =>
      have he : e₁ = e₂ := eq_of_findL s₁ s₂ h
      subst he
      rfl

/-- Erasing the entry at a known place of the entries leaves the others in order. -/
theorem erase_entries_of_eq {m : OrdMap κ ν} {l₁ l₂ : List (κ × ν)} {k : κ} {v : ν}
    (h : m.entries = l₁ ++ (k, v) :: l₂) : (m.erase k).entries = l₁ ++ l₂ := by
  have hsorted := m.sorted
  rw [h, List.pairwise_append, List.pairwise_cons] at hsorted
  obtain ⟨-, ⟨hk, -⟩, hbefore⟩ := hsorted
  -- the keys before are below `k`, the keys after above it
  have hkeep : ∀ l : List (κ × ν), (∀ e ∈ l, e.1 ≠ k) → l.filter (fun e => !decide (e.1 = k)) = l :=
    fun l hl => List.filter_eq_self.2 fun e he => by simp [hl e he]
  show (m.entries.filter _) = _
  rw [h, List.filter_append, List.filter_cons, if_neg (by simp),
    hkeep l₁ fun e he => ne_of_lt (hbefore e he (k, v) List.mem_cons_self),
    hkeep l₂ fun e he => ne_of_gt (hk e he)]

/-- A key that is none of the list's keys finds nothing. -/
theorem findL_eq_none_of_not_mem {k : κ} {l : List (κ × ν)} (h : k ∉ l.map Prod.fst) :
    findL k l = none := by
  cases hf : findL k l with
  | none => rfl
  | some v => exact absurd (List.mem_map_of_mem (f := Prod.fst) (findL_mem hf)) h

/-- **Entries inserted one after another**, with distinct keys: a key among them reads its entry,
any other key what it read before. -/
theorem find?_foldl_insert {l : List (κ × ν)} (hl : (l.map Prod.fst).Nodup) (acc : OrdMap κ ν)
    (k : κ) :
    (l.foldl (fun acc e => acc.insert e.1 e.2) acc).find? k = (findL k l).or (acc.find? k) := by
  induction l generalizing acc with
  | nil => rfl
  | cons e l ih =>
    rw [List.map_cons, List.nodup_cons] at hl
    rw [List.foldl_cons, ih hl.2 _, find?_insert, findL]
    by_cases he : e.1 = k
    · -- the later entries have other keys
      have hnone : findL k l = none := findL_eq_none_of_not_mem (he ▸ hl.1)
      rw [if_pos he, if_pos he, hnone]
      rfl
    · rw [if_neg he, if_neg he]

/-- **A map rebuilt from its entries** is the map. -/
theorem foldl_insert_entries (m : OrdMap κ ν) :
    m.entries.foldl (fun acc e => acc.insert e.1 e.2) empty = m :=
  ext_find? fun k => by rw [find?_foldl_insert m.nodup_keys, find?_empty, Option.or_none]; rfl

/-- **A set rebuilt from its keys** is the set. -/
theorem foldl_insert_keys (m : OrdMap κ Unit) :
    m.keys.foldl (fun acc k => acc.insert k ()) empty = m := by
  rw [keys, List.foldl_map]
  exact foldl_insert_entries m

/-! ## Keeping the entries whose keys pass a test -/

/-- The entries whose keys pass `p`, in the same order. -/
def filterKeys (m : OrdMap κ ν) (p : κ → Bool) : OrdMap κ ν :=
  ⟨m.entries.filter (fun e => p e.1), m.sorted.filter _⟩

theorem findL_filterKeys (p : κ → Bool) (k : κ) :
    ∀ l : List (κ × ν), findL k (l.filter (fun e => p e.1)) = if p k then findL k l else none
  | [] => by simp [findL]
  | d :: t => by
    have ih := findL_filterKeys p k t
    by_cases hd : d.1 = k
    · subst hd
      by_cases hp : p d.1 <;> simp [findL, hp, ih]
    · by_cases hp : p d.1 <;> simp [findL, hp, hd, ih]

@[simp] theorem find?_filterKeys (m : OrdMap κ ν) (p : κ → Bool) (k : κ) :
    (m.filterKeys p).find? k = if p k then m.find? k else none :=
  findL_filterKeys p k m.entries

/-! ## Weighted sums over the entries -/

/-- `Σ f k v` over the entries. -/
def sumBy (f : κ → ν → Int) (m : OrdMap κ ν) : Int := (m.entries.map (fun e => f e.1 e.2)).sum

theorem sumL_insertL (f : κ → ν → Int) (k : κ) (v : ν) :
    ∀ {l : List (κ × ν)}, l.Pairwise (fun a b => a.1 < b.1) →
      ((insertL k v l).map (fun e => f e.1 e.2)).sum =
        (l.map (fun e => f e.1 e.2)).sum - ((findL k l).map (f k)).getD 0 + f k v
  | [], _ => by simp [insertL, findL]
  | d :: t, hl => by
    have ⟨hd, ht⟩ := List.pairwise_cons.mp hl
    simp only [insertL]
    split_ifs with h1 h2
    · -- `k` is below every key: nothing was stored under it
      have hnone : findL k (d :: t) = none := findL_eq_none_of_lt hl (fun e he => by
        rcases List.mem_cons.mp he with rfl | he
        · exact h1
        · exact lt_trans h1 (hd e he))
      simp only [hnone, List.map_cons, List.sum_cons, Option.map_none, Option.getD_none]
      omega
    · subst h2
      simp only [findL, if_true, List.map_cons, List.sum_cons, Option.map_some, Option.getD_some]
      omega
    · have hne : d.1 ≠ k := Ne.symm h2
      have ih := sumL_insertL f k v ht
      simp only [findL, hne, if_false, List.map_cons, List.sum_cons, ih]
      omega

/-- **How one write moves a sum.** Inserting `v` under `k` replaces the weight of the old entry
(if any) by the weight of the new one. -/
theorem sumBy_insert (f : κ → ν → Int) (m : OrdMap κ ν) (k : κ) (v : ν) :
    sumBy f (m.insert k v) = sumBy f m - ((m.find? k).map (f k)).getD 0 + f k v :=
  sumL_insertL f k v m.sorted

/-- **How one removal moves a sum**: the weight of the removed entry (if any) goes. -/
theorem sumBy_erase (f : κ → ν → Int) (m : OrdMap κ ν) (k : κ) :
    sumBy f (m.erase k) = sumBy f m - ((m.find? k).map (f k)).getD 0 := by
  cases hk : m.find? k with
  | none =>
    -- no entry has the key: the removal keeps every entry
    have hkeep : m.entries.filter (fun e => !decide (e.1 = k)) = m.entries :=
      List.filter_eq_self.2 fun e he => by
        have hne : e.1 ≠ k := fun heq => by
          rw [← heq, find?_of_mem he] at hk
          cases hk
        simp [hne]
    simp only [sumBy, erase, hkeep, Option.map_none, Option.getD_none, Int.sub_zero]
  | some v =>
    obtain ⟨l₁, l₂, hl⟩ := List.append_of_mem (mem_of_find? hk)
    have hsum := congrArg (fun l => (l.map (fun e => f e.1 e.2)).sum) hl
    simp only [List.map_append, List.map_cons, List.sum_append, List.sum_cons] at hsum
    simp only [sumBy, erase_entries_of_eq hl, List.map_append, List.sum_append, Option.map_some,
      Option.getD_some]
    omega

theorem sumBy_nonneg {f : κ → ν → Int} {m : OrdMap κ ν} (hf : ∀ e ∈ m.entries, 0 ≤ f e.1 e.2) :
    0 ≤ sumBy f m := by
  apply List.sum_nonneg
  intro x hx
  obtain ⟨e, he, rfl⟩ := List.mem_map.1 hx
  exact hf e he

/-- One entry of non-negative weights weighs at most the sum. -/
theorem le_sumBy {f : κ → ν → Int} {m : OrdMap κ ν} (hf : ∀ e ∈ m.entries, 0 ≤ f e.1 e.2)
    {k : κ} {v : ν} (h : (k, v) ∈ m.entries) : f k v ≤ sumBy f m := by
  have hnonneg : ∀ x ∈ m.entries.map (fun e => f e.1 e.2), 0 ≤ x := by
    intro x hx
    obtain ⟨e, he, rfl⟩ := List.mem_map.1 hx
    exact hf e he
  exact List.single_le_sum hnonneg (f k v) (List.mem_map.2 ⟨(k, v), h, rfl⟩)

end OrdMap

end WormholeCore.Lib
