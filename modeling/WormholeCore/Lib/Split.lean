/-
# `WormholeCore.Lib.Split` — splitting a sequence at separators, with runs of separators merged.

A split with token compression cuts a sequence at every element `sep` accepts, and treats a run of
adjacent separators as ONE separator; a separator at the start or at the end still delimits an
empty piece. `TokenCompress split` says that a function `split sep xs` behaves so, by three laws:

* `of_forall_not` — a stretch without separators is one piece (so the empty input is `[[]]`);
* `append_sep` — a separator ends the piece before it;
* `sep_sep` — two adjacent separators delimit as one.

On `"a,,b"`, `",a"`, `"a,"` and `""` these give `["a", "b"]`, `["", "a"]`, `["a", ""]` and
`[""]`.

The lemmas compute a split of an input built by concatenation (`TokenCompress.sepBy`,
`TokenCompress.intercalate`, `TokenCompress.append_flatMap`) from the laws alone, which is how a
line that a writer assembled from fields is read back by any such split.

`walk` is one function with the three laws (`tokenCompress_walk`): it reads one element at a time,
keeping the piece read so far (reversed) and whether the previous element was a separator. It is
structurally recursive, so `decide` runs it.

Nothing here names the program being verified.
-/
import Mathlib.Data.List.Basic

namespace WormholeCore.Lib

namespace Split

variable {α : Type}

/-- **A split with token compression**: the three laws a function `split sep xs` obeys. -/
structure TokenCompress (split : (α → Bool) → List α → List (List α)) : Prop where
  /-- a stretch without separators is one piece -/
  of_forall_not : ∀ {sep : α → Bool} {xs : List α}, (∀ c ∈ xs, sep c = false) → split sep xs = [xs]
  /-- a separator ends the piece before it, and what follows is split on its own -/
  append_sep : ∀ {sep : α → Bool} {xs ys : List α} {c : α}, (∀ x ∈ xs, sep x = false) →
    sep c = true → (∀ y ∈ ys.head?, sep y = false) → split sep (xs ++ c :: ys) = xs :: split sep ys
  /-- two adjacent separators delimit as one -/
  sep_sep : ∀ {sep : α → Bool} {xs ys : List α} {c d : α}, (∀ x ∈ xs, sep x = false) →
    sep c = true → sep d = true → split sep (xs ++ c :: d :: ys) = split sep (xs ++ c :: ys)

/-! ## One split with token compression -/

/-- The walk: `cur` is the current piece, reversed; `afterSep` says that the previous element was a
separator, whose piece is already out. -/
def walkGo (sep : α → Bool) : List α → List α → Bool → List (List α)
  | [], cur, _ => [cur.reverse]
  | c :: cs, cur, afterSep =>
    if sep c then
      -- a separator right after another one belongs to the same run
      if afterSep then walkGo sep cs cur true else cur.reverse :: walkGo sep cs [] true
    else walkGo sep cs (c :: cur) false

/-- The walk from an empty piece. -/
def walk (sep : α → Bool) (xs : List α) : List (List α) := walkGo sep xs [] false

variable {sep : α → Bool}

/-- A stretch without separators joins the current piece. -/
theorem walkGo_append_of_forall_not {xs : List α} (hxs : ∀ c ∈ xs, sep c = false) :
    ∀ (rest cur : List α), walkGo sep (xs ++ rest) cur false = walkGo sep rest (xs.reverse ++ cur) false := by
  induction xs with
  | nil => intro rest cur; rfl
  | cons x xs ih =>
    intro rest cur
    have hx : sep x = false := hxs x List.mem_cons_self
    rw [List.cons_append, walkGo, if_neg (by simp [hx]),
      ih (fun c hc => hxs c (List.mem_cons_of_mem x hc)) rest (x :: cur)]
    simp

/-- After a separator, a piece that starts with a non-separator starts afresh. -/
theorem walkGo_after_sep {ys : List α} (hys : ∀ y ∈ ys.head?, sep y = false) :
    walkGo sep ys [] true = walk sep ys := by
  cases ys with
  | nil => rfl
  | cons y ys =>
    have hy : sep y = false := hys y rfl
    simp only [walk, walkGo, hy, Bool.false_eq_true, if_false]

/-- The walk up to the first separator of `xs ++ c :: ys`: the stretch is out, and the walk goes
on after the separator. -/
theorem walk_append_sep {xs ys : List α} {c : α} (hxs : ∀ x ∈ xs, sep x = false)
    (hc : sep c = true) : walk sep (xs ++ c :: ys) = xs :: walkGo sep ys [] true := by
  rw [walk, walkGo_append_of_forall_not hxs, List.append_nil, walkGo, if_pos hc,
    if_neg Bool.false_ne_true, List.reverse_reverse]

/-- **The walk splits with token compression.** -/
theorem tokenCompress_walk : TokenCompress (walk (α := α)) where
  of_forall_not {sep xs} hxs := by
    have h := walkGo_append_of_forall_not hxs [] []
    rw [List.append_nil, List.append_nil] at h
    rw [walk, h, walkGo, List.reverse_reverse]
  append_sep {sep xs ys c} hxs hc hys := by
    rw [walk_append_sep hxs hc, walkGo_after_sep hys]
  sep_sep {sep xs ys c d} hxs hc hd := by
    -- the second separator continues the run the first one opened
    rw [walk_append_sep hxs hc, walk_append_sep hxs hc, walkGo, if_pos hd, if_pos rfl]

example : walk (· = ',') "a,,b".toList = ["a".toList, "b".toList] := by decide
example : walk (· = ',') "a,".toList = ["a".toList, []] := by decide

/-! ## Reading back what a writer joined -/

namespace TokenCompress

variable {split : (α → Bool) → List α → List (List α)} (h : TokenCompress split)
include h

/-- **Stretches each closed by a separator**: non-empty stretches without separators, each followed
by a separator, then a rest that does not start with one, split into the stretches and the rest's
pieces. This is how a writer's `field;field;…` or `field,field,…,last` is read back. -/
theorem sepBy {fs : List (List α)} (hfs : ∀ f ∈ fs, f ≠ [] ∧ ∀ x ∈ f, sep x = false) {c : α}
    (hc : sep c = true) {rest : List α} (hrest : ∀ y ∈ rest.head?, sep y = false) :
    split sep (fs.flatMap (· ++ [c]) ++ rest) = fs ++ split sep rest := by
  induction fs with
  | nil => rfl
  | cons f fs ih =>
    have hfsep := (hfs f List.mem_cons_self).2
    -- what follows the first separator starts with the next stretch, or is the rest
    have hhead : ∀ y ∈ (fs.flatMap (· ++ [c]) ++ rest).head?, sep y = false := by
      cases fs with
      | nil => simpa using hrest
      | cons g gs =>
        obtain ⟨hg, hgsep⟩ := hfs g (List.mem_cons_of_mem f List.mem_cons_self)
        obtain ⟨y, ys, rfl⟩ := List.exists_cons_of_ne_nil hg
        intro z hz
        rw [List.flatMap_cons, List.append_assoc, List.cons_append, List.cons_append,
          List.head?_cons, Option.mem_some_iff] at hz
        exact hz ▸ hgsep y List.mem_cons_self
    rw [List.flatMap_cons, List.append_assoc, List.append_assoc, List.singleton_append,
      h.append_sep hfsep hc hhead, ih fun g hg => hfs g (List.mem_cons_of_mem f hg),
      List.cons_append]

/-- **Stretches joined by a separator**: non-empty stretches without separators, one separator
between each two, split back into the stretches. -/
theorem intercalate {fs : List (List α)} (hfs : ∀ f ∈ fs, f ≠ [] ∧ ∀ x ∈ f, sep x = false)
    (hne : fs ≠ []) {c : α} (hc : sep c = true) : split sep ([c].intercalate fs) = fs := by
  induction fs with
  | nil => exact absurd rfl hne
  | cons f fs ih =>
    have hfsep := (hfs f List.mem_cons_self).2
    cases fs with
    | nil => rw [List.intercalate_singleton, h.of_forall_not hfsep]
    | cons g gs =>
      obtain ⟨hg, hgsep⟩ := hfs g (List.mem_cons_of_mem f List.mem_cons_self)
      obtain ⟨y, ys, rfl⟩ := List.exists_cons_of_ne_nil hg
      -- the stretches after the first start with `y`
      have hhead : ∀ z ∈ ([c].intercalate ((y :: ys) :: gs)).head?, sep z = false := by
        intro z hz
        cases gs with
        | nil =>
          rw [List.intercalate_singleton, List.head?_cons, Option.mem_some_iff] at hz
          exact hz ▸ hgsep y List.mem_cons_self
        | cons g' gs' =>
          rw [List.intercalate_cons_cons, List.append_assoc, List.cons_append, List.head?_cons,
            Option.mem_some_iff] at hz
          exact hz ▸ hgsep y List.mem_cons_self
      rw [List.intercalate_cons_cons, List.append_assoc, List.singleton_append,
        h.append_sep hfsep hc hhead,
        ih (fun h hh => hfs h (List.mem_cons_of_mem f hh)) (List.cons_ne_nil _ _)]

/-- **A first stretch, then stretches each opened by a separator**: the shape of a line a writer
built as its first field and `,field` per further field. The first stretch may be empty. -/
theorem append_flatMap {f : List α} (hf : ∀ x ∈ f, sep x = false) {gs : List (List α)}
    (hgs : ∀ g ∈ gs, g ≠ [] ∧ ∀ x ∈ g, sep x = false) {c : α} (hc : sep c = true) :
    split sep (f ++ gs.flatMap (c :: ·)) = f :: gs := by
  induction gs generalizing f with
  | nil => rw [List.flatMap_nil, List.append_nil, h.of_forall_not hf]
  | cons g gs ih =>
    obtain ⟨hg, hgsep⟩ := hgs g List.mem_cons_self
    obtain ⟨y, ys, rfl⟩ := List.exists_cons_of_ne_nil hg
    -- the stretch after the separator starts with `y`
    have hhead : ∀ z ∈ ((y :: ys) ++ gs.flatMap (c :: ·)).head?, sep z = false := by
      intro z hz
      rw [List.cons_append, List.head?_cons, Option.mem_some_iff] at hz
      exact hz ▸ hgsep y List.mem_cons_self
    rw [List.flatMap_cons, List.cons_append, h.append_sep hf hc hhead,
      ih hgsep fun g' hg' => hgs g' (List.mem_cons_of_mem _ hg')]

end TokenCompress

/-- An element of stretches joined by a separator is the separator or in one of the stretches. -/
theorem mem_intercalate {c x : α} :
    ∀ {fs : List (List α)}, x ∈ [c].intercalate fs → x = c ∨ ∃ f ∈ fs, x ∈ f
  | [], h => by simp at h
  | [f], h => by
    rw [List.intercalate_singleton] at h
    exact .inr ⟨f, List.mem_cons_self, h⟩
  | f :: g :: fs, h => by
    rw [List.intercalate_cons_cons, List.mem_append, List.mem_append, List.mem_singleton] at h
    rcases h with (h | h) | h
    · exact .inr ⟨f, List.mem_cons_self, h⟩
    · exact .inl h
    · rcases mem_intercalate h with h | ⟨f', hf', h⟩
      · exact .inl h
      · exact .inr ⟨f', List.mem_cons_of_mem _ hf', h⟩

end Split

end WormholeCore.Lib
