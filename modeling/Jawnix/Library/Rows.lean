import Mathlib.Data.List.Nodup
import Mathlib.Algebra.BigOperators.Group.List.Basic
import Mathlib.Algebra.Ring.Int.Defs

/-!
# Keyed rows

A database table is a list of rows in insertion order. A key column is a
function on rows, and a table is keyed by it when no two rows agree on it.
`lookup`, `adjust`, `upsert` and `sumWhere` are the select, update,
insert-or-update and coalesced-sum statements the modelled code issues against
such a table. `latest` is the last row of a key in the order of insertion.
-/
namespace Rows

variable {α κ : Type*} [DecidableEq κ]

/-- No two rows share a key: the table carries a primary key or unique index. -/
def Keyed (key : α → κ) (rows : List α) : Prop := (rows.map key).Nodup

instance (key : α → κ) (rows : List α) : Decidable (Keyed key rows) :=
  inferInstanceAs (Decidable (rows.map key).Nodup)

def lookup (key : α → κ) (k : κ) (rows : List α) : Option α :=
  rows.find? fun r => key r = k

def adjust (key : α → κ) (k : κ) (f : α → α) (rows : List α) : List α :=
  rows.map fun r => if key r = k then f r else r

/-- SQL `insert ... on conflict (key) do update`; `merge` makes the updated row from the stored and
the proposed one. -/
def upsert (key : α → κ) (merge : α → α → α) (rows : List α) (x : α) : List α :=
  match lookup key (key x) rows with
  | none => rows ++ [x]
  | some _ => adjust key (key x) (fun old => merge old x) rows

def latest (key : α → κ) (k : κ) (rows : List α) : Option α := lookup key k rows.reverse

/-- SQL `coalesce(sum(value), 0) where keep`. -/
def sumWhere (keep : α → Bool) (value : α → Int) (rows : List α) : Int :=
  ((rows.filter keep).map value).sum

section
variable {key : α → κ} {k j : κ} {rows : List α} {r : α} {f : α → α}

theorem lookup_some (h : lookup key k rows = some r) : r ∈ rows ∧ key r = k :=
  ⟨List.mem_of_find?_eq_some h, by simpa using List.find?_some h⟩

theorem lookup_none : lookup key k rows = none ↔ ∀ r ∈ rows, key r ≠ k := by
  simp [lookup, List.find?_eq_none]

omit [DecidableEq κ] in
theorem keyed_nil (key : α → κ) : Keyed key [] := List.nodup_nil

omit [DecidableEq κ] in
theorem keyed_cons : Keyed key (r :: rows) ↔ (∀ x ∈ rows, key x ≠ key r) ∧ Keyed key rows := by
  simp only [Keyed, List.map_cons, List.nodup_cons, List.mem_map, not_exists, not_and]

omit [DecidableEq κ] in
theorem keyed_append : Keyed key (rows ++ [r]) ↔ Keyed key rows ∧ ∀ x ∈ rows, key x ≠ key r := by
  simp only [Keyed, List.map_append, List.map_cons, List.map_nil, List.nodup_append,
    List.nodup_singleton, true_and, List.mem_map, List.mem_singleton]
  constructor
  · rintro ⟨base, apart⟩
    exact ⟨base, fun x member same => apart _ ⟨x, member, rfl⟩ _ rfl same⟩
  rintro ⟨base, apart⟩
  refine ⟨base, ?_⟩
  rintro _ ⟨x, member, rfl⟩ _ rfl
  exact apart x member

theorem lookup_of_mem (keyed : Keyed key rows) (member : r ∈ rows) : lookup key (key r) rows = some r := by
  induction rows with
  | nil => cases member
  | cons x rows ih =>
    obtain ⟨apart, keyed⟩ := keyed_cons.mp keyed
    rcases List.mem_cons.mp member with rfl | later
    · simp [lookup]
    · have differ : key x ≠ key r := (apart r later).symm
      simpa [lookup, differ] using ih keyed later

theorem eq_of_mem_of_key {x y : α} (keyed : Keyed key rows) (hx : x ∈ rows) (hy : y ∈ rows)
    (same : key x = key y) : x = y := by
  have left := lookup_of_mem keyed hx
  rw [same, lookup_of_mem keyed hy] at left
  exact (Option.some.inj left).symm

omit [DecidableEq κ] in
theorem keyed_group {γ : Type*} [DecidableEq γ] {group : α → γ}
    (keyed : Keyed (fun r => (group r, key r)) rows) (g : γ) :
    Keyed key (rows.filter fun r => group r = g) := by
  have part : ((rows.filter fun r => group r = g).map fun r => (group r, key r)).Nodup :=
    keyed.sublist (List.filter_sublist.map _)
  have same : (rows.filter fun r => group r = g).map (fun r => (group r, key r)) =
      ((rows.filter fun r => group r = g).map key).map (Prod.mk g) := by
    rw [List.map_map]
    apply List.map_congr_left
    intro r member
    rw [of_decide_eq_true (List.mem_filter.mp member).2, Function.comp_apply]
  rw [same] at part
  exact part.of_map _

theorem lookup_append_fresh (fresh : lookup key (key r) rows = none) :
    lookup key k (rows ++ [r]) = if key r = k then some r else lookup key k rows := by
  by_cases same : key r = k
  · subst same
    simp only [lookup, List.find?_append] at fresh ⊢
    simp [fresh]
  · simp [lookup, List.find?_append, same]

theorem lookup_append_new (absent : lookup key k rows = none) (named : key r = k) (j : κ) :
    lookup key j (rows ++ [r]) = if k = j then some r else lookup key j rows := by
  subst named
  exact lookup_append_fresh absent

theorem lookup_append_some (h : lookup key k rows = some r) (x : α) :
    lookup key k (rows ++ [x]) = some r := by
  simp only [lookup, List.find?_append] at h ⊢
  simp [h]

theorem mem_adjust {x : α} :
    x ∈ adjust key k f rows ↔ (∃ r ∈ rows, key r = k ∧ f r = x) ∨ (x ∈ rows ∧ key x ≠ k) := by
  simp only [adjust, List.mem_map]
  constructor
  · rintro ⟨r, member, rfl⟩
    by_cases here : key r = k
    · exact .inl ⟨r, member, here, by simp [here]⟩
    · exact .inr ⟨by simpa [here] using member, by simp [here]⟩
  rintro (⟨r, member, here, rfl⟩ | ⟨member, here⟩)
  · exact ⟨r, member, by simp [here]⟩
  · exact ⟨x, member, by simp [here]⟩

/-- Under a key, an update of a keyed table touches the one row found there. -/
theorem mem_adjust_of_lookup {x : α} (keyed : Keyed key rows) (h : lookup key k rows = some r) :
    x ∈ adjust key k f rows ↔ x = f r ∨ (x ∈ rows ∧ key x ≠ k) := by
  obtain ⟨stored, named⟩ := lookup_some h
  rw [mem_adjust]
  constructor
  · rintro (⟨y, member, here, rfl⟩ | other)
    · exact .inl (congrArg f (eq_of_mem_of_key keyed member stored (here.trans named.symm)))
    · exact .inr other
  rintro (rfl | other)
  · exact .inl ⟨r, stored, named, rfl⟩
  · exact .inr other

theorem map_adjust_of_preserves {β : Type*} (g : α → β) (same : ∀ r, key r = k → g (f r) = g r) :
    (adjust key k f rows).map g = rows.map g := by
  simp only [adjust, List.map_map]
  apply List.map_congr_left
  intro r _
  by_cases here : key r = k
  · simp [here, same r here]
  · simp [here]

theorem keyed_adjust (same : ∀ r, key r = k → key (f r) = key r) (keyed : Keyed key rows) :
    Keyed key (adjust key k f rows) := by
  unfold Keyed
  rw [map_adjust_of_preserves key same]
  exact keyed

theorem lookup_adjust (same : ∀ r, key r = k → key (f r) = key r) : lookup key j (adjust key k f rows) =
    if j = k then (lookup key j rows).map f else lookup key j rows := by
  induction rows with
  | nil => simp [adjust, lookup]
  | cons x rows ih =>
  simp only [adjust, List.map_cons, lookup, List.find?_cons] at ih ⊢
  by_cases here : key x = k
  · have kept : key (f x) = k := (same x here).trans here
    by_cases asked : j = k
    · subst asked
      simp [here, kept]
    · have other : k ≠ j := fun h => asked h.symm
      simpa [here, kept, asked, other] using ih
  by_cases asked : key x = j
  · have other : j ≠ k := fun h => here (asked.trans h)
    simp [asked, other]
  · simpa [here, asked] using ih

theorem lookup_map (same : ∀ r, key (f r) = key r) :
    lookup key k (rows.map f) = (lookup key k rows).map f := by
  simp only [lookup, List.find?_map, Function.comp_def, same]

theorem map_lookup_congr {β : Type*} {g : α → β} {others : List α}
    (same : others.map (fun r => (key r, g r)) = rows.map fun r => (key r, g r)) :
    (lookup key k others).map g = (lookup key k rows).map g := by
  have read : ∀ xs : List α, (lookup key k xs).map g =
      ((xs.map fun r => (key r, g r)).find? fun p => p.1 = k).map Prod.snd := fun xs => by
    simp [lookup, List.find?_map, Function.comp_def]
  rw [read, read, same]

theorem lookup_adjust_self (same : ∀ r, key r = k → key (f r) = key r)
    (h : lookup key k rows = some r) : lookup key k (adjust key k f rows) = some (f r) := by
  rw [lookup_adjust same, if_pos rfl, h, Option.map_some]

theorem lookup_adjust_of_ne (same : ∀ r, key r = k → key (f r) = key r) (other : j ≠ k) :
    lookup key j (adjust key k f rows) = lookup key j rows := by
  rw [lookup_adjust same, if_neg other]

theorem adjust_of_lookup_none (h : lookup key k rows = none) : adjust key k f rows = rows := by
  have absent := lookup_none.mp h
  unfold adjust
  calc rows.map (fun r => if key r = k then f r else r)
      = rows.map id := List.map_congr_left fun r member => by simp [absent r member]
    _ = rows := List.map_id rows

theorem filter_adjust_of_not {p : α → Bool} (out : ∀ r, key r = k → p (f r) = false) :
    (adjust key k f rows).filter p = (rows.filter p).filter fun r => key r ≠ k := by
  induction rows with
  | nil => rfl
  | cons x rows ih =>
  rw [adjust, List.map_cons, ← adjust]
  by_cases here : key x = k
  · rw [if_pos here, List.filter_cons_of_neg (by simp [out x here]), ih]
    by_cases kept : p x
    · rw [List.filter_cons_of_pos kept, List.filter_cons_of_neg (by simp [here])]
    · rw [List.filter_cons_of_neg kept]
  rw [if_neg here]
  by_cases kept : p x
  · rw [List.filter_cons_of_pos kept, List.filter_cons_of_pos kept,
      List.filter_cons_of_pos (by simp [here]), ih]
  · rw [List.filter_cons_of_neg kept, List.filter_cons_of_neg kept, ih]

theorem filter_key (keyed : Keyed key rows) (found : lookup key k rows = some r) :
    rows.filter (fun x => key x = k) = [r] := by
  induction rows with
  | nil => cases found
  | cons x rows ih =>
  obtain ⟨apart, keyed⟩ := keyed_cons.mp keyed
  by_cases here : key x = k
  · have same : x = r := by simpa [lookup, here] using found
    have tail : rows.filter (fun x => key x = k) = [] :=
      List.filter_eq_nil_iff.mpr fun y member => by simpa [← here] using apart y member
    rw [List.filter_cons_of_pos (by simpa using here), tail, same]
  · have later : lookup key k rows = some r := by simpa [lookup, here] using found
    simp [here, ih keyed later]

end

section
variable {key : α → κ} {k : κ} {rows : List α} {x y : α} {merge : α → α → α}

theorem keyed_upsert (same : ∀ old, key old = key x → key (merge old x) = key old)
    (keyed : Keyed key rows) : Keyed key (upsert key merge rows x) := by
  unfold upsert
  split
  case h_1 absent => exact keyed_append.mpr ⟨keyed, lookup_none.mp absent⟩
  · exact keyed_adjust same keyed

/-- An upsert leaves the other keys alone and stores the proposed row or its merge. -/
theorem mem_upsert (keyed : Keyed key rows) : y ∈ upsert key merge rows x ↔
    (y ∈ rows ∧ key y ≠ key x) ∨ y = (lookup key (key x) rows).elim x fun old => merge old x := by
  unfold upsert
  split
  case h_1 absent =>
    rw [absent, List.mem_append, List.mem_singleton, Option.elim_none]
    exact or_congr_left ⟨fun member => ⟨member, lookup_none.mp absent y member⟩, And.left⟩
  case h_2 old found =>
    rw [mem_adjust_of_lookup keyed found, found, Option.elim_some, or_comm]

theorem mem_upsert_cases (member : y ∈ upsert key merge rows x) :
    y ∈ rows ∨ y = x ∨ ∃ old ∈ rows, key old = key x ∧ y = merge old x := by
  unfold upsert at member
  split at member
  · rcases List.mem_append.mp member with stored | new
    · exact .inl stored
    · exact .inr (.inl (List.mem_singleton.mp new))
  rcases mem_adjust.mp member with ⟨old, stored, here, rfl⟩ | ⟨stored, _⟩
  · exact .inr (.inr ⟨old, stored, here, rfl⟩)
  · exact .inl stored

/-- `on conflict do nothing` -/
theorem upsert_ignore : upsert key (fun old _ => old) rows x =
    if (lookup key (key x) rows).isSome then rows else rows ++ [x] := by
  unfold upsert
  cases found : lookup key (key x) rows with
  | none => rfl
  | some old => simp [adjust]

theorem lookup_upsert (same : ∀ old, key old = key x → key (merge old x) = key old) :
    lookup key k (upsert key merge rows x) =
    if key x = k then some ((lookup key k rows).elim x fun old => merge old x) else lookup key k rows := by
  unfold upsert
  split
  case h_1 absent =>
    rw [lookup_append_fresh absent]
    split
    case isTrue here => rw [← here, absent, Option.elim_none]
    · rfl
  case h_2 old found =>
  rw [lookup_adjust same]
  by_cases here : key x = k
  · subst here
    rw [if_pos rfl, if_pos rfl, found, Option.map_some, Option.elim_some]
  · rw [if_neg (Ne.symm here), if_neg here]

end

section
variable {key : α → κ} {k : κ} {rows : List α} {x : α}

@[simp] theorem latest_nil : latest key k ([] : List α) = none := rfl

theorem latest_append (xs ys : List α) :
    latest key k (xs ++ ys) = (latest key k ys).or (latest key k xs) := by
  simp [latest, lookup, List.find?_append]

theorem latest_append_one (rows : List α) (x : α) :
    latest key k (rows ++ [x]) = if key x = k then some x else latest key k rows := by
  by_cases here : key x = k <;> simp [latest, lookup, here]

theorem latest_some (h : latest key k rows = some x) : x ∈ rows ∧ key x = k := by
  obtain ⟨member, named⟩ := lookup_some h
  exact ⟨List.mem_reverse.mp member, named⟩

theorem latest_none : latest key k rows = none ↔ ∀ x ∈ rows, key x ≠ k := by
  simp [latest, lookup_none]

end

section
variable {key : α → κ} {k : κ} {rows : List α} {r : α} {f : α → α}
  {keep : α → Bool} {value : α → Int}

def share (keep : α → Bool) (value : α → Int) (r : α) : Int := if keep r then value r else 0

theorem sumWhere_eq_shares : sumWhere keep value rows = (rows.map (share keep value)).sum := by
  induction rows with
  | nil => rfl
  | cons x rows ih =>
    simp only [sumWhere, List.filter_cons, List.map_cons, List.sum_cons, share] at ih ⊢
    by_cases kept : keep x <;> simp [kept, ih]

@[simp] theorem sumWhere_nil : sumWhere keep value ([] : List α) = 0 := rfl

@[simp] theorem sumWhere_append_one (x : α) :
    sumWhere keep value (rows ++ [x]) = sumWhere keep value rows + share keep value x := by
  simp [sumWhere_eq_shares]

theorem sumWhere_eq_zero (none : ∀ x ∈ rows, keep x = false) : sumWhere keep value rows = 0 := by
  have empty : rows.filter keep = [] := List.filter_eq_nil_iff.mpr fun x member => by simp [none x member]
  simp [sumWhere, empty]

/-- One update moves a filtered sum by the difference of the row's shares. -/
theorem sumWhere_adjust (keyed : Keyed key rows) (h : lookup key k rows = some r) :
    sumWhere keep value (adjust key k f rows) =
    sumWhere keep value rows - share keep value r + share keep value (f r) := by
  simp only [sumWhere_eq_shares]
  induction rows with
  | nil => cases h
  | cons x rows ih =>
  obtain ⟨apart, keyed⟩ := keyed_cons.mp keyed
  simp only [adjust, List.map_cons, List.sum_cons] at ih ⊢
  by_cases here : key x = k
  · have found : x = r := by simpa [lookup, here] using h
    subst found
    -- no later row carries the key, so the tail is untouched
    have tail : rows.map (fun r => if key r = k then f r else r) = rows :=
      adjust_of_lookup_none (lookup_none.mpr fun y member same => apart y member (same.trans here.symm))
    simp only [here, if_true, tail]
    omega
  have later : lookup key k rows = some r := by simpa [lookup, here] using h
  have step := ih keyed later
  simp only [here, if_false]
  omega

end

section
variable {place : α → Option κ} {rows : List α}

/-- Count each row at its place, on top of the counts so far. -/
def tally (place : α → Option κ) (rows : List α) (counts : κ → Nat) : κ → Nat :=
  rows.foldl (fun counts r =>
    match place r with
    | none => counts
    | some k => fun j => if j = k then counts j + 1 else counts j) counts

theorem tally_apply (place : α → Option κ) (rows : List α) (counts : κ → Nat) (k : κ) :
    tally place rows counts k = counts k + (rows.filter fun r => place r = some k).length := by
  unfold tally
  induction rows generalizing counts with
  | nil => rfl
  | cons r rows ih =>
  rw [List.foldl_cons, ih]
  cases placed : place r with
  | none => simp [placed]
  | some j =>
    by_cases here : k = j
    · simp [placed, here]
      omega
    · simp [placed, here, Ne.symm here]

end

end Rows
