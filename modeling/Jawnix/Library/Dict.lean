import Mathlib.Data.List.Induction
import Jawnix.Library.Rows

/-!
# Insertion-ordered dictionaries

An association list whose keys keep the place of their first insertion, as
Python's `dict` does. Setting a key that is present replaces its value in place.
-/
namespace Dict

variable {κ ν α : Type*} [DecidableEq κ]

def get? (k : κ) : List (κ × ν) → Option ν
  | [] => none
  | (j, v) :: rest => if j = k then some v else get? k rest

def set (k : κ) (v : ν) : List (κ × ν) → List (κ × ν)
  | [] => [(k, v)]
  | (j, w) :: rest => if j = k then (j, v) :: rest else (j, w) :: set k v rest

def erase (k : κ) (d : List (κ × ν)) : List (κ × ν) := d.filter fun entry => entry.1 ≠ k

/-- `result.update((key(x), value(x)) for x in xs)`. -/
def update (key : α → κ) (value : α → ν) (d : List (κ × ν)) (xs : List α) : List (κ × ν) :=
  xs.foldl (fun d x => set (key x) (value x) d) d

/-- `d.setdefault(k, []).append(v)`. -/
def push (k : κ) (v : ν) (d : List (κ × List ν)) : List (κ × List ν) :=
  set k ((get? k d).getD [] ++ [v]) d

/-- `for x in xs: d.setdefault(key(x), []).append(x)` from the empty dictionary. -/
def groupBy (key : α → κ) (xs : List α) : List (κ × List α) := xs.foldl (fun d x => push (key x) x d) []

theorem get?_set (k j : κ) (v : ν) (d : List (κ × ν)) :
    get? j (set k v d) = if k = j then some v else get? j d := by
  induction d with
  | nil => rfl
  | cons entry rest ih =>
  obtain ⟨i, w⟩ := entry
  by_cases here : i = k
  · subst here
    by_cases asked : i = j <;> simp [set, get?, asked]
  by_cases asked : i = j
  · subst asked
    simp [set, get?, here, Ne.symm here]
  · simp [set, get?, here, asked, ih]

theorem get?_erase (k j : κ) (d : List (κ × ν)) : get? j (erase k d) = if k = j then none else get? j d := by
  induction d with
  | nil => simp [erase, get?]
  | cons entry rest ih =>
  obtain ⟨i, w⟩ := entry
  unfold erase at ih ⊢
  by_cases gone : i = k
  · rw [List.filter_cons_of_neg (by simpa using gone), ih]
    subst gone
    by_cases asked : i = j <;> simp [get?, asked]
  rw [List.filter_cons_of_pos (by simpa using gone), get?, get?, ih]
  by_cases asked : i = j
  · subst asked
    simp [Ne.symm gone]
  · simp [asked]

theorem get?_set_cases {k j : κ} {v u : ν} {d : List (κ × ν)}
    (found : get? j (set k v d) = some u) : (j = k ∧ u = v) ∨ (j ≠ k ∧ get? j d = some u) := by
  rw [get?_set] at found
  split at found
  case isTrue here =>
    cases found
    exact .inl ⟨here.symm, rfl⟩
  case isFalse differ => exact .inr ⟨Ne.symm differ, found⟩

theorem get?_erase_cases {k j : κ} {u : ν} {d : List (κ × ν)}
    (found : get? j (erase k d) = some u) : j ≠ k ∧ get? j d = some u := by
  rw [get?_erase] at found
  split at found
  · cases found
  case isFalse differ => exact ⟨Ne.symm differ, found⟩

theorem mem_of_get? {k : κ} {v : ν} {d : List (κ × ν)} (h : get? k d = some v) : (k, v) ∈ d := by
  induction d with
  | nil => cases h
  | cons entry rest ih =>
  obtain ⟨i, w⟩ := entry
  by_cases here : i = k
  · subst here
    simp only [get?, if_true, Option.some.injEq] at h
    simp [h]
  · exact List.mem_cons_of_mem _ (ih (by simpa [get?, here] using h))

theorem keys_set (k : κ) (v : ν) (d : List (κ × ν)) :
    (set k v d).map Prod.fst = if k ∈ d.map Prod.fst then d.map Prod.fst else d.map Prod.fst ++ [k] := by
  induction d with
  | nil => rfl
  | cons first rest ih =>
  obtain ⟨i, w⟩ := first
  by_cases here : i = k
  · simp [set, here]
  by_cases later : k ∈ rest.map Prod.fst
  · rw [if_pos later] at ih
    rw [set, if_neg here, List.map_cons, List.map_cons, ih, if_pos (List.mem_cons_of_mem _ later)]
  rw [if_neg later] at ih
  have absent : k ∉ i :: rest.map Prod.fst := by
    rw [List.mem_cons, not_or]
    exact ⟨Ne.symm here, later⟩
  rw [set, if_neg here, List.map_cons, List.map_cons, ih, if_neg absent, List.cons_append]

theorem keys_set_nodup {k : κ} {v : ν} {d : List (κ × ν)} (distinct : (d.map Prod.fst).Nodup) :
    ((set k v d).map Prod.fst).Nodup := by
  rw [keys_set]
  split
  · exact distinct
  case isFalse absent =>
  rw [← List.concat_eq_append]
  exact distinct.concat absent

theorem keys_groupBy_nodup (key : α → κ) (xs : List α) : ((groupBy key xs).map Prod.fst).Nodup := by
  have built : ∀ (ys : List α) (d : List (κ × List α)), (d.map Prod.fst).Nodup →
      ((ys.foldl (fun d x => push (key x) x d) d).map Prod.fst).Nodup := by
    intro ys
    induction ys with
    | nil => exact fun _ distinct => distinct
    | cons y ys ih => exact fun d distinct => ih _ (keys_set_nodup distinct)
  exact built xs [] List.nodup_nil

theorem get?_update {key : α → κ} {value : α → ν} {k : κ} {v : ν} {xs : List α} {d : List (κ × ν)}
    (h : get? k (update key value d xs) = some v) :
    get? k d = some v ∨ ∃ x ∈ xs, key x = k ∧ value x = v := by
  induction xs generalizing d with
  | nil => exact .inl h
  | cons x xs ih =>
  rcases ih h with earlier | ⟨y, member, named, same⟩
  · rw [get?_set] at earlier
    by_cases here : key x = k
    · rw [if_pos here] at earlier
      exact .inr ⟨x, List.mem_cons_self, here, Option.some.inj earlier⟩
    · exact .inl (by simpa [here] using earlier)
  · exact .inr ⟨y, List.mem_cons_of_mem x member, named, same⟩

/-- After an update a key holds the value of its last updated row, or what it held before. -/
theorem get?_update_latest (key : α → κ) (value : α → ν) (k : κ) (d : List (κ × ν)) (xs : List α) :
    get? k (update key value d xs) = ((Rows.latest key k xs).map value).or (get? k d) := by
  induction xs using List.reverseRecOn with
  | nil => rfl
  | append_singleton xs x ih =>
    rw [update, List.foldl_append, List.foldl_cons, List.foldl_nil, get?_set, Rows.latest_append_one]
    split
    · rfl
    · exact ih

theorem keys_update_nodup {key : α → κ} {value : α → ν} {d : List (κ × ν)}
    (distinct : (d.map Prod.fst).Nodup) (xs : List α) :
    ((update key value d xs).map Prod.fst).Nodup := by
  induction xs generalizing d with
  | nil => exact distinct
  | cons x xs ih => exact ih (keys_set_nodup distinct)

theorem get?_of_mem {k : κ} {v : ν} {d : List (κ × ν)} (distinct : (d.map Prod.fst).Nodup)
    (member : (k, v) ∈ d) : get? k d = some v := by
  induction d with
  | nil => cases member
  | cons entry rest ih =>
  obtain ⟨i, w⟩ := entry
  obtain ⟨apart, distinct⟩ := List.nodup_cons.mp distinct
  rcases List.mem_cons.mp member with same | later
  · cases same
    rw [get?, if_pos rfl]
  have differ : i ≠ k := fun same => apart (List.mem_map.mpr ⟨(k, v), later, same.symm⟩)
  rw [get?, if_neg differ]
  exact ih distinct later

theorem get?_groupBy (key : α → κ) (k : κ) (xs : List α) : get? k (groupBy key xs) =
    if xs.filter (fun x => key x = k) = [] then none else some (xs.filter fun x => key x = k) := by
  induction xs using List.reverseRecOn with
  | nil => rfl
  | append_singleton xs x ih =>
  rw [groupBy, List.foldl_append, List.foldl_cons, List.foldl_nil, push, get?_set, List.filter_append]
  change (if key x = k then some ((get? (key x) (groupBy key xs)).getD [] ++ [x]) else get? k
    (groupBy key xs)) = _
  by_cases here : key x = k
  · subst here
    rw [if_pos rfl, ih]
    by_cases empty : xs.filter (fun y => key y = key x) = [] <;> simp [empty]
  · rw [if_neg here, ih]
    simp [here]

theorem mem_groupBy_iff {key : α → κ} {xs : List α} {k : κ} {group : List α} :
    (k, group) ∈ groupBy key xs ↔ group = xs.filter (fun x => key x = k) ∧ group ≠ [] := by
  constructor
  · intro member
    have held := get?_of_mem (keys_groupBy_nodup key xs) member
    rw [get?_groupBy] at held
    split at held
    · cases held
    case isFalse filled =>
    cases held
    exact ⟨rfl, filled⟩
  rintro ⟨rfl, filled⟩
  apply mem_of_get?
  rw [get?_groupBy, if_neg filled]

theorem mem_groupBy {key : α → κ} {xs : List α} {k : κ} {group : List α}
    (h : (k, group) ∈ groupBy key xs) : ∀ x ∈ group, x ∈ xs ∧ key x = k := by
  intro x member
  rw [(mem_groupBy_iff.mp h).1, List.mem_filter, decide_eq_true_eq] at member
  exact member

theorem get?_isSome_of_mem {k : κ} {v : ν} {d : List (κ × ν)} (member : (k, v) ∈ d) : (get? k d).isSome := by
  induction d with
  | nil => cases member
  | cons entry rest ih =>
  obtain ⟨i, w⟩ := entry
  rw [get?]
  split
  · rfl
  case isFalse differ =>
  rcases List.mem_cons.mp member with same | later
  · cases same
    exact absurd rfl differ
  · exact ih later

end Dict
