import Mathlib.Data.List.Sort
import Jawnix.Library.Rows

/-!
# Joins on tables

Inner and left outer joins of row lists. A join whose condition pins a unique
key of the right table finds at most one partner, so it neither repeats nor
reorders the rows of the left one.
-/
namespace Relational

variable {α β κ : Type*}

def innerJoin (xs : List α) (ys : List β) (on : α → β → Bool) : List (α × β) :=
  xs.flatMap fun a => (ys.filter (on a)).map (fun b => (a, b))

def leftJoin (xs : List α) (ys : List β) (on : α → β → Bool) : List (α × Option β) :=
  xs.flatMap (fun a =>
    match ys.filter (on a) with
    | [] => [(a, none)]
    | found => found.map fun b => (a, some b))

/-- Every left row has at most one partner. -/
def Pins (ys : List β) (on : α → β → Bool) : Prop := ∀ a, (ys.filter (on a)).length ≤ 1

theorem pins_of_keyed {key : β → κ} {ys : List β} {on : α → β → Bool} (pin : α → Option κ)
    (keyed : Rows.Keyed key ys) (named : ∀ a b, on a b → pin a = some (key b)) : Pins ys on := by
  intro a
  have apart : ((ys.filter (on a)).map key).Nodup := keyed.sublist (List.filter_sublist.map key)
  cases found : ys.filter (on a) with
  | nil => exact Nat.zero_le 1
  | cons b rest =>
  cases rest with
  | nil => exact Nat.le_refl 1
  | cons c rest =>
  have hb : b ∈ ys.filter (on a) := by rw [found]; exact List.mem_cons_self
  have hc : c ∈ ys.filter (on a) := by rw [found]; exact List.mem_cons_of_mem b List.mem_cons_self
  have same : key b = key c :=
    Option.some.inj ((named a b (List.mem_filter.mp hb).2).symm.trans (named a c (List.mem_filter.mp hc).2))
  rw [found] at apart
  simp [same] at apart

theorem mem_leftJoin {xs : List α} {ys : List β} {on : α → β → Bool} {p : α × Option β}
    (member : p ∈ leftJoin xs ys on) : p.1 ∈ xs := by
  obtain ⟨a, inLeft, joined⟩ := List.mem_flatMap.mp member
  split at joined
  · rw [List.mem_singleton.mp joined]
    exact inLeft
  · obtain ⟨b, _, rfl⟩ := List.mem_map.mp joined
    exact inLeft

theorem leftJoin_fst {ys : List β} {on : α → β → Bool} (pins : Pins ys on) (xs : List α) :
    (leftJoin xs ys on).map Prod.fst = xs := by
  induction xs with
  | nil => rfl
  | cons a xs ih =>
  simp only [leftJoin, List.flatMap_cons, List.map_append] at ih ⊢
  rw [ih]
  have one := pins a
  split
  · rfl
  cases found : ys.filter (on a) with
  | nil => simp_all
  | cons b rest =>
    rw [found] at one
    cases rest with
    | nil => rfl
    | cons c rest => simp at one

theorem innerJoin_fst_sublist {ys : List β} {on : α → β → Bool} (pins : Pins ys on) (xs : List α) :
    ((innerJoin xs ys on).map Prod.fst).Sublist xs := by
  induction xs with
  | nil => exact List.Sublist.refl []
  | cons a xs ih =>
  simp only [innerJoin, List.flatMap_cons, List.map_append] at ih ⊢
  have one := pins a
  cases found : ys.filter (on a) with
  | nil => exact ih.cons a
  | cons b rest =>
    rw [found] at one
    cases rest with
    | nil => exact ih.cons_cons a
    | cons c rest => simp at one

theorem mem_innerJoin {xs : List α} {ys : List β} {on : α → β → Bool} {p : α × β} :
    p ∈ innerJoin xs ys on ↔ p.1 ∈ xs ∧ p.2 ∈ ys ∧ on p.1 p.2 := by
  rcases p with ⟨a, b⟩
  simp [innerJoin, and_assoc]

end Relational
