import Mathlib.Data.List.Chain

/-!
# Chains of supersession

Entries of an append-only history that name the entry they replace. The history
is a chain if its first entry replaces nothing and each later one replaces the
entry right before it. An entry that nothing replaces is then the last.
-/
namespace Chains

variable {α κ : Type*} {key : α → κ} {prev : α → Option κ} {xs : List α} {x : α}

def Linked (key : α → κ) (prev : α → Option κ) (xs : List α) : Prop :=
  (∀ x ∈ xs.head?, prev x = none) ∧ xs.IsChain fun a b => prev b = some (key a)

theorem linked_nil : Linked key prev [] := ⟨fun _ none => (nomatch none), .nil⟩

def Unreplaced (key : α → κ) (prev : α → Option κ) (xs : List α) (x : α) : Prop :=
  ∀ y ∈ xs, prev y ≠ some (key x)

theorem linked_concat : Linked key prev (xs ++ [x]) ↔ Linked key prev xs ∧ prev x = xs.getLast?.map key := by
  unfold Linked
  rw [List.isChain_append]
  cases xs using List.reverseRecOn with
  | nil => simp [List.IsChain.nil]
  | append_singleton ys last =>
  have head : (ys ++ [last] ++ [x]).head? = (ys ++ [last]).head? := by
    cases ys with
    | nil => rfl
    | cons first rest => rfl
  rw [head]
  simp [and_assoc]

section
variable (linked : Linked key prev xs)
include linked

theorem Linked.last_of_unreplaced (member : x ∈ xs) (unreplaced : Unreplaced key prev xs x) :
    xs.getLast? = some x := by
  induction xs using List.reverseRecOn with
  | nil => cases member
  | append_singleton ys last ih =>
  rw [List.getLast?_concat]
  obtain ⟨before, replaces⟩ := linked_concat.mp linked
  rcases List.mem_append.mp member with earlier | here
  · have tip := ih before earlier fun y inside => unreplaced y (List.mem_append_left _ inside)
    rw [tip] at replaces
    exact absurd replaces (unreplaced last (List.mem_append_right _ List.mem_cons_self))
  · rw [List.mem_singleton.mp here]

theorem Linked.replaced_mem {y : α} (member : y ∈ xs) {k : κ} (replaces : prev y = some k) :
    k ∈ xs.map key := by
  induction xs using List.reverseRecOn with
  | nil => cases member
  | append_singleton ys last ih =>
  obtain ⟨before, names⟩ := linked_concat.mp linked
  rw [List.map_append]
  apply List.mem_append_left
  rcases List.mem_append.mp member with earlier | here
  · exact ih before earlier
  rw [List.mem_singleton.mp here, names] at replaces
  obtain ⟨tip, isLast, rfl⟩ := Option.map_eq_some_iff.mp replaces
  exact List.mem_map_of_mem (List.mem_of_getLast? isLast)

theorem Linked.unreplaced_last (distinct : (xs.map key).Nodup) (last : xs.getLast? = some x) :
    Unreplaced key prev xs x := by
  cases xs using List.reverseRecOn with
  | nil => cases last
  | append_singleton ys y =>
  rw [List.getLast?_concat] at last
  cases last
  rw [List.map_append, List.map_singleton, List.nodup_append] at distinct
  obtain ⟨before, names⟩ := linked_concat.mp linked
  intro z member replaces
  have among : key x ∈ ys.map key := by
    rcases List.mem_append.mp member with earlier | here
    · exact before.replaced_mem earlier replaces
    rw [List.mem_singleton.mp here, names] at replaces
    obtain ⟨tip, isLast, same⟩ := Option.map_eq_some_iff.mp replaces
    exact same ▸ List.mem_map_of_mem (List.mem_of_getLast? isLast)
  exact distinct.2.2 _ among _ List.mem_cons_self rfl

end

end Chains
