import Mathlib.Data.List.Basic
import Mathlib.Order.Lattice

/-!
# Registers that keep the newest

A register holds the value with the greatest key of all it has been offered. What
it holds depends on which values were offered and not on their order, as long as
no two of them share a key.
-/
namespace Register

variable {α κ : Type*} [LinearOrder κ]

def offer (key : α → κ) (held : Option α) (x : α) : Option α :=
  match held with
  | none => some x
  | some h => if key h < key x then some x else some h

def Newest (key : α → κ) (offered : List α) : Option α → Prop
  | none => offered = []
  | some x => x ∈ offered ∧ ∀ y ∈ offered, key y ≤ key x

variable {key : α → κ} {offered offered' : List α} {held held' : Option α} {x : α}

theorem Newest.offer (newest : Newest key offered held) (x : α) :
    Newest key (offered ++ [x]) (offer key held x) := by
  cases held with
  | none =>
    rw [show offered = [] from newest]
    exact ⟨List.mem_cons_self, fun y member => by rw [List.mem_singleton.mp member]⟩
  | some h =>
  obtain ⟨member, top⟩ := newest
  unfold Register.offer
  simp only
  split
  case isTrue later =>
    refine ⟨List.mem_append_right _ List.mem_cons_self, fun y inAll => ?_⟩
    rcases List.mem_append.mp inAll with old | new
    · exact le_trans (top y old) (le_of_lt later)
    · rw [List.mem_singleton.mp new]
  case isFalse earlier =>
  refine ⟨List.mem_append_left _ member, fun y inAll => ?_⟩
  rcases List.mem_append.mp inAll with old | new
  · exact top y old
  · rw [List.mem_singleton.mp new]
    exact not_lt.mp earlier

theorem Newest.congr (same : ∀ y, y ∈ offered' ↔ y ∈ offered) (newest : Newest key offered held) :
    Newest key offered' held := by
  cases held with
  | none =>
    rw [Newest, List.eq_nil_iff_forall_not_mem]
    intro y member
    rw [same, show offered = [] from newest] at member
    cases member
  | some h => exact ⟨(same h).mpr newest.1, fun y member => newest.2 y ((same y).mp member)⟩

theorem Newest.unique (distinct : ∀ y ∈ offered, ∀ z ∈ offered, key y = key z → y = z)
    (first : Newest key offered held) (second : Newest key offered held') : held = held' := by
  cases held with
  | none =>
    cases held' with
    | none => rfl
    | some h => exact absurd second.1 (by rw [show offered = [] from first]; exact List.not_mem_nil)
  | some h =>
    cases held' with
    | none => exact absurd first.1 (by rw [show offered = [] from second]; exact List.not_mem_nil)
    | some h' =>
      have same := le_antisymm (second.2 h first.1) (first.2 h' second.1)
      exact congrArg some (distinct h first.1 h' second.1 same)

end Register
