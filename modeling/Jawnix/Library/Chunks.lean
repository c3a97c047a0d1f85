import Mathlib.Data.List.Basic

/-!
# Consecutive slices

`rows[offset : offset + size] for offset in range(0, len(rows), size)`: the
slices of a list by a positive size. A zero size gives the same slice forever
in this recursion, so callers rule it out first, as `range` does.
-/
namespace Chunks

variable {α : Type*}

def chunksFrom (size : Nat) : Nat → List α → List (List α)
  | 0, _ => []
  | _ + 1, [] => []
  | fuel + 1, x :: xs => (x :: xs).take size :: chunksFrom size fuel ((x :: xs).drop size)

/-- The list's own length is enough fuel: every slice is nonempty. -/
def chunks (size : Nat) (xs : List α) : List (List α) := chunksFrom size xs.length xs

theorem flatten_chunksFrom {size : Nat} (positive : 0 < size) (fuel : Nat) (xs : List α)
    (enough : xs.length ≤ fuel) : (chunksFrom size fuel xs).flatten = xs := by
  induction fuel generalizing xs with
  | zero =>
    rw [List.length_eq_zero_iff.mp (Nat.le_zero.mp enough)]
    rfl
  | succ fuel ih =>
  cases xs with
  | nil => rfl
  | cons x xs =>
    have shorter : ((x :: xs).drop size).length ≤ fuel := by
      simp only [List.length_drop, List.length_cons] at enough ⊢
      omega
    rw [chunksFrom, List.flatten_cons, ih _ shorter, List.take_append_drop]

theorem flatten_chunks {size : Nat} (positive : 0 < size) (xs : List α) : (chunks size xs).flatten = xs :=
  flatten_chunksFrom positive xs.length xs (Nat.le_refl _)

end Chunks
