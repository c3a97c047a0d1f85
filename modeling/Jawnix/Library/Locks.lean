import Mathlib.Logic.Basic

/-!
# Row locks

Who holds the lock of a row, if anybody. A transaction takes the lock of a row
that is free or its own and gives up all its locks when it ends.
-/
namespace Locks

variable {ρ τ : Type*} [DecidableEq τ] {locks : ρ → Option τ} {t u : τ} {r x : ρ}

def available (locks : ρ → Option τ) (t : τ) (r : ρ) : Bool := (locks r).all fun holder => holder = t

def acquire [DecidableEq ρ] (locks : ρ → Option τ) (t : τ) (r : ρ) : ρ → Option τ :=
  fun x => if x = r then some t else locks x

def release (locks : ρ → Option τ) (t : τ) : ρ → Option τ :=
  fun x => if locks x = some t then none else locks x

omit [DecidableEq τ] in
theorem acquire_self [DecidableEq ρ] : acquire locks t r r = some t := if_pos rfl

theorem holds_acquire [DecidableEq ρ] (free : available locks t r) (held : locks x = some u) :
    acquire locks t r x = some u := by
  unfold acquire
  split
  case isTrue here =>
    subst here
    rw [available, held, Option.all_some, decide_eq_true_eq] at free
    rw [free]
  · exact held

theorem holds_release (other : u ≠ t) (held : locks x = some u) : release locks t x = some u := by
  unfold release
  rw [if_neg, held]
  rw [held]
  exact fun same => other (Option.some.inj same)

end Locks
