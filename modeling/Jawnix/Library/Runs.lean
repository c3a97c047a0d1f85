import Mathlib.Data.List.Forall2

/-!
# Runs of a step function

A system is a total step function: a refused operation leaves the state as it
is. A run is the fold of the steps. `Meets` restricts a run to operations whose
guard holds in the state they are issued in.
-/
namespace Runs

variable {σ ο : Type*} {step : σ → ο → σ} {guard : σ → ο → Prop}

def run (step : σ → ο → σ) (s : σ) (ops : List ο) : σ := ops.foldl step s

@[simp] theorem run_nil (s : σ) : run step s [] = s := rfl

@[simp] theorem run_cons (s : σ) (op : ο) (ops : List ο) :
  run step s (op :: ops) = run step (step s op) ops := rfl

theorem run_append (s : σ) (xs ys : List ο) : run step s (xs ++ ys) = run step (run step s xs) ys :=
  List.foldl_append

theorem run_concat (s : σ) (ops : List ο) (op : ο) :
    run step s (ops ++ [op]) = step (run step s ops) op := by
  rw [run_append, run_cons, run_nil]

def commit {ε : Type*} (s : σ) : Except ε σ → σ
  | .ok t => t
  | .error _ => s

theorem commit_cases {ε : Type*} {P : σ → Prop} {s : σ} {outcome : Except ε σ} (refused : P s)
    (accepted : ∀ t, outcome = .ok t → P t) : P (commit s outcome) := by
  cases outcome with
  | error fault => exact refused
  | ok t => exact accepted t rfl

/-- A fallible computation that succeeds ran each of its parts to success. -/
theorem bind_ok {ε α β : Type} {x : Except ε α} {f : α → Except ε β} {b : β}
    (done : (x >>= f) = .ok b) : ∃ a, x = .ok a ∧ f a = .ok b := by
  cases x with
  | error fault => cases done
  | ok a => exact ⟨a, rfl, done⟩

theorem guard_ok {ε α : Type} {c : Prop} [Decidable c] {e : ε} {rest : Except ε α} {a : α}
    (done : (if c then .error e else rest) = .ok a) : ¬c ∧ rest = .ok a := by
  split at done
  · cases done
  case isFalse passed => exact ⟨passed, done⟩

theorem map_fst_ok {ε α β : Type} {outcome : Except ε (α × β)} {a : α}
    (done : outcome.map Prod.fst = .ok a) : ∃ b, outcome = .ok (a, b) := by
  cases outcome with
  | error fault => cases done
  | ok pair =>
    cases done
    exact ⟨pair.2, rfl⟩

theorem mapM_ok {ε α β : Type} {f : α → Except ε β} {xs : List α} {ys : List β}
    (done : xs.mapM f = .ok ys) : List.Forall₂ (fun x y => f x = .ok y) xs ys := by
  induction xs generalizing ys with
  | nil =>
    cases done
    exact .nil
  | cons x xs ih =>
    rw [List.mapM_cons] at done
    obtain ⟨y, here, rest⟩ := bind_ok done
    obtain ⟨tail, later, same⟩ := bind_ok rest
    cases same
    exact .cons here (ih later)

theorem mapM_total {ε α β : Type} {f : α → Except ε β} {xs : List α}
    (each : ∀ x ∈ xs, ∃ y, f x = .ok y) : ∃ ys, xs.mapM f = .ok ys := by
  induction xs with
  | nil => exact ⟨[], rfl⟩
  | cons x xs ih =>
    obtain ⟨y, here⟩ := each x List.mem_cons_self
    obtain ⟨ys, rest⟩ := ih fun z member => each z (List.mem_cons_of_mem _ member)
    exact ⟨y :: ys, by rw [List.mapM_cons, here, rest]; rfl⟩

/-- What each step of a fallible loop keeps holds when the loop has come to its end. -/
theorem foldlM_invariant {ε α β : Type} {f : β → α → Except ε β} {I : β → Prop}
    (kept : ∀ b a c, I b → f b a = .ok c → I c) {xs : List α} {b c : β} (start : I b)
    (done : xs.foldlM f b = .ok c) : I c := by
  induction xs generalizing b with
  | nil =>
    cases done
    exact start
  | cons x xs ih =>
    rw [List.foldlM_cons] at done
    obtain ⟨next, here, rest⟩ := bind_ok done
    exact ih (kept b x next start here) rest

theorem foldlM_error {ε α β : Type} {f : β → α → Except ε β} {xs : List α} {b : β} {fault : ε}
    (failed : xs.foldlM f b = .error fault) : ∃ b, ∃ x ∈ xs, f b x = .error fault := by
  induction xs generalizing b with
  | nil => cases failed
  | cons x xs ih =>
  rw [List.foldlM_cons] at failed
  cases here : f b x with
  | error other =>
    rw [here] at failed
    cases failed
    exact ⟨b, x, List.mem_cons_self, here⟩
  | ok next =>
    rw [here] at failed
    obtain ⟨b, y, member, raised⟩ := ih failed
    exact ⟨b, y, List.mem_cons_of_mem x member, raised⟩

theorem forall₂_mem_right {α β : Type*} {R : α → β → Prop} {xs : List α} {ys : List β} {y : β}
    (related : List.Forall₂ R xs ys) (member : y ∈ ys) : ∃ x ∈ xs, R x y := by
  induction related with
  | nil => cases member
  | cons first _ ih =>
    rcases List.mem_cons.mp member with rfl | later
    · exact ⟨_, List.mem_cons_self, first⟩
    · obtain ⟨x, inRest, holds⟩ := ih later
      exact ⟨x, List.mem_cons_of_mem _ inRest, holds⟩

/-- A property that holds initially and survives every step holds after every run. -/
theorem run_invariant {I : σ → Prop} (kept : ∀ s op, I s → I (step s op)) {s : σ} (h : I s)
    (ops : List ο) : I (run step s ops) := by
  induction ops generalizing s with
  | nil => exact h
  | cons op ops ih => exact ih (kept s op h)

/-- Every operation of the run meets its guard in the state it is issued in. -/
def Meets (step : σ → ο → σ) (guard : σ → ο → Prop) : σ → List ο → Prop
  | _, [] => True
  | s, op :: ops => guard s op ∧ Meets step guard (step s op) ops

instance Meets.decidable [∀ s op, Decidable (guard s op)] : ∀ s ops, Decidable (Meets step guard s ops)
  | _, [] => isTrue trivial
  | s, op :: ops =>
    match (inferInstance : Decidable (guard s op)), Meets.decidable (step s op) ops with
    | isTrue here, isTrue later => isTrue ⟨here, later⟩
    | isFalse fails, _ => isFalse fun both => fails both.1
    | _, isFalse fails => isFalse fun both => fails both.2

theorem Meets.imp {weaker : σ → ο → Prop} (weakens : ∀ s op, guard s op → weaker s op) {s : σ}
    {ops : List ο} (meets : Meets step guard s ops) : Meets step weaker s ops := by
  induction ops generalizing s with
  | nil => trivial
  | cons op ops ih => exact ⟨weakens s op meets.1, ih meets.2⟩

theorem meets_of_forall {allowed : ο → Prop} {s : σ} {ops : List ο} (all : ∀ op ∈ ops, allowed op) :
    Meets step (fun _ => allowed) s ops := by
  induction ops generalizing s with
  | nil => trivial
  | cons op ops ih => exact ⟨all op List.mem_cons_self, ih fun later member =>
      all later (List.mem_cons_of_mem op member)⟩

theorem Meets.and {other : σ → ο → Prop} {s : σ} {ops : List ο} (meets : Meets step guard s ops)
    (others : Meets step other s ops) : Meets step (fun s op => guard s op ∧ other s op) s ops := by
  induction ops generalizing s with
  | nil => trivial
  | cons op ops ih => exact ⟨⟨meets.1, others.1⟩, ih meets.2 others.2⟩

theorem run_invariant_of_meets {I : σ → Prop} (kept : ∀ s op, guard s op → I s → I (step s op))
    {s : σ} (h : I s) {ops : List ο} (meets : Meets step guard s ops) : I (run step s ops) := by
  induction ops generalizing s with
  | nil => exact h
  | cons op ops ih => exact ih (kept s op meets.1 h) meets.2

/-- What an invariant and the guard give for one step holds of every step of the run. -/
theorem meets_of_invariant {I : σ → Prop} {Q : σ → ο → Prop}
    (kept : ∀ s op, guard s op → I s → I (step s op)) (each : ∀ s op, guard s op → I s → Q s op)
    {s : σ} (h : I s) {ops : List ο} (meets : Meets step guard s ops) : Meets step Q s ops := by
  induction ops generalizing s with
  | nil => trivial
  | cons op ops ih => exact ⟨each s op meets.1 h, ih (kept s op meets.1 h) meets.2⟩

theorem run_meets {I : σ → Prop} {Q : σ → ο → Prop} (kept : ∀ s op, I s → I (step s op))
    (each : ∀ s op, I s → Q s op) {s : σ} (h : I s) (ops : List ο) : Meets step Q s ops := by
  induction ops generalizing s with
  | nil => trivial
  | cons op ops ih => exact ⟨each s op h, ih (kept s op h)⟩

end Runs
