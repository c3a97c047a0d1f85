import Mathlib.Data.List.Nodup

/-!
# Unique indexes under concurrent inserts

A unique index over a key that may be null; null keys are distinct from each
other. It spans the committed rows and the rows that open transactions have
flushed, at most one for each transaction here: a row is flushed only if no
other row of either kind has its key.
-/
namespace UniqueIndex

variable {α κ τ : Type*} {key : α → Option κ} {rows news : List α} {x : α} {k : κ}

def Holds (key : α → Option κ) (rows : List α) : Prop := (rows.filterMap key).Nodup

theorem holds_append :
    Holds key (rows ++ [x]) ↔ Holds key rows ∧ ∀ k, key x = some k → k ∉ rows.filterMap key := by
  unfold Holds
  rw [List.filterMap_append]
  cases named : key x with
  | none => simp [named]
  | some j =>
    rw [List.filterMap_cons_some named, List.filterMap_nil, ← List.concat_eq_append,
      List.nodup_concat, and_comm]
    refine and_congr_right fun _ => ⟨fun absent k same => ?_, fun absent => absent j rfl⟩
    cases same
    exact absent

theorem Holds.filter_eq [DecidableEq κ] (holds : Holds key rows) (member : x ∈ rows)
    (named : key x = some k) : rows.filter (fun y => key y = some k) = [x] := by
  induction rows with
  | nil => cases member
  | cons y rows ih =>
  rcases List.mem_cons.mp member with rfl | later
  · rw [Holds, List.filterMap_cons_some named, List.nodup_cons] at holds
    rw [List.filter_cons_of_pos (by simp [named])]
    refine congrArg (List.cons x) (List.filter_eq_nil_iff.mpr fun y inside same => ?_)
    exact holds.1 (List.mem_filterMap.mpr ⟨y, inside, of_decide_eq_true same⟩)
  have kept : k ∈ rows.filterMap key := List.mem_filterMap.mpr ⟨x, later, named⟩
  cases other : key y with
  | none =>
    rw [Holds, List.filterMap_cons_none other] at holds
    rw [List.filter_cons_of_neg (by simp [other])]
    exact ih holds later
  | some j =>
    rw [Holds, List.filterMap_cons_some other, List.nodup_cons] at holds
    have differ : j ≠ k := fun same => holds.1 (same ▸ kept)
    rw [List.filter_cons_of_neg (by simp [other, differ])]
    exact ih holds.2 later

/-- Of several rows with one key at most one was added, and only if no row had the key before. -/
theorem Holds.added (holds : Holds key (rows ++ news)) (named : ∀ x ∈ news, key x = some k) :
    news = [] ∨ ∃ x, news = [x] ∧ k ∉ rows.filterMap key := by
  unfold Holds at holds
  rw [List.filterMap_append, List.nodup_append] at holds
  obtain ⟨_, distinct, apart⟩ := holds
  match news, named with
  | [], _ => exact .inl rfl
  | [x], named =>
    refine .inr ⟨x, rfl, fun before => apart k before k ?_ rfl⟩
    exact List.mem_filterMap.mpr ⟨x, List.mem_cons_self, named x List.mem_cons_self⟩
  | x :: y :: rest, named =>
    rw [List.filterMap_cons_some (named x List.mem_cons_self), List.nodup_cons] at distinct
    refine absurd (List.mem_filterMap.mpr ⟨y, List.mem_cons_self, ?_⟩) distinct.1
    exact named y (List.mem_cons_of_mem _ List.mem_cons_self)

/-- The index over what is committed and what each transaction has flushed. -/
structure Respected (key : α → Option κ) (rows : List α) (flushed : τ → Option α) : Prop where
  committed : Holds key rows
  free : ∀ t x k, flushed t = some x → key x = some k → k ∉ rows.filterMap key
  apart : ∀ t u x y k, flushed t = some x → flushed u = some y → key x = some k → key y = some k → t = u

section
variable {flushed flushed' : τ → Option α} {t : τ}

section
variable (respected : Respected key rows flushed)
include respected

theorem Respected.fewer (fewer : ∀ u y, flushed' u = some y → flushed u = some y) :
    Respected key rows flushed' where
  committed := respected.committed
  free u y k inside := respected.free u y k (fewer u y inside)
  apart u v y z k first second := respected.apart u v y z k (fewer u y first) (fewer v z second)

theorem Respected.flush (absent : ∀ k, key x = some k → k ∉ rows.filterMap key)
    (unclaimed : ∀ u y k, u ≠ t → flushed u = some y → key x = some k → key y ≠ some k)
    (others : ∀ u y, flushed' u = some y → u = t ∧ y = x ∨ u ≠ t ∧ flushed u = some y) :
    Respected key rows flushed' where
  committed := respected.committed
  free u y k inside named := by
    rcases others u y inside with ⟨_, rfl⟩ | ⟨_, before⟩
    · exact absent k named
    · exact respected.free u y k before named
  apart u v y z k first second named alike := by
    rcases others u y first with ⟨rfl, rfl⟩ | ⟨differ, before⟩ <;>
      rcases others v z second with ⟨rfl, rfl⟩ | ⟨differ', before'⟩
    · rfl
    · exact absurd alike (unclaimed v z k differ' before' named)
    · exact absurd named (unclaimed u y k differ before alike)
    · exact respected.apart u v y z k before before' named alike

theorem Respected.commit (own : flushed t = some x)
    (others : ∀ u y, flushed' u = some y → u ≠ t ∧ flushed u = some y) :
    Respected key (rows ++ [x]) flushed' where
  committed := holds_append.mpr ⟨respected.committed, fun k named => respected.free t x k own named⟩
  free u y k inside named := by
    obtain ⟨differ, before⟩ := others u y inside
    rw [List.filterMap_append, List.mem_append, not_or]
    refine ⟨respected.free u y k before named, fun here => ?_⟩
    obtain ⟨z, isX, alike⟩ := List.mem_filterMap.mp here
    cases List.mem_singleton.mp isX
    exact differ (respected.apart u t y x k before own named alike)
  apart u v y z k first second := respected.apart u v y z k (others u y first).2 (others v z second).2

end

end

end UniqueIndex
