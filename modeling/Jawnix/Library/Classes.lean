import Mathlib.Data.List.Basic
import Mathlib.Logic.Relation

/-!
# Classes of a growing set of edges

Nodes carry a key, and a new edge merges the keys of its ends. Sharing a key is
then the equivalence closure of all edges that were ever added.
-/
namespace Classes

variable {α κ : Type*} {edges more : List (α × α)} {key key' : α → Option κ} {x y : α}

def Connected (edges : List (α × α)) : α → α → Prop := Relation.EqvGen fun x y => (x, y) ∈ edges

theorem Connected.mono (grown : ∀ e ∈ edges, e ∈ more) (connected : Connected edges x y) :
    Connected more x y :=
  Relation.EqvGen.mono (fun x y member => grown (x, y) member) x y connected

/-- The ends of an edge share their key, and nodes that share a key are connected. -/
structure Represents (key : α → Option κ) (edges : List (α × α)) : Prop where
  agrees : ∀ e ∈ edges, key e.1 = key e.2
  connects : ∀ x y k, key x = some k → key y = some k → Connected edges x y

theorem key_eq_of_connected (agrees : ∀ e ∈ edges, key e.1 = key e.2)
    (connected : Connected edges x y) : key x = key y := by
  induction connected with
  | rel x y edge => exact agrees (x, y) edge
  | refl x => rfl
  | symm x y _ ih => exact ih.symm
  | trans x y z _ _ first second => exact first.trans second

section
variable (represents : Represents key edges)
include represents

theorem Represents.connected_iff {k l : κ} (hx : key x = some k) (hy : key y = some l) :
    k = l ↔ Connected edges x y := by
  constructor
  · rintro rfl
    exact represents.connects x y k hx hy
  intro connected
  have same := key_eq_of_connected represents.agrees connected
  rw [hx, hy] at same
  exact Option.some.inj same

theorem Represents.again {e : α × α} (member : e ∈ edges) : Represents key (edges ++ [e]) where
  agrees := fun other recorded => by
    rcases List.mem_append.mp recorded with old | new
    · exact represents.agrees other old
    · rw [List.mem_singleton.mp new]
      exact represents.agrees e member
  connects := fun x y k hx hy =>
    (represents.connects x y k hx hy).mono fun _ recorded => List.mem_append_left _ recorded

/-- Renaming two keys to one of them is adding an edge between their classes. -/
theorem Represents.merge [DecidableEq κ] {a b : α} {k l m : κ} (ha : key a = some k)
    (hb : key b = some l) (canonical : m = k ∨ m = l)
    (renamed : ∀ x, key' x = (key x).map fun n => if n = k ∨ n = l then m else n) :
    Represents key' (edges ++ [(a, b)]) where
  agrees := fun e member => by
    rw [renamed, renamed]
    rcases List.mem_append.mp member with old | new
    · rw [represents.agrees e old]
    · rw [List.mem_singleton.mp new, ha, hb]
      simp
  connects := fun x y n hx hy => by
    have old : ∀ {u v : α}, Connected edges u v → Connected (edges ++ [(a, b)]) u v :=
      Connected.mono fun e member => List.mem_append_left _ member
    have joined : Connected (edges ++ [(a, b)]) a b :=
      .rel _ _ (List.mem_append_right _ (List.mem_singleton.mpr rfl))
    -- every node whose key is renamed is connected with `a`
    have near : ∀ u i, key u = some i → i = k ∨ i = l → Connected (edges ++ [(a, b)]) u a := by
      rintro u i hu (rfl | rfl)
      · exact old (represents.connects u a _ hu ha)
      · exact .trans _ _ _ (old (represents.connects u b _ hu hb)) (.symm _ _ joined)
    rw [renamed] at hx hy
    obtain ⟨i, hi, rfl⟩ := Option.map_eq_some_iff.mp hx
    obtain ⟨j, hj, same⟩ := Option.map_eq_some_iff.mp hy
    by_cases inX : i = k ∨ i = l <;> by_cases inY : j = k ∨ j = l
    · exact .trans _ _ _ (near x i hi inX) (.symm _ _ (near y j hj inY))
    · rw [if_pos inX, if_neg inY] at same
      exact absurd (same ▸ canonical) inY
    · rw [if_neg inX, if_pos inY] at same
      exact absurd (same ▸ canonical) inX
    rw [if_neg inX, if_neg inY] at same
    subst same
    exact old (represents.connects x y _ hi hj)

end

end Classes
