import Mathlib.Data.Set.Function

/-!
# Seats that are handed over

Seats are held by holders and offered to successors. A free seat is granted at
once; a held one is offered first and changes hands when the offer is accepted,
in one move. A holder has one seat and a seat one holder, and so it is with
offers, as long as nobody is offered a seat while holding another.
-/
namespace Seats

variable {ι κ : Type*}

structure State (ι κ : Type*) where
  held : Set (ι × κ)
  offered : Set (ι × κ)

inductive Label (ι κ : Type*) where
  | idle
  | grant (x : ι) (c : κ)
  | offer (x : ι) (c : κ)
  | accept (x : ι) (c : κ)
  | withdraw (c : κ)

/-- Nobody else's: `x` holds no other seat and has no offer of another. -/
structure Free (s : State ι κ) (x : ι) (c : κ) : Prop where
  held : ∀ d, (x, d) ∈ s.held → d = c
  offered : ∀ d, (x, d) ∈ s.offered → d = c

inductive Move (s : State ι κ) : Label ι κ → State ι κ → Prop
  | idle : Move s .idle s
  | grant {x : ι} {c : κ} (free : Free s x c) (vacant : ∀ y, (y, c) ∉ s.held) :
      Move s (.grant x c) { s with held := insert (x, c) s.held }
  | offer {x : ι} {c : κ} (free : Free s x c) (unoffered : ∀ y, (y, c) ∉ s.offered) :
      Move s (.offer x c) { s with offered := insert (x, c) s.offered }
  | accept {x : ι} {c : κ} (offered : (x, c) ∈ s.offered) :
      Move s (.accept x c)
        { held := insert (x, c) {p | p ∈ s.held ∧ p.1 ≠ x ∧ p.2 ≠ c}, offered := s.offered \ {(x, c)} }
  | withdraw {c : κ} : Move s (.withdraw c) { s with offered := {p | p ∈ s.offered ∧ p.2 ≠ c} }

structure Exclusive (s : State ι κ) : Prop where
  holder : s.held.InjOn Prod.snd
  seat : s.held.InjOn Prod.fst
  successor : s.offered.InjOn Prod.snd
  prospect : s.offered.InjOn Prod.fst
  apart : ∀ x c d, (x, c) ∈ s.offered → (x, d) ∈ s.held → c = d

variable {s t : State ι κ} {label : Label ι κ}

/-- A new element keeps a map injective if it shares its value with no other. -/
theorem injOn_insert_of {α β : Type*} {f : α → β} {a : α} {xs : Set α} (injective : xs.InjOn f)
    (apart : ∀ x ∈ xs, f x = f a → x = a) : (insert a xs).InjOn f := by
  rintro x (rfl | first) y (rfl | second) same
  · rfl
  · exact (apart y second same.symm).symm
  · exact apart x first same
  · exact injective first second same

section
variable (exclusive : Exclusive s)
include exclusive

theorem Exclusive.fewer_offers {offered : Set (ι × κ)} (fewer : offered ⊆ s.offered) :
    Exclusive { s with offered } where
  holder := exclusive.holder
  seat := exclusive.seat
  successor := exclusive.successor.mono fewer
  prospect := exclusive.prospect.mono fewer
  apart x c d offer held := exclusive.apart x c d (fewer offer) held

theorem Exclusive.grant {x : ι} {c : κ} (free : Free s x c) (vacant : ∀ y, (y, c) ∉ s.held) :
    Exclusive { s with held := insert (x, c) s.held } where
  holder := by
    refine injOn_insert_of exclusive.holder fun ⟨y, d⟩ held same => ?_
    cases same
    exact absurd held (vacant y)
  seat := by
    refine injOn_insert_of exclusive.seat fun ⟨y, d⟩ held same => ?_
    cases same
    exact congrArg (Prod.mk x) (free.held d held)
  successor := exclusive.successor
  prospect := exclusive.prospect
  apart y d e offer held := by
    rcases held with here | held
    · cases here
      exact free.offered d offer
    · exact exclusive.apart y d e offer held

theorem Exclusive.offer {x : ι} {c : κ} (free : Free s x c)
    (unoffered : ∀ y, (y, c) ∉ s.offered) : Exclusive { s with offered := insert (x, c) s.offered } where
  holder := exclusive.holder
  seat := exclusive.seat
  successor := by
    refine injOn_insert_of exclusive.successor fun ⟨y, d⟩ offered same => ?_
    cases same
    exact absurd offered (unoffered y)
  prospect := by
    refine injOn_insert_of exclusive.prospect fun ⟨y, d⟩ offered same => ?_
    cases same
    exact congrArg (Prod.mk x) (free.offered d offered)
  apart y d e offer held := by
    rcases offer with here | offer
    · cases here
      exact (free.held e held).symm
    · exact exclusive.apart y d e offer held

theorem Exclusive.accept {x : ι} {c : κ} (offered : (x, c) ∈ s.offered) :
    Exclusive
    { held := insert (x, c) {p | p ∈ s.held ∧ p.1 ≠ x ∧ p.2 ≠ c}, offered := s.offered \ {(x, c)} }
    where
  holder := injOn_insert_of (exclusive.holder.mono fun _ kept => kept.1) fun _ kept same =>
    absurd same kept.2.2
  seat := injOn_insert_of (exclusive.seat.mono fun _ kept => kept.1) fun _ kept same => absurd same kept.2.1
  successor := exclusive.successor.mono Set.sdiff_subset
  prospect := exclusive.prospect.mono Set.sdiff_subset
  apart y d e offer held := by
    rcases held with here | ⟨held, _, _⟩
    · cases here
      exact congrArg Prod.snd (exclusive.prospect offer.1 offered rfl)
    · exact exclusive.apart y d e offer.1 held

end

theorem Move.exclusive (move : Move s label t) (exclusive : Exclusive s) : Exclusive t := by
  cases move with
  | idle => exact exclusive
  | grant free vacant => exact exclusive.grant free vacant
  | offer free unoffered => exact exclusive.offer free unoffered
  | accept offered => exact exclusive.accept offered
  | withdraw => exact exclusive.fewer_offers fun p inside => inside.1

theorem Move.kept (move : Move s label t) (exclusive : Exclusive s) {y : ι} {c : κ}
    (held : (y, c) ∈ s.held) :
    (y, c) ∈ t.held ∨ ∃ x, label = .accept x c ∧ (x, c) ∈ s.offered ∧ (x, c) ∈ t.held := by
  cases move with
  | idle => exact .inl held
  | grant free vacant => exact .inl (Set.mem_insert_of_mem _ held)
  | offer free unoffered => exact .inl held
  | @accept x d offered =>
    by_cases here : c = d
    · subst here
      exact .inr ⟨x, rfl, offered, Set.mem_insert _ _⟩
    refine .inl (Set.mem_insert_of_mem _ ⟨held, fun same => here ?_, here⟩)
    change y = x at same
    subst same
    exact (exclusive.apart y d c offered held).symm
  | withdraw => exact .inl held

end Seats
