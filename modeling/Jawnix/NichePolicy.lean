import Jawnix.Models

/-!
# Niche policies

The eligibility clause of `niche_policy.py`. A Customer's policy for a state
replaces the all-states default instead of adding to it; niches are compared
without regard to case, by the database's own `lower`.
-/
namespace Jawnix

def effectiveNiche (mapping : Option SourceNicheMapping) (assignment : Option NicheAssignment) :
    Option String :=
  match mapping with
  | some m => some m.niche
  | none => assignment.map NicheAssignment.niche

def policyScope (policies : List NichePolicyRow) (customerId : Nat) (state : String) : List NichePolicyRow :=
  let own := policies.filter (fun row => row.customerId = customerId)
  let stateOverride := own.any (fun row => row.state = some state)
  own.filter fun row => decide (row.state = some state) || (row.state.isNone && !stateOverride)

def policyClause (casing : Casing) (policies : List NichePolicyRow) (customerId : Nat)
    (niche : Option String) (state : String) : Bool :=
  let scope := policyScope policies customerId state
  let comparable := fun row : NichePolicyRow =>
    niche.any (fun n => casing.sqlLower row.niche = casing.sqlLower n)
  let excluded := scope.any (fun row => row.mode = .exclude && comparable row)
  let hasOnly := scope.any (fun row => row.mode = .only)
  let allowedOnly := scope.any (fun row => row.mode = .only && comparable row)
  !excluded && (!hasOnly || allowedOnly)

end Jawnix
