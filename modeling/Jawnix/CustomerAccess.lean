import Jawnix.Models

/-!
# The signed-in Customer

The checks of `api.py` that every Customer screen crosses: registration settled,
User Account not replaced, a profile, and for most screens a Customer behind it.
-/
namespace Jawnix

def currentCustomerProfile (db : Db) (userId : Uuid) : Except Fault CustomerProfile :=
  if (db.registration? userId).any (fun r => r.status ≠ .active) then
    .error (.http 409 "Your account setup or review is not complete.")
  else if (db.userAccount? userId).any (fun account => !account.active) then
    .error (.http 403 "This User Account has been replaced.")
  else
    match db.profile? userId with
    | none => .error (.http 404 "Profile was not found.")
    | some profile => .ok profile

def customerDistribution (db : Db) (userId : Uuid) (eventId : Nat) :
    Except Fault (Nat × DistributionEvent) := do
  let profile ← currentCustomerProfile db userId
  match profile.customerId with
  | none => .error (.http 404 "Customer was not found.")
  | some customerId =>
    match db.events.find? (fun e => e.id = eventId && e.customerId = some customerId) with
    | none => .error (.http 404 "Delivered Lead was not found.")
    | some event => .ok (customerId, event)

/-- Feedback words every absence alike. -/
def customerFeedbackDistribution (db : Db) (userId : Uuid) (eventId : Nat) :
    Except Fault (Nat × DistributionEvent) :=
  match customerDistribution db userId eventId with
  | .error (.http 404 _) => .error (.http 404 "No delivered Lead found.")
  | outcome => outcome

end Jawnix
