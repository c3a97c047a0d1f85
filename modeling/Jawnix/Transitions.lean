import Jawnix.Billing
import Jawnix.Fulfillment
import Jawnix.Jobs

/-!
# Administrator transitions

`transition_request` of `transitions.py`: one administrator or Telegram decision
about a Batch Request, under the request's row lock. The activity log entry is
left out.
-/
namespace Jawnix

variable (db : Db) (item r : LeadRequest) (action : RequestAction)

def actionContext : RequestActionContext :=
  { status := item.status
    hasArtifact := (db.artifact? item.id).isSome
    committedDistributions := (db.eventsOf item.id).length }

def approved (now : Instant) (r : LeadRequest) : LeadRequest :=
  { r with status := .approved, approvedAt := some now, statusMessage := "Approved; allocation is queued." }

def retried : LeadRequest :=
  { r with status := .approved, statusMessage := "Retry approved; allocation is queued.", closedAt := none }

def redelivering : LeadRequest :=
  { r with status := .generated, statusMessage := "Portal notification retry queued.", closedAt := none }

def rejected (now : Instant) (r : LeadRequest) : LeadRequest :=
  { r with status := .rejected, statusMessage := "Rejected by admin.", closedAt := some now }

/-- An administrator's cancellation records no closing time. -/
def canceledByAdmin : LeadRequest :=
  { r with status := .canceled, statusMessage := "Canceled by admin." }

/-- The request row after `f`, written about to the Customer and to Telegram. -/
def announce (f : LeadRequest → LeadRequest) (now : Instant) : Db :=
  enqueueJob (enqueueMilestoneEmail (db.setRequest item.id f) (f item) now) .updateNotification
    (some item.id) .empty now

def invalidAction (item : LeadRequest) : Fault :=
  .transition s!"Action {action.name} is not valid while request is {item.status.value}." 409

def transitionFault : Fault → Fault
  | .billing detail statusCode => .transition detail statusCode
  | fault => fault

def applyTransition (now : Instant) : Except Fault Db :=
  match action with
  | .approve => .ok (enqueueJob (announce db item (approved now) now) .fulfillRoundRobin none .empty now)
  | .retry =>
    match reinstateBatchHold db item with
    | .error fault => .error (transitionFault fault)
    | .ok armed => .ok (enqueueJob (announce armed item retried now) .fulfillRoundRobin none .empty now)
  | .retryDelivery =>
    let queued := enqueueJob (db.setRequest item.id redelivering) .updateNotification
      (some item.id) .empty now
    .ok (enqueueJob queued .deliverRequest (some item.id) .empty now)
  | .reject => .ok (releaseBatchHold (announce db item (rejected now) now) item now)
  | .cancel =>
    let noted := enqueueJob (db.setRequest item.id canceledByAdmin) .updateNotification
      (some item.id) .empty now
    .ok (releaseBatchHold noted item now)
  | .regenerate => .error (invalidAction .regenerate item)

def transitionRequest (requestId : Uuid) (action : RequestAction) (now : Instant) : Except Fault Db :=
  match db.request? requestId with
  | none => .error (.transition "Request was not found." 404)
  | some item =>
    if action = .retryDelivery ∧ db.artifact? item.id = none then
      .error (.transition "No generated artifact is available for delivery retry." 409)
    else if action ∉ availableActionNames (actionContext db item) then .error (invalidAction action item)
    else applyTransition db item action now

end Jawnix
