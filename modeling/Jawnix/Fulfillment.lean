import Jawnix.Models

/-!
# The table of administrator actions

`ACTIONS` of `fulfillment.py`. The administrator screen, the Telegram keyboard and
`transition_request` ask the same table which actions a Batch Request may be given.
Labels and confirmation texts are left out.
-/
namespace Jawnix

/-- Everything the table needs to decide what a Batch Request may offer. -/
structure RequestActionContext where
  status : RequestStatus
  hasArtifact : Bool := false
  artifactAvailable : Bool := false
  committedDistributions : Nat := 0
  distributionComplete : Bool := false

structure FulfillmentAction where
  action : RequestAction
  /-- Statuses the transition accepts; empty for an action that is no status transition. -/
  fromStatuses : List RequestStatus := []
  precondition : RequestActionContext → Bool := fun _ => true

def approveAction : FulfillmentAction := { action := .approve, fromStatuses := [.pending] }

/-- Only the exact artifact may be sent again once there is one. -/
def retryAction : FulfillmentAction :=
  { action := .retry, fromStatuses := [.waitingInventory, .failed],
    precondition := fun ctx => !ctx.hasArtifact }

def retryDeliveryAction : FulfillmentAction :=
  { action := .retryDelivery, fromStatuses := [.failed], precondition := fun ctx => ctx.hasArtifact }

def regenerateAction : FulfillmentAction :=
  { action := .regenerate
    precondition := fun ctx => ctx.hasArtifact && !ctx.artifactAvailable && ctx.distributionComplete }

def rejectAction : FulfillmentAction := { action := .reject, fromStatuses := [.pending, .waitingInventory] }

def cancelAction : FulfillmentAction :=
  { action := .cancel
    fromStatuses := [.pending, .approved, .waitingInventory]
    precondition := fun ctx => decide (ctx.committedDistributions = 0) }

/-- Declaration order is offer order. -/
def actions : List FulfillmentAction :=
  [approveAction, retryAction, retryDeliveryAction, regenerateAction, rejectAction, cancelAction]

def isOffered (action : FulfillmentAction) (ctx : RequestActionContext) : Bool :=
  if action.fromStatuses ≠ [] ∧ ctx.status ∉ action.fromStatuses then false else action.precondition ctx

variable (ctx : RequestActionContext)

def availableActions : List FulfillmentAction := actions.filter (isOffered · ctx)

def availableActionNames : List RequestAction :=
  (availableActions ctx).map FulfillmentAction.action

def Offered : RequestAction → Prop
  | .approve => ctx.status = .pending
  | .retry => (ctx.status = .waitingInventory ∨ ctx.status = .failed) ∧ ctx.hasArtifact = false
  | .retryDelivery => ctx.status = .failed ∧ ctx.hasArtifact
  | .regenerate => ctx.hasArtifact ∧ ctx.artifactAvailable = false ∧ ctx.distributionComplete
  | .reject => ctx.status = .pending ∨ ctx.status = .waitingInventory
  | .cancel => (ctx.status = .pending ∨ ctx.status = .approved ∨ ctx.status = .waitingInventory) ∧
      ctx.committedDistributions = 0

theorem mem_availableActionNames {ctx : RequestActionContext} {action : RequestAction} :
    action ∈ availableActionNames ctx ↔ Offered ctx action := by
  cases action <;>
    simp [availableActionNames, availableActions, actions, isOffered, Offered, approveAction,
      retryAction, retryDeliveryAction, regenerateAction, rejectAction, cancelAction, and_assoc]

end Jawnix
