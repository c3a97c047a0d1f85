import Jawnix.Jobs

/-!
# Portal notification

`delivery.py` and the Resend webhook of `api.py`. The mail provider's answer to
a send is an argument.
-/
namespace Jawnix

def deliveryFailed (now : Instant) (r : LeadRequest) : LeadRequest :=
  { r with
    status := .failed
    statusMessage := "Portal notification failed. The existing Batch Artifact is preserved for retry."
    closedAt := some now }

def unnotified (error : String) (a : BatchArtifact) : BatchArtifact :=
  { a with deliveryStatus := .failed, lastError := error }

variable (db : Db)

def markDeliveryFailed (requestId : Uuid) (error : String) (now : Instant) : Db :=
  let noted :=
    match db.request? requestId with
    | none => db
    | some request =>
      let failed := db.setRequest request.id (deliveryFailed now)
      enqueueJob (enqueueMilestoneEmail failed (deliveryFailed now request) now) .updateNotification
        (some request.id) .empty now
  noted.setArtifact requestId (unnotified (clipped 2000 error))

def delivered (now : Instant) (r : LeadRequest) : LeadRequest :=
  { r with
    status := .delivered
    deliveredAt := some now
    statusMessage := s!"Batch available in the portal; notification emailed to {r.deliveryEmail}." }

def notified (messageId : String) (now : Instant) (a : BatchArtifact) : BatchArtifact :=
  { a with
    deliveryAttempts := a.deliveryAttempts + 1
    deliveryStatus := .sent
    resendMessageId := messageId
    lastError := ""
    sentAt := some now }

/-- `read` is the status the session has of the request, `configured` whether the API key is
set, `response` the provider's message id or error. -/
def deliverAsRead (read : LeadRequest → RequestStatus) (requestId : Uuid) (configured : Bool)
    (response : Except Fault String) (now : Instant) : Except Fault Db :=
  match db.request? requestId, db.artifact? requestId with
  | some request, some artifact =>
    if artifact.deliveryStatus = .sent ∧ read request = .delivered then .ok db
    else if db.files.any (fun f => f.path = artifact.path) = false then
      .error (.runtime s!"Batch artifact is missing: {artifact.path}")
    else if configured = false then .error (.runtime "RESEND_API_KEY is not configured.")
    else
      match response with
      | .error fault => .error fault
      | .ok messageId =>
        let sent := db.setArtifact requestId (notified messageId now)
        let after := sent.setRequest requestId (delivered now)
        .ok (enqueueJob after .updateNotification (some requestId) .empty now)
  | _, _ => .error (.lookup "Request artifact was not found.")

def deliverRequest : Uuid → Bool → Except Fault String → Instant → Except Fault Db :=
  deliverAsRead db LeadRequest.status

inductive ResendEvent where
  | delivered | bounced | complained | failed
  | other (type_ : String)

/-- The event type without its `email.` prefix, for the events that report a failure. -/
def ResendEvent.failure : ResendEvent → Option String
  | .bounced => some "bounced"
  | .complained => some "complained"
  | .failed => some "failed"
  | _ => none

def reportedFailed (kind : String) (now : Instant) (r : LeadRequest) : LeadRequest :=
  { r with status := .failed, statusMessage := s!"Email provider reported {kind}.", closedAt := some now }

def reportedDelivered (a : BatchArtifact) : BatchArtifact :=
  { a with deliveryStatus := .delivered, lastError := "" }

def applyReport (artifact : BatchArtifact) (event : ResendEvent) (now : Instant) : Db :=
  match event, event.failure with
  | .delivered, _ => db.setArtifact artifact.requestId reportedDelivered
  | _, none => db
  | _, some kind =>
    let marked := db.setArtifact artifact.requestId (unnotified ("email." ++ kind))
    match marked.request? artifact.requestId with
    | none => marked
    | some item =>
      let failed := marked.setRequest item.id (reportedFailed kind now)
      enqueueJob (enqueueMilestoneEmail failed (reportedFailed kind now item) now)
        .updateNotification (some item.id) .empty now

/-- A verified report; a repeated event key is acknowledged and ignored. -/
def resendWebhook (eventKey : String) (event : ResendEvent) (messageId : String) (now : Instant) : Db :=
  match db.receipt? "resend" eventKey with
  | some _ => db
  | none =>
    let received :=
      { db with receipts := db.receipts ++ [{ provider := "resend", eventKey, receivedAt := now }] }
    match lookup BatchArtifact.resendMessageId messageId received.artifacts with
    | none => received
    | some artifact => applyReport received artifact event now

end Jawnix
