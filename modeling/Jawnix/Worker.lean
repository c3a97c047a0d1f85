import Jawnix.Delivery
import Jawnix.Rotation
import Jawnix.Transitions

/-!
# The job worker

`process_job` of `worker.py`, for the job kinds that write Batch Requests. A job
runs in one transaction; when it raises, that transaction is rolled back and the
failure is recorded in a second one, which other transactions may precede.
-/
namespace Jawnix

structure WorkerEnv where
  platform : Platform
  allocation : AllocationEnv
  rotation : RotationEnv
  resendConfigured : Bool
  resendResponse : Except Fault String
  now : Instant

def Db.job? (db : Db) (id : Nat) : Option Job := lookup Job.id id db.jobs

def jobRequestId (job : Job) : Except Fault Uuid :=
  match job.requestId with
  | some id => .ok id
  | none => .error (.value "badly formed hexadecimal UUID string")

variable (db : Db) (job : Job)

/-- A stale click is not a failure: the keyboard it came from is refreshed. -/
def telegramAction (now : Instant) : Except Fault Db :=
  match job.requestId.bind db.request?, job.payload with
  | none, _ => .error (.lookup "Request was not found.")
  | some request, .action action _ =>
    match transitionRequest db request.id action now with
    | .error (.transition _ _) => .ok (enqueueJob db .updateNotification (some request.id) .empty now)
    | outcome => outcome
  | some request, _ => .ok (enqueueJob db .updateNotification (some request.id) .empty now)

def runJob (env : WorkerEnv) (db : Db) (job : Job) : Except Fault Db :=
  match job.kind with
  | .allocateRequest => do
    let requestId ← jobRequestId job
    let (allocated, _) ← allocateRequest env.platform env.allocation db requestId
    .ok allocated
  | .fulfillRoundRobin => do
    let (served, _) ← fulfillRoundRobin env.platform env.rotation db
    .ok served
  | .deliverRequest => do
    let requestId ← jobRequestId job
    deliverRequest db requestId env.resendConfigured env.resendResponse env.now
  | .telegramAction => telegramAction db job env.now
  -- the other kinds write no Batch Request, hold, Distribution Event or artifact
  | _ => .ok db

def completed (j : Job) : Job := { j with status := .complete, lastError := "" }

def processJob (env : WorkerEnv) (db : Db) (jobId : Nat) : Except Fault Db :=
  match db.job? jobId with
  | none => .ok db
  | some job => do
    let worked ← runJob env db job
    .ok (worked.setJob jobId completed)

def generationFailed (now : Instant) (r : LeadRequest) : LeadRequest :=
  { r with
    status := .failed
    statusMessage := "Batch generation failed; no partial allocation was committed."
    closedAt := some now }

def telegramDecisionJobKinds : List JobKind :=
  [.telegramAction, .other "telegram_anomaly_action", .other "telegram_inventory_conflict_action",
   .other "telegram_recommendation_action", .other "telegram_exclusion_action"]

def notifyRequestJobKinds : List JobKind := [.notifyRequest, .updateNotification, .licensedStatesChanged]

def alertsOnFailure (kind : JobKind) : Bool :=
  decide (kind ∈ telegramDecisionJobKinds ++ notifyRequestJobKinds)

/-- The job row after a failure: rescheduled if the error was transient and its kind is
retried, failed otherwise. -/
def failedJob (error : String) (retryAt : Option Instant) (j : Job) : Job :=
  match retryAt with
  | some runAfter =>
    { j with status := .queued, runAfter, lockedAt := none, lockedBy := "", lastError := clipped 4000 error }
  | none => { j with status := .failed, lastError := clipped 4000 error }

def alertOperators (now : Instant) : Db :=
  if alertsOnFailure job.kind ∧ job.failureNotificationJobId = none then
    (enqueueJob db (.other "notify_telegram_action_failure") none .empty now).setJob job.id
      (fun j => { j with failureNotificationJobId := some (db.jobSeq + 1) })
  else db

def failRequest (request : LeadRequest) (error : String) (now : Instant) : Db :=
  match job.kind with
  | .allocateRequest =>
    let failed := db.setRequest request.id (generationFailed now)
    let released := releaseBatchHold failed request now
    enqueueJob (enqueueMilestoneEmail released (generationFailed now request) now) .updateNotification
      (some request.id) .empty now
  | .deliverRequest => markDeliveryFailed
      (db.setRequest request.id (deliveryFailed now)) request.id error now
  | _ => db

/-- The second transaction. `retryAt` is the time of the next attempt of a job that is
retried; allocations and deliveries never are. -/
def handleFailure (jobId : Nat) (error : String) (retryAt : Option Instant) (now : Instant) : Db :=
  match db.job? jobId with
  | none => db
  | some job =>
    if retryAt.isSome ∧ job.kind ≠ .allocateRequest ∧ job.kind ≠ .deliverRequest then
      db.setJob jobId (failedJob error retryAt)
    else
      let recorded := alertOperators (db.setJob jobId (failedJob error none)) job now
      match job.requestId.bind recorded.request? with
      | none => recorded
      | some request => failRequest recorded job request error now

/-- What the work of a job raised, as far as the handler tells exceptions apart. -/
inductive JobException where
  | importInterrupted
  | emitTransient (message : String)
  | telegramTransient (message : String) (retryAfter : Option Int)
  | other (message : String)
  deriving DecidableEq

def JobException.message : JobException → String
  | .importInterrupted => "CSV import was interrupted by a database connection error."
  | .emitTransient message | .telegramTransient message _ | .other message => message

def Fault.message : Fault → String
  | .billing detail _ | .transition detail _ | .submission detail _ | .http _ detail => detail
  | .runtime message | .lookup message | .value message | .type message | .review message
  | .stale message | .assignment message | .integrity message | .control message
  | .access message _ => message

/-- The delay of the attempt's place in the table, the last one for every later attempt. -/
def retryDelay (delays : List Int) (attempts : Nat) : Int :=
  seconds (delays.getD (min (attempts - 1) (delays.length - 1)) 0)

def emitMaxAttempts : Nat := 10
def emitRetryDelay (attempts : Nat) : Int := retryDelay [60, 300, 900, 1800, 3600] attempts
def telegramNotifyMaxAttempts : Nat := 10
def telegramRetryDelay (attempts : Nat) : Int := retryDelay [30, 60, 300, 900, 1800] attempts

/-- `INGESTION_JOB_TARGETS` -/
def ingestionJobKinds : List JobKind := [.other "ingest_exclusion_list", .other "ingest_niche_assignments"]

variable (exc : JobException)

def retryAt (now : Instant) : Option Instant :=
  match exc with
  | .emitTransient _ =>
    if job.kind = .emitLeadAssigned ∧ job.attempts < emitMaxAttempts then
      some (now + emitRetryDelay job.attempts)
    else ingestion
  | .telegramTransient _ retryAfter =>
    if job.kind ∈ notifyRequestJobKinds ∧ job.attempts < telegramNotifyMaxAttempts then
      -- an absent or zero Retry-After falls back to the table
      some (now + (if retryAfter.getD 0 ≠ 0 then retryAfter.getD 0 else telegramRetryDelay job.attempts))
    else ingestion
  | _ => ingestion
where
  ingestion : Option Instant :=
    if job.kind ∈ ingestionJobKinds ∧ job.attempts < 3 then
      some (now + seconds (30 * 2 ^ (job.attempts - 1))) else none

def importRetried (job : Job) : Bool :=
  decide (exc = .importInterrupted ∧ job.attempts < 4)

def interruptedUpload (retry : Bool) (u : LeadUpload) : LeadUpload :=
  { u with
    status := if retry then .queued else .failed
    error := if retry then "Import interrupted. It will retry automatically." else
      "Import interrupted. Retry this upload." }

def interruptedImport (retry : Bool) (now : Instant) (j : Job) : Job :=
  { j with
    status := if retry then .queued else .failed
    lastError := "CSV import was interrupted."
    lockedAt := none
    lockedBy := ""
    runAfter := now + seconds (30 * 2 ^ min j.attempts 4) }

/-- An import whose upload was published by another worker has succeeded. -/
def importFailed (now : Instant) : Db :=
  match job.payload with
  | .upload uploadId =>
    if (db.upload? uploadId).any (fun u => u.status = .complete) then db.setJob job.id completed
    else
      let retry := importRetried exc job
      (db.setJob job.id (interruptedImport retry now)).setUpload uploadId (interruptedUpload retry)
  -- `job.payload["upload_id"]` raises and the transaction is rolled back
  | _ => db

def recordFailure (jobId : Nat) (exc : JobException) (now : Instant) : Db :=
  match db.job? jobId with
  | none => db
  | some job =>
    if job.kind = .importLeadUpload then importFailed db job exc now
    else handleFailure db jobId exc.message (retryAt job exc now) now

end Jawnix
