import Mathlib.Data.List.Sort
import Jawnix.Models

/-!
# The job queue

`enqueue_job` and `claim_next_job` of `jobs.py`, and the milestone e-mails of
`milestone_emails.py` that go through the queue. A claim takes a job that is due, or
one whose worker has not been heard of for the lock timeout.
-/
namespace Jawnix

def enqueueJob (db : Db) (kind : JobKind) (requestId : Option Uuid) (payload : JobPayload)
    (now : Instant) : Db :=
  { db with
    jobs := db.jobs ++ [{ id := db.jobSeq + 1, kind, requestId, payload, runAfter := now }]
    jobSeq := db.jobSeq + 1 }

def milestoneByStatus : RequestStatus → Option Milestone
  | .approved => some .approval
  | .waitingInventory => some .waitingInventory
  | .rejected => some .rejection
  | .failed => some .failure
  | .canceled => some .canceled
  | _ => none

def enqueueMilestoneEmail (db : Db) (request : LeadRequest) (now : Instant) : Db :=
  match milestoneByStatus request.status with
  | none => db
  | some milestone =>
    if db.jobs.any (fun j => decide (j.kind = .milestoneEmail ∧ j.requestId = some request.id ∧
        j.payload = .milestone milestone)) then db
    else enqueueJob db .milestoneEmail (some request.id) (.milestone milestone) now

inductive WorkerLane where
  | default | metrics | fulfillment | notifications | maintenance | imports
  deriving DecidableEq

def metricsJobKinds : List JobKind := [.emitLeadAssigned]
def importJobKinds : List JobKind := [.importLeadUpload]

def fulfillmentJobKinds : List JobKind :=
  [.allocateRequest, .fulfillRoundRobin, .telegramAction, .other "telegram_inventory_conflict_action"]

def notificationJobKinds : List JobKind :=
  [.notifyRequest, .updateNotification, .licensedStatesChanged, .deliverRequest, .milestoneEmail,
   .other "notify_nightly_review", .other "update_nightly_review_notification",
   .other "notify_telegram_action_failure"]

variable (lane : WorkerLane)

def laneFilter (kind : JobKind) : Bool :=
  match lane with
  | .metrics => kind ∈ metricsJobKinds
  | .fulfillment => kind ∈ fulfillmentJobKinds
  | .notifications => kind ∈ notificationJobKinds
  | .imports => kind ∈ importJobKinds
  | .maintenance =>
    decide (kind ∉ metricsJobKinds ++ fulfillmentJobKinds ++ notificationJobKinds ++ importJobKinds)
  | .default => kind ∉ metricsJobKinds

/-- A job is due on the worker's lane. The metrics lane has a single kind and never gives way. -/
def higherPriorityJobWaiting (db : Db) (lane : WorkerLane) (now : Instant) : Bool :=
  if lane = .metrics then false
  else db.jobs.any fun j => decide (j.status = .queued ∧ j.runAfter ≤ now) && laneFilter lane j.kind

def claimable (lockTimeout : Int) (now : Instant) (j : Job) : Bool :=
  laneFilter lane j.kind && (decide (j.status = .queued ∧ j.runAfter ≤ now) ||
      decide (j.status = .running ∧ ∃ since ∈ j.lockedAt, since ≤ now - lockTimeout))

/-- `ORDER BY run_after, id`, on the notification lane after the deliveries. -/
def claimOrder (j : Job) : List Int :=
  (if lane = .notifications then [if j.kind = .deliverRequest then 0 else 1] else []) ++
    [j.runAfter, (j.id : Int)]

def claimed (workerId : String) (now : Instant) (j : Job) : Job :=
  { j with status := .running, lockedAt := some now, lockedBy := workerId, attempts := j.attempts + 1 }

/-- `lockedElsewhere` are the rows other transactions hold; they are skipped. -/
def claimNextJob (db : Db) (workerId : String) (lockTimeout : Int) (lane : WorkerLane)
    (lockedElsewhere : List Nat) (now : Instant) : Option (Db × Nat) :=
  let ready := db.jobs.filter (fun j => claimable lane lockTimeout now j && j.id ∉ lockedElsewhere)
  (ready.insertionSort fun a b => decide (List.le (claimOrder lane a) (claimOrder lane b))).head?.map
    (fun job => (db.setJob job.id (claimed workerId now), job.id))

theorem claimNextJob_some {db db' : Db} {workerId : String} {lockTimeout : Int} {lane : WorkerLane}
    {lockedElsewhere : List Nat} {now : Instant} {id : Nat}
    (done : claimNextJob db workerId lockTimeout lane lockedElsewhere now = some (db', id)) :
    ∃ job ∈ db.jobs, job.id = id ∧ claimable lane lockTimeout now job ∧
    db' = db.setJob id (claimed workerId now) := by
  obtain ⟨job, first, same⟩ := map_eq_some_iff.mp done
  cases same
  have kept := mem_filter.mp ((List.mem_insertionSort _).mp (List.mem_of_mem_head? first))
  exact ⟨job, kept.1, rfl, (and_eq_true _ _ ▸ kept.2).1, rfl⟩

def Db.OnlyJobs (db db' : Db) : Prop := ∃ jobs jobSeq, db' = { db with jobs, jobSeq }

theorem enqueueJob_onlyJobs (db : Db) (kind : JobKind) (requestId : Option Uuid) (payload : JobPayload)
    (now : Instant) : db.OnlyJobs (enqueueJob db kind requestId payload now) := ⟨_, _, rfl⟩

theorem Db.OnlyJobs.refl (db : Db) : db.OnlyJobs db := ⟨db.jobs, db.jobSeq, rfl⟩

theorem Db.OnlyJobs.trans {a b c : Db} (first : a.OnlyJobs b) (second : b.OnlyJobs c) : a.OnlyJobs c := by
  obtain ⟨jobs, seq, rfl⟩ := first
  obtain ⟨jobs', seq', rfl⟩ := second
  exact ⟨jobs', seq', rfl⟩

theorem enqueueMilestoneEmail_onlyJobs (db : Db) (request : LeadRequest) (now : Instant) :
    db.OnlyJobs (enqueueMilestoneEmail db request now) := by
  unfold enqueueMilestoneEmail
  split
  · exact .refl db
  split
  · exact .refl db
  · exact enqueueJob_onlyJobs _ _ _ _ _

end Jawnix
