import Jawnix.LifecycleRuns

/-!
# Workers that share a job

A worker whose lock has timed out goes on with a job that another worker has claimed
meanwhile. Each of them runs the work of the job in one transaction and, if that
raises, the failure handler in a second one. The steps of a race are these
transactions, the claims, and whatever else is committed between them. The two kinds
of Telegram notice that post between two transactions of their own have no failure
handler and are not part of a race.
-/
namespace Jawnix

inductive Execution where
  | working
  | raised (exc : JobException)
  | ended

structure Race where
  db : Db
  /-- The executions of the job, in the order of their claims. -/
  executions : List Execution := []
  /-- Requests that an execution left behind as generated or delivered. -/
  served : List Uuid := []

inductive RaceOp where
  | claim (workerId : String) (lockTimeout : Int) (lane : WorkerLane) (lockedElsewhere : List Nat)
      (now : Instant)
  | work (execution : Nat) (env : WorkerEnv)
  /-- The work of a kind that writes none of the lifecycle tables, with what it commits. -/
  | commit (execution : Nat) (tables : Db)
  | raise (execution : Nat) (exc : JobException)
  | handle (execution : Nat) (now : Instant)
  | elsewhere (tables : Db)

def RaceOp.handler? : RaceOp → Option Nat
  | .handle i _ => some i
  | _ => none

def Race.raised? (s : Race) (i : Nat) : Option JobException :=
  match s.executions[i]? with
  | some (.raised exc) => some exc
  | _ => none

def lifecycleKinds : List JobKind := [.allocateRequest, .fulfillRoundRobin, .deliverRequest, .telegramAction]

/-- The kinds that `process_job` hands to a function of their own. -/
def noticeKinds : List JobKind := [.other "notify_nightly_review", .other "notify_telegram_action_failure"]

def servedStatuses : List RequestStatus := [.generated, .delivered]

def servedRequests (db : Db) : List Uuid :=
  (db.requests.filter fun r => r.status ∈ servedStatuses).map LeadRequest.id

def Race.ends (s : Race) (i : Nat) (db : Db) : Race :=
  { db, executions := s.executions.set i .ended, served := s.served ++ servedRequests db }

variable (jobId : Nat) (db : Db)

def LeavesJob (tables : Db) : Prop := QueueSchema tables ∧ tables.job? jobId = db.job? jobId
  deriving Decidable

/-- The end of the work of a kind outside the lifecycle. A milestone e-mail is not sent again, and
its job is left as it is. -/
def finishWork (job : Job) (db tables : Db) : Db :=
  if job.kind = .milestoneEmail ∧ job.status = .complete then db else tables.setJob job.id completed

def raceStep (s : Race) (op : RaceOp) : Race :=
  match op with
  | .claim workerId lockTimeout lane lockedElsewhere now =>
    match claimNextJob s.db workerId lockTimeout lane lockedElsewhere now with
    | none => s
    | some (db, id) =>
      { s with db, executions := if id = jobId then s.executions ++ [.working] else s.executions }
  | .work i env =>
    match s.executions[i]?, s.db.job? jobId with
    | some .working, some job =>
      if job.kind ∈ lifecycleKinds then
        match processJob env s.db jobId with
        | .ok db => s.ends i db
        | .error fault => { s with executions := s.executions.set i (.raised (.other fault.message)) }
      else s
    | _, _ => s
  | .commit i tables =>
    match s.executions[i]?, s.db.job? jobId with
    | some .working, some job =>
      if job.kind ∉ lifecycleKinds ++ noticeKinds ∧ LeavesJob jobId s.db tables then
        s.ends i (finishWork job s.db tables)
      else s
    | _, _ => s
  | .raise i exc =>
    match s.executions[i]?, s.db.job? jobId with
    | some .working, some job =>
      if job.kind ∈ noticeKinds then s else { s with executions := s.executions.set i (.raised exc) }
    | _, _ => s
  | .handle i now =>
    match s.raised? i with
    | some exc => { s with db := recordFailure s.db jobId exc now, executions := s.executions.set i .ended }
    | none => s
  | .elsewhere tables => if LeavesJob jobId s.db tables then { s with db := tables } else s

def Reopens (after : Db) : Prop :=
  ∃ job ∈ db.job? jobId, job.status = .complete ∧ ∃ job' ∈ after.job? jobId, job'.status = .queued ∨
    job'.status = .failed
  deriving Decidable

def FailsServed (served : List Uuid) (db after : Db) : Prop :=
  ∃ id ∈ served, ∃ r ∈ db.request? id, r.status ∈ servedStatuses ∧ ∃ r' ∈ after.request? id,
    r'.status = .failed
  deriving Decidable

def SafeStep (s : Race) (op : RaceOp) : Prop :=
  ¬Reopens jobId s.db (raceStep jobId s op).db ∧
    (op.handler?.isSome → ¬FailsServed s.served s.db (raceStep jobId s op).db)

def uploadOf? : JobPayload → Option Uuid
  | .upload uploadId => some uploadId
  | _ => none

/-- The handler of an import asks whether the upload was published; no other handler asks. -/
def HandlerAsks (job : Job) : Prop :=
  job.kind = .importLeadUpload ∧ ∀ uploadId ∈ uploadOf? job.payload, ∃ u ∈ db.upload? uploadId,
    u.status = .complete
  deriving Decidable

/-- No failure transaction starts once the job is complete, an import's apart. -/
def RaceGuard (s : Race) (op : RaceOp) : Prop :=
  ∀ i ∈ op.handler?, ∀ _exc ∈ s.raised? i, ∀ job ∈ s.db.job? jobId, job.status = .complete →
    HandlerAsks s.db job
  deriving Decidable

def Done : Prop := ∃ job ∈ db.job? jobId, job.status = .complete

section
variable {db after : Db} {jobId : Nat} {job : Job} (error : String) (retryAt : Option Instant)

theorem failedJob_id (j : Job) : (failedJob error retryAt j).id = j.id := by
  unfold failedJob
  split <;> rfl

theorem failedJob_status (j : Job) : (failedJob error retryAt j).status = .queued ∨
    (failedJob error retryAt j).status = .failed := by
  unfold failedJob
  split
  · exact .inl rfl
  · exact .inr rfl

theorem alertOperators_schema (job : Job) (now : Instant) (schema : QueueSchema db) :
    QueueSchema (alertOperators db job now) := by
  unfold alertOperators
  split
  · exact setJob_schema (f := fun j => { j with failureNotificationJobId := some (db.jobSeq + 1) })
      (fun _ => rfl) _
      ((enqueueJob_enqueues _ _ _ _ _).schema schema)
  · exact schema

theorem alertOperators_status (found : db.job? jobId = some job) (failed : Job) (now : Instant) :
    ∃ job' ∈ (alertOperators db failed now).job? jobId, job'.status = job.status := by
  unfold alertOperators
  split
  · have queued :=
      (enqueueJob_enqueues db (.other "notify_telegram_action_failure") none .empty now).job? found
    have looked : lookup Job.id jobId (adjust Job.id failed.id
        (fun j => { j with failureNotificationJobId := some (db.jobSeq + 1) })
        (enqueueJob db (.other "notify_telegram_action_failure") none .empty now).jobs) = _ :=
      lookup_adjust fun _ _ => rfl
    rw [show lookup Job.id jobId _ = some job from queued] at looked
    split at looked <;> exact ⟨_, looked, rfl⟩
  · exact ⟨job, found, rfl⟩

theorem handleFailure_schema (now : Instant) (schema : QueueSchema db) :
    QueueSchema (handleFailure db jobId error retryAt now) := by
  unfold handleFailure
  split
  · exact schema
  case h_2 job _ =>
  split
  · exact setJob_schema (failedJob_id error retryAt) jobId schema
  have recorded := alertOperators_schema job now (setJob_schema (failedJob_id error none) jobId schema)
  simp only
  split
  · exact recorded
  · exact (failRequest_performs (C := True)).queue.schema recorded

theorem handleFailure_status (now : Instant) (found : db.job? jobId = some job) :
    ∃ job' ∈ (handleFailure db jobId error retryAt now).job? jobId, job'.status = .queued ∨
    job'.status = .failed := by
  have marked : ∀ retryAt, (db.setJob jobId (failedJob error retryAt)).job? jobId =
    some (failedJob error retryAt job) := by
    intro retryAt
    rw [setJob_job? (failedJob_id error retryAt), found, map_some]
  unfold handleFailure
  rw [found]
  simp only
  split
  · exact ⟨_, marked retryAt, failedJob_status error retryAt job⟩
  obtain ⟨job', recorded, status⟩ := alertOperators_status (marked none) job now
  have failed := failedJob_status error none job
  rw [← status] at failed
  split
  · exact ⟨job', recorded, failed⟩
  · exact ⟨job', (failRequest_performs (C := True)).queue.job? recorded, failed⟩

theorem interruptedImport_id (retry : Bool) (now : Instant) (j : Job) :
    (interruptedImport retry now j).id = j.id := rfl

theorem importFailed_schema (job : Job) (exc : JobException) (now : Instant)
    (schema : QueueSchema db) : QueueSchema (importFailed db job exc now) := by
  unfold importFailed
  split
  · split
    · exact setJob_schema completed_id job.id schema
    have marked := setJob_schema (interruptedImport_id (importRetried exc job) now) job.id schema
    exact ⟨marked.keyed, marked.numbered⟩
  · exact schema

theorem recordFailure_schema (jobId : Nat) (exc : JobException) (now : Instant)
    (schema : QueueSchema db) : QueueSchema (recordFailure db jobId exc now) := by
  unfold recordFailure
  split
  · exact schema
  split
  · exact importFailed_schema _ exc now schema
  · exact handleFailure_schema _ _ now schema

theorem recordFailure_asks (exc : JobException) (now : Instant) (found : db.job? jobId = some job)
    (complete : job.status = .complete) (asks : HandlerAsks db job) :
    Done jobId (recordFailure db jobId exc now) ∧ (recordFailure db jobId exc now).requests =
    db.requests := by
  have named : job.id = jobId := (lookup_some found).2
  unfold recordFailure
  rw [found]
  simp only [asks.1, if_true]
  unfold importFailed
  split
  case h_1 uploadId payload =>
    obtain ⟨u, stored, published⟩ := asks.2 uploadId (by rw [payload]; rfl)
    rw [if_pos (by simpa [mem_def.mp stored] using published), named]
    exact ⟨⟨completed job, setJob_completed found, rfl⟩, rfl⟩
  · exact ⟨⟨job, found, complete⟩, rfl⟩

theorem recordFailure_reopens (exc : JobException) (now : Instant)
    (found : db.job? jobId = some job) (blind : ¬HandlerAsks db job) :
    ∃ job' ∈ (recordFailure db jobId exc now).job? jobId, job'.status = .queued ∨ job'.status = .failed := by
  have named : job.id = jobId := (lookup_some found).2
  unfold recordFailure
  rw [found]
  simp only
  split
  case isFalse => exact handleFailure_status _ _ now found
  case isTrue isImport =>
  unfold importFailed
  split
  case h_1 uploadId payload =>
    split
    case isTrue published =>
      refine absurd ⟨isImport, fun id same => ?_⟩ blind
      rw [payload] at same
      cases same
      obtain ⟨u, stored, status⟩ := (Option.any_eq_true _ _).mp published
      exact ⟨u, stored, of_decide_eq_true status⟩
    case isFalse =>
    refine ⟨interruptedImport (importRetried exc job) now job, ?_,
      by cases importRetried exc job <;> simp [interruptedImport]⟩
    have marked := setJob_job? (interruptedImport_id (importRetried exc job) now) db jobId
    rw [found, map_some] at marked
    rw [named]
    exact marked
  case h_2 other =>
  refine absurd ⟨isImport, fun id same => ?_⟩ blind
  unfold uploadOf? at same
  split at same
  case h_1 uploadId payload => exact absurd payload (other uploadId)
  · cases same

end

section
variable {jobId : Nat} {s : Race} {op : RaceOp}

theorem LeavesJob.done {db tables : Db} (leaves : LeavesJob jobId db tables)
    (done : Done jobId db) : Done jobId tables := by
  obtain ⟨job, found, complete⟩ := done
  exact ⟨job, leaves.2.trans found, complete⟩

theorem processJob_done {env : WorkerEnv} {db after : Db} {job : Job}
    (found : db.job? jobId = some job) (schema : QueueSchema db)
    (done : processJob env db jobId = .ok after) : QueueSchema after ∧ Done jobId after := by
  unfold processJob at done
  rw [found] at done
  obtain ⟨worked, works, last⟩ := bind_ok done
  cases last
  obtain ⟨_, serves⟩ := runJob_performs works
  have enqueues := serves.queue
  exact ⟨setJob_schema completed_id jobId (enqueues.schema schema), completed job,
    setJob_completed (enqueues.job? found), rfl⟩

theorem finishWork_done {db tables : Db} {job : Job} (found : db.job? jobId = some job)
    (schema : QueueSchema db) (leaves : LeavesJob jobId db tables) :
    QueueSchema (finishWork job db tables) ∧ Done jobId (finishWork job db tables) := by
  have named : job.id = jobId := (lookup_some found).2
  unfold finishWork
  split
  case isTrue sent => exact ⟨schema, job, found, sent.2⟩
  case isFalse =>
  rw [named]
  exact ⟨setJob_schema completed_id jobId leaves.1, completed job,
    setJob_completed (leaves.2.trans found), rfl⟩

theorem claimed_id (workerId : String) (now : Instant) (j : Job) : (claimed workerId now j).id = j.id := rfl

theorem claimNextJob_done {db after : Db} {workerId : String} {lockTimeout : Int} {lane : WorkerLane}
    {lockedElsewhere : List Nat} {now : Instant} {id : Nat} (schema : QueueSchema db) (done : Done jobId db)
    (claims : claimNextJob db workerId lockTimeout lane lockedElsewhere now = some (after, id)) :
    Done jobId after := by
  obtain ⟨job, stored, rfl, ready, rfl⟩ := claimNextJob_some claims
  obtain ⟨own, found, complete⟩ := done
  have other : jobId ≠ job.id := by
    intro same
    have looked : db.job? job.id = some job := lookup_of_mem schema.keyed stored
    rw [← same, mem_def.mp found] at looked
    cases looked
    simp [claimable, complete] at ready
  refine ⟨own, ?_, complete⟩
  have kept : lookup Job.id jobId (adjust Job.id job.id (claimed workerId now) db.jobs) = _ :=
    lookup_adjust_of_ne (fun j _ => claimed_id workerId now j) other
  exact kept.trans found

theorem raceStep_cases (schema : QueueSchema s.db) (guard : RaceGuard jobId s op) :
    QueueSchema (raceStep jobId s op).db ∧ (Done jobId s.db → Done jobId (raceStep jobId s op).db) ∧
    ((raceStep jobId s op).served = s.served ∨ Done jobId (raceStep jobId s op).db) := by
  cases op with
  | claim workerId lockTimeout lane lockedElsewhere now =>
    simp only [raceStep]
    split
    · exact ⟨schema, id, .inl rfl⟩
    case h_2 db id claims =>
    refine ⟨?_, fun done => claimNextJob_done schema done claims, .inl rfl⟩
    obtain ⟨job, _, rfl, _, rfl⟩ := claimNextJob_some claims
    exact setJob_schema (claimed_id workerId now) job.id schema
  | work i env =>
    simp only [raceStep]
    split
    case h_1 job _ found =>
      split
      · split
        case h_1 db works =>
          obtain ⟨kept, done⟩ := processJob_done found schema works
          exact ⟨kept, fun _ => done, .inr done⟩
        · exact ⟨schema, id, .inl rfl⟩
      · exact ⟨schema, id, .inl rfl⟩
    · exact ⟨schema, id, .inl rfl⟩
  | commit i tables =>
    simp only [raceStep]
    split
    case h_1 job _ found =>
      split
      case isTrue allowed =>
        obtain ⟨kept, done⟩ := finishWork_done found schema allowed.2
        exact ⟨kept, fun _ => done, .inr done⟩
      · exact ⟨schema, id, .inl rfl⟩
    · exact ⟨schema, id, .inl rfl⟩
  | raise i exc =>
    simp only [raceStep]
    split
    · split <;> exact ⟨schema, id, .inl rfl⟩
    · exact ⟨schema, id, .inl rfl⟩
  | handle i now =>
    simp only [raceStep]
    split
    case h_1 exc raised =>
      refine ⟨recordFailure_schema jobId exc now schema, fun done => ?_, .inl rfl⟩
      obtain ⟨job, found, complete⟩ := done
      exact (recordFailure_asks exc now found complete (guard i rfl exc raised job found complete)).1
    · exact ⟨schema, id, .inl rfl⟩
  | elsewhere tables =>
    simp only [raceStep]
    split
    case isTrue leaves => exact ⟨leaves.1, leaves.done, .inl rfl⟩
    · exact ⟨schema, id, .inl rfl⟩

/-- What an execution has served stands only while the job is complete. -/
structure RaceSound (jobId : Nat) (s : Race) : Prop where
  schema : QueueSchema s.db
  served : s.served ≠ [] → Done jobId s.db

theorem raceStep_sound (s : Race) (op : RaceOp) (guard : RaceGuard jobId s op)
    (sound : RaceSound jobId s) : RaceSound jobId (raceStep jobId s op) := by
  obtain ⟨schema, stays, serves⟩ := raceStep_cases sound.schema guard
  refine ⟨schema, fun some_ => ?_⟩
  rcases serves with same | done
  · exact stays (sound.served (same ▸ some_))
  · exact done

theorem raceStep_safe (s : Race) (op : RaceOp) (guard : RaceGuard jobId s op)
    (sound : RaceSound jobId s) : SafeStep jobId s op := by
  refine ⟨?_, ?_⟩
  · rintro ⟨job, found, complete, job', found', reopened⟩
    obtain ⟨stays, stored, still⟩ := (raceStep_cases sound.schema guard).2.1 ⟨job, found, complete⟩
    cases (mem_def.mp stored).symm.trans found'
    rw [still] at reopened
    rcases reopened with queued | failed
    · cases queued
    · cases failed
  rintro handles ⟨id, member, r, found, standing, r', found', failed⟩
  have same : r' = r := by
    cases op with
    | handle i now =>
      simp only [raceStep] at found'
      split at found'
      case h_1 exc raised =>
        obtain ⟨job, queued, complete⟩ := sound.served (ne_nil_of_mem member)
        have untouched := (recordFailure_asks exc now queued complete
          (guard i rfl exc raised job queued complete)).2
        have kept : (recordFailure s.db jobId exc now).request? id = s.db.request? id := by
          rw [Db.request?, untouched]
          rfl
        exact some.inj (found'.symm.trans (kept.trans found))
      · exact some.inj (found'.symm.trans found)
    | claim | work | commit | raise | elsewhere => cases handles
  rw [same] at failed
  rw [failed] at standing
  exact absurd standing (by decide)

theorem raceGuard_of_safe (s : Race) (op : RaceOp) (safe : SafeStep jobId s op) : RaceGuard jobId s op := by
  intro i handles exc raised job found complete
  by_contra blind
  cases op with
  | handle i' now =>
    cases handles
    obtain ⟨job', found', reopened⟩ := recordFailure_reopens exc now found blind
    refine safe.1 ⟨job, found, complete, job', ?_, reopened⟩
    simp only [raceStep, mem_def.mp raised]
    exact found'
  | claim | work | commit | raise | elsewhere => cases handles

end

/-- Over every interleaving of the executions of a job: a complete job is never reopened and a
served request never failed by a late handler, exactly if no failure transaction starts on a
complete job. -/
theorem race_run_safe_iff {jobId : Nat} {s : Race} {ops : List RaceOp} (schema : QueueSchema s.db)
    (fresh : s.served = []) :
    Meets (raceStep jobId) (SafeStep jobId) s ops ↔ Meets (raceStep jobId) (RaceGuard jobId) s ops := by
  constructor
  · exact Runs.Meets.imp raceGuard_of_safe
  · have sound : RaceSound jobId s := ⟨schema, fun some_ => absurd fresh some_⟩
    exact meets_of_invariant raceStep_sound raceStep_safe sound

/-- One worker claims the delivery, another one when the lock has timed out; the provider refuses
the first worker's e-mail. -/
def refusedFirst : List RaceOp :=
  [.claim "worker-a" (seconds 900) .notifications [] (days 31),
   .claim "worker-b" (seconds 900) .notifications [] (days 31 + seconds 900),
   .work 0 { quietWorker (days 32) with resendResponse := .error (.runtime "Resend failed with HTTP 500") }]

theorem race_run_safe_iff_handledFirst : Meets (raceStep 5) (SafeStep 5) ⟨generatedShop, [], []⟩
      (refusedFirst ++ [.handle 0 (days 33), .work 1 (quietWorker (days 34))]) :=
  (race_run_safe_iff (by decide +kernel) rfl).mpr (by decide +kernel)

/-- The first worker's handler comes after the second worker's commit. -/
theorem race_run_reopened :
    let s := run (raceStep 5) ⟨generatedShop, [], []⟩ (refusedFirst ++ [.work 1 (quietWorker (days 33))])
    Reopens 5 s.db (raceStep 5 s (.handle 0 (days 34))).db ∧
      FailsServed s.served s.db (raceStep 5 s (.handle 0 (days 34))).db := by
  decide +kernel

end Jawnix
