import Jawnix.LifecycleRuns
import Jawnix.MetricsEmit

/-!
# Emission over many claims

The emit jobs of all requests, worked off by any sequence of claims, crashes,
retries and continuations. A post that was accepted stays accepted even if the job's
transaction is rolled back.
-/
namespace Jawnix

def payloadAfterId : JobPayload → Option Nat
  | .cursor afterId => some afterId
  | _ => none

def continuation : Option Nat → JobPayload
  | some afterId => .cursor afterId
  | none => .empty

def runEmitJob (env : EmitEnv) (db : Db) (job : Job) : List Nat × Except JobException Db :=
  match job.requestId with
  | none => ([], .error (.other "badly formed hexadecimal UUID string"))
  | some requestId =>
    let run := emitLeadAssigned env db requestId (payloadAfterId job.payload)
    (run.accepted,
      match run.outcome with
      | .error exc => .error exc
      | .ok result =>
        let queued :=
          if result.done then db
          else enqueueJob db .emitLeadAssigned (some requestId) (continuation result.nextAfterId) env.now
        .ok (queued.setJob job.id completed))

structure Emission where
  db : Db
  posted : List Nat := []

inductive EmissionOp where
  | claim (workerId : String) (lockTimeout : Int) (lane : WorkerLane) (lockedElsewhere : List Nat)
      (now : Instant)
  /-- The work of an emit job; a worker that is lost before the commit leaves the database as it
  was. -/
  | work (jobId : Nat) (env : EmitEnv) (commits : Bool)
  | fail (jobId : Nat) (exc : JobException) (now : Instant)
  | elsewhere (tables : Db)

def emitCursor? (j : Job) : Option Nat :=
  if j.kind = .emitLeadAssigned then payloadAfterId j.payload else none

/-- Other transactions number new events upwards, keep those that are there, and give no emit job a
cursor that it did not have. -/
@[mk_iff]
structure LeavesCursors (db tables : Db) : Prop where
  events : ∀ e ∈ tables.events, (∃ old ∈ db.events, old.id = e.id ∧ old.requestId = e.requestId) ∨
    db.eventSeq < e.id
  eventSeq : db.eventSeq ≤ tables.eventSeq
  numbered : ∀ e ∈ tables.events, e.id ≤ tables.eventSeq
  jobs : ∀ j ∈ tables.jobs, ∀ n ∈ emitCursor? j, ∃ old ∈ db.jobs, emitCursor? old = some n ∧
    old.requestId = j.requestId

instance (db tables : Db) : Decidable (LeavesCursors db tables) :=
  decidable_of_iff' _ (leavesCursors_iff ..)

variable (s : Emission)

def emissionStep (op : EmissionOp) : Emission :=
  match op with
  | .claim workerId lockTimeout lane lockedElsewhere now =>
    match claimNextJob s.db workerId lockTimeout lane lockedElsewhere now with
    | none => s
    | some (db, _) => { s with db }
  | .work jobId env commits =>
    match s.db.job? jobId with
    | none => s
    | some job =>
      if job.kind = .emitLeadAssigned then
        { db := if commits then commit s.db (runEmitJob env s.db job).2 else s.db
          posted := s.posted ++ (runEmitJob env s.db job).1 }
      else s
  | .fail jobId exc now =>
    match s.db.job? jobId with
    | none => s
    | some job => if job.kind = .emitLeadAssigned then
        { s with db := recordFailure s.db jobId exc now } else s
  | .elsewhere tables => if LeavesCursors s.db tables then { s with db := tables } else s

/-- No cursor passes an event of its request that was not posted. -/
structure CursorSound : Prop where
  numbered : ∀ e ∈ s.db.events, e.id ≤ s.db.eventSeq
  cursors : ∀ j ∈ s.db.jobs, ∀ n, emitCursor? j = some n → n ≤ s.db.eventSeq ∧
    ∀ e ∈ s.db.events, e.requestId = j.requestId → e.id ≤ n → e.id ∈ s.posted

/-- When the work of an emit job reports done, every event of its request has been posted. -/
def ReportsPosted (op : EmissionOp) : Prop :=
  ∀ jobId env commits, op = .work jobId env commits → env.configured →
    ∀ job, s.db.job? jobId = some job → job.kind = .emitLeadAssigned →
      ∀ requestId, job.requestId = some requestId →
      ∀ result, (emitLeadAssigned env s.db requestId (payloadAfterId job.payload)).outcome = .ok result →
        result.done → ∀ e ∈ s.db.eventsOf requestId, e.id ∈ (emissionStep s op).posted

section
variable {s : Emission} {db after : Db} {jobId : Nat} {job : Job} {env : EmitEnv}

def KeepsCursors (db after : Db) : Prop :=
  ∀ j ∈ after.jobs, ∀ n, emitCursor? j = some n → ∃ old ∈ db.jobs, emitCursor? old = some n ∧
    old.requestId = j.requestId

theorem KeepsCursors.sound {posted : List Nat} (keeps : KeepsCursors s.db after)
    (events : after.events = s.db.events) (eventSeq : after.eventSeq = s.db.eventSeq)
    (grows : ∀ id ∈ s.posted, id ∈ posted) (sound : CursorSound s) :
    CursorSound ⟨after, posted⟩ := by
  refine ⟨by rw [events, eventSeq]; exact sound.numbered, fun j member n cursor => ?_⟩
  obtain ⟨old, stored, same, request⟩ := keeps j member n cursor
  obtain ⟨bound, all⟩ := sound.cursors old stored n same
  refine ⟨eventSeq ▸ bound, fun e inEvents named within =>
    grows _ (all e (events ▸ inEvents) (named.trans request.symm) within)⟩

theorem setJob_keepsCursors {f : Job → Job} (cursor : ∀ j, emitCursor? (f j) = emitCursor? j)
    (request : ∀ j, (f j).requestId = j.requestId) (db : Db) (id : Nat) :
    KeepsCursors db (db.setJob id f) := by
  intro j member n found
  rcases mem_adjust.mp member with ⟨old, stored, _, rfl⟩ | ⟨stored, _⟩
  · exact ⟨old, stored, (cursor old).symm.trans found, (request old).symm⟩
  · exact ⟨j, stored, found, rfl⟩

theorem failedJob_cursor (error : String) (retryAt : Option Instant) (j : Job) :
    emitCursor? (failedJob error retryAt j) = emitCursor? j ∧
    (failedJob error retryAt j).requestId = j.requestId := by
  unfold failedJob
  split <;> exact ⟨rfl, rfl⟩

theorem recordFailure_emit (found : db.job? jobId = some job) (kind : job.kind = .emitLeadAssigned)
    (exc : JobException) (now : Instant) :
    ∃ retryAt, recordFailure db jobId exc now = db.setJob jobId
    (failedJob exc.message retryAt) := by
  unfold recordFailure handleFailure
  rw [found]
  simp only [kind, reduceCtorEq, if_false, not_false_eq_true, ne_eq, and_true]
  split
  · exact ⟨_, rfl⟩
  have silent : alertOperators (db.setJob jobId (failedJob exc.message none)) job now =
      db.setJob jobId (failedJob exc.message none) := by
    unfold alertOperators
    rw [if_neg fun alerts => absurd alerts.1 (by rw [kind]; decide)]
  rw [silent]
  split
  · exact ⟨none, rfl⟩
  refine ⟨none, ?_⟩
  unfold failRequest
  rw [kind]

/-- The cursor of a continuation is covered by the earlier posts and by this claim's own. -/
theorem continuation_sound (sound : CursorSound s) (stored : job ∈ s.db.jobs)
    (kind : job.kind = .emitLeadAssigned) {requestId : Uuid}
    (named : job.requestId = some requestId) {result : EmitLeadAssignedResult}
    (ends : (emitLeadAssigned env s.db requestId (payloadAfterId job.payload)).outcome = .ok result)
    {c : Nat} (next : result.nextAfterId = some c) :
    c ≤ s.db.eventSeq ∧ ∀ e ∈ s.db.events, e.requestId = some requestId → e.id ≤ c →
    e.id ∈ s.posted ++ (emitLeadAssigned env s.db requestId
    (payloadAfterId job.payload)).accepted := by
  have own : ∀ n, payloadAfterId job.payload = some n → emitCursor? job = some n := fun n payload => by
    rw [emitCursor?, if_pos kind, payload]
  rcases emitLeadAssigned_cursor ends next with same | ⟨⟨top, inEvents, top_id⟩, covered⟩
  · obtain ⟨bound, all⟩ := sound.cursors job stored c (own c same)
    exact ⟨bound, fun e member request within =>
      mem_append_left _ (all e member (request.trans named.symm) within)⟩
  refine ⟨top_id ▸ sound.numbered top (mem_filter.mp inEvents).1, fun e member request within => ?_⟩
  have inRequest : e ∈ s.db.eventsOf requestId := mem_filter.mpr ⟨member, by simpa using request⟩
  by_cases pending : e ∈ pendingEvents s.db requestId (payloadAfterId job.payload)
  · exact mem_append_right _ (covered e pending within)
  -- the event is not behind the claim's own cursor, so an earlier claim posted it
  rw [mem_pendingEvents, not_and] at pending
  have passed := pending inRequest
  push Not at passed
  obtain ⟨n, payload, bound⟩ := passed
  exact mem_append_left _ ((sound.cursors job stored n (own n payload)).2 e member
    (request.trans named.symm) bound)

theorem runEmitJob_sound (sound : CursorSound s) (stored : job ∈ s.db.jobs)
    (kind : job.kind = .emitLeadAssigned) (done : (runEmitJob env s.db job).2 = .ok after) :
    CursorSound ⟨after, s.posted ++ (runEmitJob env s.db job).1⟩ := by
  unfold runEmitJob at done ⊢
  split at done
  · cases done
  case h_2 requestId named =>
  simp only at done ⊢
  split at done
  · cases done
  case h_2 result ends =>
  cases done
  have keeps := setJob_keepsCursors (f := completed) (fun _ => rfl) (fun _ => rfl)
  have grows :
    ∀ id ∈ s.posted, id ∈ s.posted ++ (emitLeadAssigned env s.db requestId
    (payloadAfterId job.payload)).accepted := fun _ member => mem_append_left _ member
  cases result with
  | mk posted finished nextAfterId =>
  cases finished with
  | true => exact (keeps s.db job.id).sound rfl rfl grows sound
  | false =>
  have queued :
    CursorSound ⟨enqueueJob s.db .emitLeadAssigned (some requestId)
    (continuation nextAfterId) env.now,
      s.posted ++ (emitLeadAssigned env s.db requestId (payloadAfterId job.payload)).accepted⟩ := by
    refine ⟨sound.numbered, fun j member n cursor => ?_⟩
    rcases mem_append.mp member with old | new
    · obtain ⟨bound, all⟩ := sound.cursors j old n cursor
      exact ⟨bound, fun e inEvents request within => grows _ (all e inEvents request within)⟩
    cases mem_singleton.mp new
    have next : nextAfterId = some n := by
      cases nextAfterId with
      | none => cases cursor
      | some c => exact cursor
    exact continuation_sound sound stored kind named ends next
  exact (keeps _ job.id).sound rfl rfl (fun _ member => member) queued

theorem LeavesCursors.sound {tables : Db} (leaves : LeavesCursors s.db tables)
    (sound : CursorSound s) : CursorSound { s with db := tables } := by
  refine ⟨leaves.numbered, fun j member n cursor => ?_⟩
  obtain ⟨old, stored, same, request⟩ := leaves.jobs j member n cursor
  obtain ⟨bound, all⟩ := sound.cursors old stored n same
  refine ⟨Nat.le_trans bound leaves.eventSeq, fun e inEvents named within => ?_⟩
  rcases leaves.events e inEvents with ⟨former, inOld, sameId, sameRequest⟩ | new
  · rw [← sameId]
    exact all former inOld (sameRequest.trans (named.trans request.symm)) (sameId ▸ within)
  · exact absurd (Nat.le_trans within bound) (Nat.not_le.mpr new)

theorem emissionStep_sound (s : Emission) (op : EmissionOp) (sound : CursorSound s) :
    CursorSound (emissionStep s op) := by
  cases op with
  | claim workerId lockTimeout lane lockedElsewhere now =>
    simp only [emissionStep]
    split
    · exact sound
    case h_2 db id claims =>
    obtain ⟨job, _, rfl, _, rfl⟩ := claimNextJob_some claims
    exact (setJob_keepsCursors (f := claimed workerId now) (fun _ => rfl)
      (fun _ => rfl) s.db job.id).sound rfl rfl (fun _ member => member) sound
  | work jobId env commits =>
    simp only [emissionStep]
    split
    · exact sound
    case h_2 job found =>
    split
    case isTrue kind =>
      have grows : ∀ id ∈ s.posted, id ∈ s.posted ++ (runEmitJob env s.db job).1 :=
        fun _ member => mem_append_left _ member
      have unchanged : CursorSound ⟨s.db, s.posted ++ (runEmitJob env s.db job).1⟩ :=
        KeepsCursors.sound (fun j member n cursor => ⟨j, member, cursor, rfl⟩) rfl rfl grows sound
      cases commits with
      | false => exact unchanged
      | true =>
        simp only [if_true]
        cases ends : (runEmitJob env s.db job).2 with
        | error exc => exact unchanged
        | ok after => exact runEmitJob_sound sound (lookup_some found).1 kind ends
    · exact sound
  | fail jobId exc now =>
    simp only [emissionStep]
    split
    · exact sound
    case h_2 job found =>
    split
    case isTrue kind =>
      obtain ⟨retryAt, recorded⟩ := recordFailure_emit found kind exc now
      rw [recorded]
      exact (setJob_keepsCursors (fun j => (failedJob_cursor exc.message retryAt j).1)
        (fun j => (failedJob_cursor exc.message retryAt j).2) s.db jobId).sound rfl rfl
          (fun _ member => member) sound
    · exact sound
  | elsewhere tables =>
    simp only [emissionStep]
    split
    case isTrue leaves => exact leaves.sound sound
    · exact sound

theorem emissionStep_reports (s : Emission) (op : EmissionOp) (sound : CursorSound s) :
    ReportsPosted s op := by
  rintro jobId env commits rfl configured job found kind requestId named result ends done e inRequest
  have posted : (emissionStep s (.work jobId env commits)).posted =
      s.posted ++ (emitLeadAssigned env s.db requestId (payloadAfterId job.payload)).accepted := by
    simp only [emissionStep, found, kind, if_true, runEmitJob, named]
  rw [posted]
  by_cases pending : e ∈ pendingEvents s.db requestId (payloadAfterId job.payload)
  · exact mem_append_right _ (emitLeadAssigned_done configured ends done pending)
  rw [mem_pendingEvents, not_and] at pending
  have passed := pending inRequest
  push Not at passed
  obtain ⟨n, payload, bound⟩ := passed
  obtain ⟨inEvents, request⟩ := mem_filter.mp inRequest
  have own : emitCursor? job = some n := by rw [emitCursor?, if_pos kind, payload]
  exact mem_append_left _ ((sound.cursors job (lookup_some found).1 n own).2 e inEvents
    ((of_decide_eq_true request).trans named.symm) bound)

end

structure NoCursors (db : Db) : Prop where
  numbered : ∀ e ∈ db.events, e.id ≤ db.eventSeq
  cursors : ∀ j ∈ db.jobs, emitCursor? j = none

/-- Over every run of claims, posts, crashes, retries and continuations: no cursor ever passes an
event that was not posted, and a configured claim that reports done leaves no event of its request
unposted. -/
theorem emission_run_posted {s : Emission} (start : NoCursors s.db) (ops : List EmissionOp) :
    Meets emissionStep ReportsPosted s ops ∧ CursorSound (run emissionStep s ops) := by
  have sound : CursorSound s := ⟨start.numbered, fun j member n cursor => by
    rw [start.cursors j member] at cursor
    cases cursor⟩
  exact ⟨Runs.run_meets emissionStep_sound emissionStep_reports sound ops,
    run_invariant emissionStep_sound sound ops⟩

def openIngest : EmitEnv where
  configured := true
  response := fun _ => .answered 201 false ""
  completes := fun wave => wave
  completesAll := fun _ => .refl _
  exhausted := fun _ => false
  queue := fun _ => generatedShop
  now := days 31

theorem generatedShop_noCursors : NoCursors generatedShop := ⟨by decide +kernel, by decide +kernel⟩

theorem emission_run_posted_generated : generatedShop.eventsOf 7 ≠ [] ∧
      ∀ e ∈ generatedShop.eventsOf 7,
      e.id ∈ (emissionStep ⟨generatedShop, []⟩ (.work 6 openIngest true)).posted := by
  have reports :=
    (emission_run_posted (s := ⟨generatedShop, []⟩) generatedShop_noCursors
      [.work 6 openIngest true]).1.1
  refine ⟨by decide +kernel, reports 6 openIngest true rfl rfl _ rfl ?_ 7 ?_ _ rfl ?_⟩ <;> decide +kernel

/-- Without a configured ingest a claim reports done and posts nothing. -/
theorem emission_unconfigured :
    ∃ result,
    (emitLeadAssigned { openIngest with configured := false } generatedShop 7 none).outcome =
    .ok result ∧ result.done = true ∧ ∃ e ∈ generatedShop.eventsOf 7,
        e.id ∉ (emissionStep ⟨generatedShop, []⟩
        (.work 6 { openIngest with configured := false } true)).posted :=
  ⟨_, rfl, rfl, by decide +kernel⟩

end Jawnix
