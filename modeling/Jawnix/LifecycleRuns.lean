import Jawnix.WorkerServices

/-!
# Runs of the request lifecycle

Customers submit and withdraw, administrators decide, the worker allocates, delivers
and records failures, the mail provider reports, and every other service changes the
tables around them.
-/
namespace Jawnix

/-- One committed transaction; the worker's two are two operations, so that anything may happen
between them. -/
inductive LifecycleOp where
  | submit (casing : Casing) (userId : Uuid) (profile : CustomerProfile) (payload : CustomerRequestCreate)
      (fresh : NewRequest) (now : Instant)
  | create (casing : Casing) (userId : Uuid) (profile : Option CustomerProfile) (payload : RequestCreate)
      (fresh : NewRequest) (now : Instant)
  | transition (requestId : Uuid) (action : RequestAction) (now : Instant)
  | withdraw (userId requestId : Uuid) (message : String) (now : Instant)
  | review (casing : Casing) (digests : ReviewDigests) (userId : Uuid) (claims : ReviewClaims)
      (now : Instant)
  | process (env : WorkerEnv) (jobId : Nat)
  | recordFailure (jobId : Nat) (error : String) (retryAt : Option Instant) (now : Instant)
  | report (eventKey : String) (event : ResendEvent) (messageId : String) (now : Instant)
  /-- Any job but a delivery, which only allocation and its retry queue. -/
  | enqueue (kind : JobKind) (requestId : Option Uuid) (payload : JobPayload) (now : Instant)
  | elsewhere (tables : Db)

variable (db : Db)

/-- The other services leave the tables of the records alone; the wallet's own services post
ledger entries that name no request. -/
def elsewhere (tables : Db) : Db :=
  { tables with
    requests := db.requests
    holds := db.holds
    ledger := db.ledger ++ tables.ledger.filter (fun e => e.batchRequestId = none)
    events := db.events
    eventSeq := db.eventSeq
    artifacts := db.artifacts
    artifactSeq := db.artifactSeq
    jobs := db.jobs
    jobSeq := db.jobSeq }

def lifecycleExec : LifecycleOp → Except Fault Db
  | .submit casing userId profile payload fresh now =>
    (submitRequest casing db userId profile payload fresh now).map Prod.fst
  | .create casing userId profile payload fresh now =>
    (createRequest casing db userId profile payload fresh now).map Prod.fst
  | .transition requestId action now => transitionRequest db requestId action now
  | .withdraw userId requestId message now => cancelRequest db userId requestId message now
  | .review casing digests userId claims now => applyReview casing digests db userId claims now
  | .process env jobId => processJob env db jobId
  | .recordFailure jobId error retryAt now => .ok (handleFailure db jobId error retryAt now)
  | .report eventKey event messageId now => .ok (resendWebhook db eventKey event messageId now)
  | .enqueue kind requestId payload now =>
    .ok (if kind = .deliverRequest then db else enqueueJob db kind requestId payload now)
  | .elsewhere tables => .ok (elsewhere db tables)

def lifecycleStep (op : LifecycleOp) : Db := commit db (lifecycleExec db op)

theorem elsewhere_quiet (tables : Db) : Quiet db (elsewhere db tables) := by
  refine ⟨fun j => ?_, rfl, rfl⟩
  have charges : chargesFor (elsewhere db tables) j = chargesFor db j := by
    simp only [chargesFor, elsewhere, filter_append, List.filter_filter]
    rw [List.append_right_eq_self, filter_eq_nil_iff]
    intro e _
    cases e.batchRequestId <;> simp
  simp only [Db.record, charges]
  rfl

theorem lifecycleExec_step {db after : Db} {op : LifecycleOp} (sound : LifecycleSound db)
    (done : lifecycleExec db op = .ok after) : LifecycleStep db after := by
  cases op with
  | submit casing userId profile payload fresh now =>
    obtain ⟨result, submits⟩ := map_fst_ok done
    rcases submitRequest_cases submits with rfl | ⟨customer, licensed, states, _, _, _, _, _, inserts⟩
    · exact .refl after
    refine insertSubmission_step sound rfl ?_ inserts
    exact payload.leadCountRange.1
  | create casing userId profile payload fresh now =>
    obtain ⟨result, creates⟩ := map_fst_ok done
    obtain ⟨p, customer, saved, states, _, _, _, _, _, inserts⟩ := createRequest_cases creates
    refine insertSubmission_step sound rfl ?_ inserts
    exact payload.leadCountRange.1
  | transition requestId action now => exact (transitionRequest_performs done).step trivial
  | withdraw userId requestId message now => exact (cancelRequest_performs done).step trivial
  | review casing digests userId claims now => exact (applyReview_step sound done).1
  | process env jobId =>
    rcases processJob_cases done with rfl | ⟨job, worked, _, runs, rfl⟩
    · exact .refl _
    obtain ⟨_, works⟩ := runJob_performs runs
    exact (works.step sound).trans (completed_quiet _ _).step
  | recordFailure jobId error retryAt now =>
    cases done
    exact (handleFailure_performs sound).1
  | report eventKey event messageId now =>
    cases done
    obtain ⟨_, reports⟩ := resendWebhook_performs eventKey messageId event
    exact reports.step trivial
  | enqueue kind requestId payload now =>
    cases done
    split
    · exact .refl _
    case isFalse other => exact (enqueueJob_quiet other _ _ _ _).step
  | elsewhere tables =>
    cases done
    exact (elsewhere_quiet _ _).step

theorem lifecycleStep_sound (op : LifecycleOp) (sound : LifecycleSound db) :
    LifecycleSound (lifecycleStep db op) :=
  commit_cases sound fun _ done => (lifecycleExec_step sound done).sound sound

structure NoRequests : Prop where
  requests : db.requests = []
  holds : db.holds = []
  ledger : ∀ e ∈ db.ledger, e.batchRequestId = none
  events : ∀ e ∈ db.events, e.requestId = none
  artifacts : db.artifacts = []
  deliveries : db.deliveries = []

theorem NoRequests.sound {db : Db} (start : NoRequests db) : LifecycleSound db where
  records := fun id => by
    have charges : chargesFor db id = [] := filter_eq_nil_iff.mpr fun e member =>
      by simp [start.ledger e member]
    have events : db.eventsOf id = [] := filter_eq_nil_iff.mpr fun e member =>
      by simp [start.events e member]
    simp [RequestRecord.Sound, Db.record, Db.request?, Db.hold?, Db.artifact?, charges, events,
      start.requests, start.holds, start.artifacts, lookup]
  keyed := by
    rw [start.requests]
    exact keyed_nil _
  deliveries := fun x member => by
    rw [start.deliveries] at member
    cases member

structure Coupled (request : LeadRequest) (hold : BatchHold) : Prop where
  captured : hold.status = .captured ↔ db.eventsOf request.id ≠ []
  whole : db.eventsOf request.id ≠ [] →
    (db.eventsOf request.id).length = request.leadCount ∧ ∃ charge, chargesFor db request.id = [charge]
  active : hold.status = .active ↔ request.status = .pending ∨ request.status = .approved ∨
    request.status = .processing ∨ request.status = .waitingInventory
  released : hold.status = .released ↔ request.status = .rejected ∨ request.status = .canceled ∨
    (request.status = .failed ∧ db.eventsOf request.id = [])
  /-- An allocation that gets to the capture finds a hold it can capture. -/
  capturable : db.eventsOf request.id ≠ [] ∨ request.status = .approved ∨
    request.status = .processing ∨ request.status = .waitingInventory → hold.status ≠ .released
  charged : chargesFor db request.id ≠ [] → hold.status = .captured

theorem LifecycleSound.coupled {db : Db} (sound : LifecycleSound db) {request : LeadRequest}
    (found : db.request? request.id = some request) (billed : request.isBilled) :
    ∃ hold, db.hold? request.id = some hold ∧ Coupled db request hold := by
  obtain ⟨positive, p, status, events, _, hold, charges⟩ :=
    (sound_of_order (record_order found)).mp (sound.records request.id)
  obtain ⟨h, held, kept⟩ := map_eq_some_iff.mp (hold billed)
  have positive_ : 0 < request.leadCount := positive
  have count : (db.eventsOf request.id).length = p.events request.leadCount := events
  have charged : (chargesFor db request.id).length = p.events 1 := charges billed
  have status_ : request.status ∈ p.statuses := status
  refine ⟨h, held, ?_⟩
  cases p with
  | reserved =>
    have empty : db.eventsOf request.id = [] := List.length_eq_zero_iff.mp count
    have free : chargesFor db request.id = [] := List.length_eq_zero_iff.mp charged
    have active : h.status = .active := kept
    simp only [Phase.statuses, openStatuses, mem_cons, not_mem_nil, or_false] at status_
    constructor <;> rcases status_ with s | s | s | s <;> simp [active, empty, free, s]
  | withdrawn =>
    have empty : db.eventsOf request.id = [] := List.length_eq_zero_iff.mp count
    have free : chargesFor db request.id = [] := List.length_eq_zero_iff.mp charged
    have released : h.status = .released := kept
    simp only [Phase.statuses, mem_cons, not_mem_nil, or_false] at status_
    constructor <;> rcases status_ with s | s | s <;> simp [released, empty, free, s]
  | distributed =>
  have committed : db.eventsOf request.id ≠ [] := by
    intro empty
    rw [empty] at count
    exact absurd count (by simp [Phase.events]; omega)
  have captured : h.status = .captured := kept
  have once : ∃ charge, chargesFor db request.id = [charge] := List.length_eq_one_iff.mp charged
  simp only [Phase.statuses, mem_cons, not_mem_nil, or_false] at status_
  constructor
  · simp [captured, committed]
  · exact fun _ => ⟨count, once⟩
  · rcases status_ with s | s | s <;> simp [captured, s]
  · rcases status_ with s | s | s <;> simp [captured, committed, s]
  · simp [captured]
  · exact fun _ => captured

/-- In every state that a run of the lifecycle reaches, the hold of every billed Batch Request is
captured exactly when its events are committed, active exactly while it waits, and released
exactly when it was withdrawn. -/
theorem lifecycle_run_coupled {db : Db} (start : NoRequests db) (ops : List LifecycleOp)
    (request : LeadRequest) (found : (run lifecycleStep db ops).request? request.id = some request)
    (billed : request.isBilled = true) :
    ∃ hold, (run lifecycleStep db ops).hold? request.id = some hold ∧
    Coupled (run lifecycleStep db ops) request hold :=
  (run_invariant lifecycleStep_sound start.sound ops).coupled found billed

def texasProfile : CustomerProfile :=
  { userId := 70, email := "a@acme.test", licensedStates := ["TX"], customerId := some 1,
    mappingConfirmedAt := some 0 }

def openShop : Db :=
  { customers := [{ billedCustomer with slug := "acme", licensedStates := ["TX"] }]
    profiles := [texasProfile]
    ledger := [fiveDollars]
    leads :=
      [{ id := 1, phone := "2025550101", state := "TX" },
      { id := 2, phone := "2025550102", state := "TX" }] }

def texasOrder : CustomerRequestCreate :=
  { leadCount := 2, leadCountRange := by decide, expectedLeadRate := some 1000, idempotencyKey := "first" }

def quietWorker (now : Instant) : WorkerEnv :=
  { platform := plainPlatform, allocation := quietEnv now 9, rotation := quietRotation now,
    resendConfigured := true,
    resendResponse := .ok "msg", now }

def servedOrder : List LifecycleOp :=
  .submit plainCasing 70 texasProfile texasOrder ⟨7, 8⟩ 10 :: .transition 7 .approve 20 ::
    (List.range 8).map fun jobId => .process (quietWorker (days 30)) jobId

/-- Two Leads handed over and not yet delivered: job 5 delivers the Batch, job 6 emits its
events. -/
def generatedShop : Db :=
  run lifecycleStep openShop
    [.submit plainCasing 70 texasProfile texasOrder ⟨7, 8⟩ 10, .transition 7 .approve 20, .process
      (quietWorker (days 30)) 4]

theorem openShop_noRequests : NoRequests openShop where
  requests := rfl
  holds := rfl
  ledger := by decide
  events := by decide
  artifacts := rfl
  deliveries := rfl

theorem lifecycle_run_coupled_served :
    let after := run lifecycleStep openShop servedOrder
    ∃ request hold, after.request? 7 = some request ∧ request.status = .delivered ∧
      after.hold? 7 = some hold ∧ hold.status = .captured ∧ Coupled after request hold := by
  intro after
  have served : ∃ request, after.request? 7 = some request ∧
      request.id = 7 ∧ request.isBilled = true ∧ request.status = .delivered := by
    refine ⟨_, rfl, ?_, ?_, ?_⟩ <;> decide +kernel
  obtain ⟨request, found, named, billed, delivered⟩ := served
  have committed : after.eventsOf 7 ≠ [] := by decide +kernel
  rw [← named] at found committed ⊢
  obtain ⟨hold, held, coupled⟩ := lifecycle_run_coupled openShop_noRequests servedOrder request found billed
  exact ⟨request, hold, found, delivered, held, coupled.captured.mpr committed, coupled⟩

theorem lifecycle_run_step (ops : List LifecycleOp) {db : Db} (sound : LifecycleSound db) :
    LifecycleStep db (run lifecycleStep db ops) := by
  induction ops generalizing db with
  | nil => exact .refl db
  | cons op rest ih =>
    have step : LifecycleStep db (lifecycleStep db op) :=
      commit_cases (.refl db) fun _ done => lifecycleExec_step sound done
    exact step.trans (ih (step.sound sound))

/-- Whatever happens later, a request whose Leads are distributed keeps its terms, an event for each
Lead, its artifact and, if it is billed, the captured hold with its one charge; it is generated,
delivered or failed. -/
theorem distribution_permanent {db : Db} (start : NoRequests db) (ops later : List LifecycleOp)
    {id : Uuid} {request : LeadRequest}
    (found : (run lifecycleStep db ops).request? id = some request)
    (committed : (run lifecycleStep db ops).eventsOf id ≠ []) :
    ∃ status, ((run lifecycleStep db (ops ++ later)).record id).order = some
      { request.order with status } ∧ InPhase .distributed { request.order with status }
      ((run lifecycleStep db (ops ++ later)).record id) := by
  have sound := run_invariant lifecycleStep_sound start.sound ops
  have step := lifecycle_run_step later sound
  rw [← Runs.run_append] at step
  obtain ⟨positive, p, before⟩ := (sound_of_order (record_order found)).mp (sound.records id)
  obtain rfl := (before.distributed_iff positive).mpr fun none => committed (List.length_eq_zero_iff.mp none)
  obtain ⟨status, present⟩ := moves_terms (step.records id) (record_order found)
  obtain ⟨_, q, after⟩ := (sound_of_order present).mp ((step.sound sound).records id)
  obtain rfl := after.distributed_of_filed (moves_filed (step.records id) before.filed)
  exact ⟨status, present, after⟩

theorem distribution_permanent_served :
    ∃ request status, (run lifecycleStep openShop servedOrder).request? 7 = some request ∧
    InPhase .distributed { request.order with status }
    ((run lifecycleStep openShop (servedOrder ++ servedOrder)).record 7) := by
  have found : ((run lifecycleStep openShop servedOrder).request? 7).isSome := by decide +kernel
  obtain ⟨request, found⟩ := Option.isSome_iff_exists.mp found
  obtain ⟨status, _, lasting⟩ :=
    distribution_permanent openShop_noRequests servedOrder servedOrder found (by decide +kernel)
  exact ⟨request, status, found, lasting⟩

end Jawnix
