import Jawnix.ConflictGate
import Jawnix.LifecycleServices

/-!
# The worker's services

Allocation, the rotation, the jobs of the worker and its failure handler, as
chains of table updates.
-/
namespace Jawnix

open RequestRecord

theorem generated_edge : Edge generated .generated :=
  ⟨⟨fun _ => rfl, fun _ => rfl⟩, fun _ => ⟨_, _, _, _, _, _, _, rfl⟩, by decide⟩

theorem processed_edge (allocated : Nat) (now : Instant) : Edge (processed allocated now) .generated :=
  ⟨⟨fun _ => rfl, fun _ => rfl⟩, fun _ => ⟨_, _, _, _, _, _, _, rfl⟩, by decide⟩

theorem waiting_edge (requested available : Nat) : Edge (waiting requested available) .waitingInventory :=
  ⟨⟨fun _ => rfl, fun _ => rfl⟩, fun _ => ⟨_, _, _, _, _, _, _, rfl⟩, by decide⟩

section
variable {platform : Platform} {env : AllocationEnv} {db filed after : Db} {request : LeadRequest}
  {customer : Customer}
  {result : AllocationResult} {f : LeadRequest → LeadRequest}

theorem record_events_eq_zero {id : Uuid} : (db.record id).events = 0 ↔ db.eventsOf id = [] := by
  simp [Db.record]

theorem settled_licence (edge : Edge f .generated)
    (captures :
      captureBatchHold (queueDelivery (filed.setRequest request.id f) request.id env.queuedAt) request
      env.chargeId env.capturedAt = .ok after) : LicenceStep filed after := by
  obtain ⟨ledger, holds, rfl⟩ := (captureBatchHold_captured captures).frame
  exact (closing_licence edge (by decide) filed request.id).trans (.tables _)

theorem settled_enqueues (jobs : filed.jobs = db.jobs) (jobSeq : filed.jobSeq = db.jobSeq)
    (captures :
      captureBatchHold (queueDelivery (filed.setRequest request.id f) request.id env.queuedAt) request
      env.chargeId env.capturedAt = .ok after) : Enqueues db after := by
  obtain ⟨_, _, rfl⟩ := (captureBatchHold_captured captures).frame
  have marked : Enqueues db (filed.setRequest request.id f) := .of_tables jobs jobSeq
  exact ((marked.trans (enqueueJob_enqueues _ _ _ _ _)).trans (enqueueJob_enqueues _ _ _ _ _)).trans
    (enqueueJob_enqueues _ _ _ _ _)

/-- A run rewrites the events a request has, and commits new ones only for an approved request
without events. -/
theorem AllocationOutcome.performs (stored : db.request? request.id = some request)
    (outcome : AllocationOutcome platform env db request customer after result) :
    Performs True (db.eventsOf request.id = [])
    (db.eventsOf request.id ≠ [] → request.status ∉ stoppedStatuses) [request.id] db after := by
  have order := record_order stored
  have timed : ∀ {f : LeadRequest → LeadRequest} {after : Db}, Edge f .generated →
    (∀ r, (f r).closedAt = r.closedAt) →
      after.requests = (db.setRequest request.id f).requests → request.status ∉ stoppedStatuses →
        Closing db →
      Closing after := by
    intro f after edge kept rows moving closing
    have moved : Closing (db.setRequest request.id f) := closing.set edge.id fun r found timed => by
      cases some.inj (stored.symm.trans found)
      refine timed.moves (kept request) moving ?_
      rw [edge.status]
      decide
    exact moved.of_requests rows
  cases outcome with
  | replayed committed whole restores files captures _ =>
    obtain ⟨rewrites, held⟩ := settled_rewrites (g := id)
      ((restoreEvents_quiet restores).rewrites (generateArtifact_rewrites files))
        generated_edge.toMarks captures
    obtain ⟨_, _, restored⟩ := restoreEvents_ok restores
    obtain ⟨_, _, _, filedFrame⟩ := (generateArtifact_filed files).frame
    obtain ⟨_, _, afterFrame⟩ := (captureBatchHold_captured captures).frame
    have present : (db.record request.id).events ≠ 0 := fun none => committed (record_events_eq_zero.mp none)
    refine ⟨fun _ => rewrites.step (.single (.replayed order present held)),
      fun _ j outside => rewrites.other (by simpa using outside), fun _ empty => absurd empty committed,
      fun _ unstopped => timed generated_edge (fun _ => rfl) ?_ (unstopped committed), ?_⟩
    · rw [afterFrame, filedFrame, restored]
      rfl
    · exact settled_enqueues (by rw [filedFrame, restored]) (by rw [filedFrame, restored]) captures
  | idle _ _ _ => exact .refl db
  | @shortage available _ ready _ =>
    exact (waiting_performs (waiting_edge _ _) (by decide) (fun _ => rfl) order fun _ =>
      open_of_ready ready).queued (announced_queues _ _ _ _)
  | @distributed candidates drafts _ _ _ _ _ uncommitted ready selected whole drawn inserts files
      captures _ =>
  have edge := processed_edge candidates.length env.distributedAt
  have stamped : ∀ leadIds, Quiet db (stampLeads db leadIds env.distributedAt) :=
    fun _ => .of_tables rfl rfl rfl rfl rfl rfl
  have owned : ∀ e ∈ drafts, e.requestId = some request.id := by
    intro e member
    obtain ⟨_, _, made⟩ := Runs.forall₂_mem_right drawn member
    exact (distributionEvent_delivers made).1.requestId
  obtain ⟨rewrites, held⟩ := settled_rewrites
    (((stamped _).rewrites (insertEvents_rewrites owned inserts)).trans
      (generateArtifact_rewrites files)) edge.toMarks captures
  rw [← drawn.length_eq, whole] at rewrites
  obtain ⟨_, _, _, filedFrame⟩ := (generateArtifact_filed files).frame
  obtain ⟨_, _, afterFrame⟩ := (captureBatchHold_captured captures).frame
  have waits := open_of_ready ready
  refine ⟨fun _ =>
    rewrites.step (.single (.distributed order waits (record_events_eq_zero.mpr uncommitted) held)),
    fun _ j outside => rewrites.other (by simpa using outside), fun _ _ => ?_,
    fun _ _ => timed edge (fun _ => rfl) ?_ (unstopped_of_open waits), ?_⟩
  · refine ((insertEvents_licence (fun schema draft member => ?_) inserts).trans
      (generateArtifact_licence files)).trans (settled_licence edge captures)
    obtain ⟨state, row, _, delivers⟩ := drafts_deliver schema selected drawn draft member
    exact ⟨request, stored, .inl (.inl waits), delivers.customerId, state⟩
  · rw [afterFrame, filedFrame, insertEvents_ok inserts]
    rfl
  · exact settled_enqueues (by rw [filedFrame, insertEvents_ok inserts]; rfl)
      (by rw [filedFrame, insertEvents_ok inserts]; rfl) captures

theorem allocateRequest_performs {requestId : Uuid}
    (done : allocateRequest platform env db requestId = .ok (after, result)) :
    Performs True (db.eventsOf requestId = [])
    (∀ r, db.request? requestId = some r → db.eventsOf requestId ≠ [] → r.status ∉ stoppedStatuses)
    [requestId] db
    after := by
  obtain ⟨request, customer, found, _, outcome⟩ := allocateRequest_outcome done
  have named : request.id = requestId := (lookup_some found).2
  subst named
  exact (outcome.performs found).imp (id) (fun _ empty => empty) (fun _ unstopped => unstopped request found)
    (List.Subset.refl _)

theorem restoreEvents_licence {restored : Db} {id : Uuid}
    (done : restoreEvents db id = .ok restored) : LicenceFrame db restored ∧
    restored.events.map DistributionEvent.id = db.events.map DistributionEvent.id := by
  obtain ⟨f, rewrites, rfl⟩ := restoreEvents_ok done
  refine ⟨⟨fun _ => rfl, fun schema => { schema with }, fun j r found =>
    ⟨r, found, rfl, rfl, fun settled => settled,
      fun reachable => .inl ((allocatable_congr (by rfl) r).mp reachable)⟩⟩, ?_⟩
  rw [map_map]
  refine map_congr_left fun e _ => ?_
  obtain ⟨_, _, _, _, same⟩ := rewrites e
  simp [same]

theorem AllocationOutcome.replays (committed : db.eventsOf request.id ≠ [])
    (outcome : AllocationOutcome platform env db request customer after result) :
    LicenceFrame db after ∧ Issues db after := by
  cases outcome with
  | replayed _ _ restores files captures _ =>
    obtain ⟨restored, ids⟩ := restoreEvents_licence restores
    have rest := (generateArtifact_licence files).trans (settled_licence generated_edge captures)
    refine ⟨restored.trans rest.toLicenceFrame, fun schema => ?_⟩
    obtain ⟨new, grown, granted⟩ := rest.commits (restored.inventory schema)
    exact ⟨_, new, grown, ids, fun e member => (granted e member).back restored⟩
  | idle empty _ _ => exact absurd empty committed
  | shortage empty _ _ => exact absurd empty committed
  | distributed empty _ _ _ _ _ _ _ _ => exact absurd empty committed

theorem allocateRequest_issues {requestId : Uuid}
    (done : allocateRequest platform env db requestId = .ok (after, result)) :
    LicenceFrame db after ∧ Issues db after := by
  by_cases uncommitted : db.eventsOf requestId = []
  · have step := (allocateRequest_performs done).licence trivial uncommitted
    exact ⟨step.toLicenceFrame, step.issues⟩
  obtain ⟨request, customer, found, _, outcome⟩ := allocateRequest_outcome done
  have named : request.id = requestId := (lookup_some found).2
  subst named
  exact outcome.replays uncommitted

end

theorem awaiting_edge (available : Nat) : Edge (awaiting available) .waitingInventory :=
  ⟨⟨fun _ => rfl, fun _ => rfl⟩, fun _ => ⟨_, _, _, _, _, _, _, rfl⟩, by decide⟩

theorem resumed_edge : Edge resumed .approved :=
  ⟨⟨fun _ => rfl, fun _ => rfl⟩, fun _ => ⟨_, _, _, _, _, _, _, rfl⟩, by decide⟩

section
variable {R L C : Prop} {ids : List Uuid} {platform : Platform} {env : RotationEnv}
  {db gated after : Db} {request : LeadRequest} {customer : Customer} {o : Order}
  {result : TurnResult} {counts : RotationCounts}

theorem openConflict_performs {opened : Db} {snapshot : InventorySnapshot}
    (done : openConflict platform env db snapshot = .ok opened) :
    Quiet db opened ∧ Performs R L C ids db opened := by
  rw [openConflict] at done
  split at done
  · cases done
  cases done
  have opened : ∀ conflicts, Quiet db { db with conflicts } := fun _ => .of_tables rfl rfl rfl rfl rfl rfl
  have queued := enqueueJob_queues (by decide : JobKind.notifyInventoryConflict ≠ .deliverRequest)
  refine ⟨Quiet.trans ?_ (queued _ _ _ _).quiet, Performs.queued ?_ (queued _ _ _ _)⟩
  · exact opened _
  · exact (opened _).performs (.tables db) rfl (.of_tables rfl rfl)

/-- A gate that lets a turn through leaves every record alone; one that blocks it parks the
request. -/
theorem inventoryConflictBlocks_performs {blocks : Bool} (order : (db.record request.id).order = some o)
    (done : inventoryConflictBlocks platform env db request customer = .ok (gated, blocks)) :
    Performs (o.status ∈ openStatuses) L C [request.id] db gated ∧ (blocks = false → Quiet db gated) := by
  rcases inventoryConflictBlocks_outcome done with ⟨_, rfl, _⟩ | ⟨_, outcome⟩
  · exact ⟨.refl _, fun _ => .refl _⟩
  cases outcome with
  | clear _ => exact ⟨.refl _, fun _ => .refl _⟩
  | @confirmed older c conflict _ _ _ _ _ _ =>
    have quiet : Quiet db (db.setConflict conflict.id (consumed env.consumedAt)) :=
      .of_tables rfl rfl rfl rfl rfl rfl
    exact ⟨quiet.performs (.tables db) rfl (.of_tables rfl rfl), fun _ => quiet⟩
  | @blocked opened noted =>
  have opens : Quiet db opened ∧ Performs (o.status ∈ openStatuses) L C [request.id] db opened := by
    rcases noted with rfl | ⟨snapshot, opens⟩
    · exact ⟨.refl _, .refl _⟩
    · exact openConflict_performs opens
  rw [← opens.1.records] at order
  exact ⟨(opens.2.trans (waiting_performs (awaiting_edge _) (by decide) (fun _ => rfl) order id)).queued
    (announced_queues _ _ _ _), by simp⟩

theorem markFulfilled_licence (db : Db) (customer : Customer) (at_ : Instant) :
    LicenceStep db (markFulfilled db customer at_) := by
  have served : LicenceStep db (db.setCustomer customer.id fun c =>
    { c with lastFulfilledAt := some at_ }) := by
    refine LicenceFrame.step ⟨fun id => ?_, fun schema => { schema with },
      fun _ r found => ⟨r, found, rfl, rfl, id, .inl⟩⟩ rfl
    have looked : lookup Customer.id id (adjust Customer.id customer.id
        (fun c => { c with lastFulfilledAt := some at_ }) db.customers) = _ := lookup_adjust fun _ _ => rfl
    simp only [Db.licensedStates?, Db.customer?, Db.setCustomer, looked]
    split
    · rw [Option.map_map]
      rfl
    · rfl
  unfold markFulfilled
  simp only
  split
  · exact served
  · exact served.trans (.tables _)

theorem markFulfilled_performs (db : Db) (customer : Customer) (at_ : Instant) :
    Performs R L C ids db (markFulfilled db customer at_) := by
  have licence := markFulfilled_licence db customer at_
  obtain ⟨customers, agencies, frame⟩ := markFulfilled_frame db customer at_
  rw [frame] at licence ⊢
  exact Quiet.performs (.of_tables rfl rfl rfl rfl rfl rfl) licence rfl (.of_tables rfl rfl)

theorem attempt_performs (order : (db.record request.id).order = some o)
    (done : attempt platform env db request customer = .ok (after, result)) :
    Performs (o.status ∈ openStatuses) ((db.record request.id).events = 0) C [request.id] db after := by
  obtain ⟨allocated, outcome, allocates, _, served⟩ := attempt_cases done
  have resumes : Performs (o.status ∈ openStatuses) ((db.record request.id).events = 0) C [request.id] db
      (resumeWaiting db request) := by
    unfold resumeWaiting
    split
    · exact waiting_performs resumed_edge (by decide) (fun _ => rfl) order id
    · exact .refl db
  have allocation :=
    resumes.trans ((allocateRequest_performs allocates).imp (fun _ => trivial) (fun _ idle => ?_)
    (fun waits _ r found _ => ?_) (List.Subset.refl _))
  · rcases served with rfl | ⟨at_, rfl⟩
    · exact allocation
    · exact allocation.trans (markFulfilled_performs _ _ _)
  · have empty := record_events_eq_zero.mp idle
    rcases resumeWaiting_requests db request with same | moved
    · rw [same]
      exact empty
    · rw [moved]
      exact empty
  refine unstopped_of_open ?_
  rcases resumeWaiting_requests db request with same | moved
  · rw [same] at found
    rw [record_order found] at order
    cases order
    exact waits
  rw [moved] at found
  have looked : lookup LeadRequest.id request.id
      (adjust LeadRequest.id request.id resumed db.requests) = _ := lookup_adjust fun _ _ => rfl
  rw [Db.request?, Db.setRequest, looked, if_pos rfl] at found
  obtain ⟨_, _, rfl⟩ := map_eq_some_iff.mp found
  exact (by decide : RequestStatus.approved ∈ openStatuses)

theorem rotationTurn_performs {requestId : Uuid}
    (done : rotationTurn platform env db requestId = .ok (after, result)) :
    Performs (Waits db requestId) ((db.record requestId).events = 0) C [requestId] db after := by
  obtain ⟨request, customer, gated, blocks, found, _, gates, ends⟩ := rotationTurn_cases done
  have named : request.id = requestId := (lookup_some found).2
  subst named
  have order := record_order found
  obtain ⟨gate, passes⟩ := inventoryConflictBlocks_performs order gates
  have gate_ := gate.imp (fun waits : Waits db request.id => waits _ order)
    (fun _ (idle : (db.record request.id).events = 0) => idle) (fun _ (due : C) => due) (List.Subset.refl _)
  rcases ends with ⟨_, rfl, _⟩ | ⟨passed, attempts⟩
  · exact gate_
  have quiet := passes passed
  rw [← quiet.records] at order
  refine gate_.trans ((attempt_performs order attempts).imp (fun waits => ?_) (fun _ idle => ?_)
    (fun _ due => due) (List.Subset.refl _))
  · rw [quiet.records] at order
    exact waits _ order
  · rw [quiet.records]
    exact idle

theorem rotate_performs {turns : List Uuid} {counts' : RotationCounts}
    (done : rotate platform env db counts turns = .ok (after, counts')) :
    Performs (turns.Nodup ∧ ∀ id ∈ turns, Waits db id)
    (∀ id ∈ turns, (db.record id).events = 0) C turns db after := by
  induction turns generalizing db counts with
  | nil =>
    cases done
    exact .refl _
  | cons requestId rest ih =>
  obtain ⟨⟨served, result⟩, turn, later⟩ := bind_ok done
  have here : Performs (Waits db requestId) ((db.record requestId).events = 0) C
    [requestId] db served := rotationTurn_performs turn
  have kept : (requestId :: rest).Nodup ∧ (∀ id ∈ requestId :: rest, Waits db id) → ∀ id ∈ rest,
      served.record id = db.record id := by
    intro given id member
    refine here.others (given.2 _ mem_cons_self) id fun same => ?_
    exact (nodup_cons.mp given.1).1 (mem_singleton.mp same ▸ member)
  refine (here.imp (fun given => given.2 _ mem_cons_self) (fun _ idle => idle _ mem_cons_self)
    (fun _ due => due) (by simp)).trans ((ih later).imp (fun given => ⟨(nodup_cons.mp given.1).2, ?_⟩)
      (fun given idle id member => ?_) (fun _ due => due) (by simp))
  · intro id member
    unfold Waits
    rw [kept given id member]
    exact given.2 id (mem_cons_of_mem _ member)
  · rw [kept given id member]
    exact idle id (mem_cons_of_mem _ member)

theorem mem_rotationRequests {item : LeadRequest × Customer} (member : item ∈ rotationRequests env db) :
    item.1 ∈ db.requests ∧ (item.1.status = .approved ∨ item.1.status = .waitingInventory) ∧
    db.customer? item.1.customerId = some item.2 := by
  simp only [rotationRequests] at member
  obtain ⟨r, sorted, paired⟩ := mem_filterMap.mp member
  obtain ⟨c, owner, takes⟩ := bind_eq_some_iff.mp paired
  split at takes
  · cases takes
    have kept := mem_filter.mp ((List.mem_insertionSort _).mp sorted)
    simp only [and_eq_true, or_eq_true, decide_eq_true_eq] at kept
    exact ⟨kept.1, kept.2.1, owner⟩
  · cases takes

theorem turn_of_group {entry : (Int × Nat) × List (LeadRequest × Customer)} {id : Uuid}
    (member : entry ∈ groupBy (fun item => rotationKey item.2) (rotationRequests env db))
    (turn : (sortByKey itemOrder entry.2).head?.map (fun item => item.1.id) = some id) :
    ∃ item ∈ rotationRequests env db, item.1.id = id ∧ rotationKey item.2 = entry.1 := by
  obtain ⟨item, first, named⟩ := map_eq_some_iff.mp turn
  have inGroup : item ∈ entry.2 := (List.mem_insertionSort _).mp (List.mem_of_mem_head? first)
  obtain ⟨served, key⟩ := Dict.mem_groupBy member item inGroup
  exact ⟨item, served, named, key⟩

theorem rotationTurns_nodup (keyed : Keyed LeadRequest.id db.requests) : (rotationTurns env db).Nodup := by
  have groups := List.perm_insertionSort (fun a b => decide (List.le (groupOrder db a) (groupOrder db b)))
    (groupBy (fun item => rotationKey item.2) (rotationRequests env db))
  have distinct : (sortByKey (groupOrder db) (groupBy (fun item => rotationKey item.2)
      (rotationRequests env db))).Pairwise fun a b => a.1 ≠ b.1 :=
    pairwise_map.mp ((groups.map Prod.fst).nodup_iff.mpr (Dict.keys_groupBy_nodup _ _))
  refine List.pairwise_filterMap.mpr (distinct.imp_of_mem ?_)
  intro a b inA inB differ id turnA id' turnB same
  subst same
  obtain ⟨x, servedX, namedX, keyX⟩ := turn_of_group (groups.mem_iff.mp inA) turnA
  obtain ⟨y, servedY, namedY, keyY⟩ := turn_of_group (groups.mem_iff.mp inB) turnB
  obtain ⟨storedX, _, ownerX⟩ := mem_rotationRequests servedX
  obtain ⟨storedY, _, ownerY⟩ := mem_rotationRequests servedY
  have request := eq_of_mem_of_key keyed storedX storedY (namedX.trans namedY.symm)
  rw [request, ownerY] at ownerX
  have customer : x.2 = y.2 := (some.inj ownerX).symm
  exact differ (keyX.symm.trans ((congrArg rotationKey customer).trans keyY))

theorem rotationTurns_waits (keyed : Keyed LeadRequest.id db.requests) {id : Uuid}
    (member : id ∈ rotationTurns env db) : Waits db id := by
  intro o order
  obtain ⟨entry, inSorted, turn⟩ := mem_filterMap.mp member
  obtain ⟨item, served, named, _⟩ := turn_of_group ((List.mem_insertionSort _).mp inSorted) turn
  obtain ⟨stored, status, _⟩ := mem_rotationRequests served
  have found : db.request? id = some item.1 := named ▸ lookup_of_mem keyed stored
  rw [record_order found] at order
  cases order
  change item.1.status ∈ openStatuses
  rcases status with same | same <;> rw [same] <;> decide

theorem LifecycleSound.idle {id : Uuid} (sound : LifecycleSound db) (waits : Waits db id) :
    (db.record id).events = 0 := by
  have here := sound.records id
  cases order : (db.record id).order with
  | none =>
    simp only [RequestRecord.Sound, order] at here
    exact here.2.1
  | some o =>
    obtain ⟨_, p, inPhase⟩ := (sound_of_order order).mp here
    have reserved := inPhase.reserved_of_open (waits o order)
    subst reserved
    exact inPhase.events

theorem fulfillRoundRobin_performs (done : fulfillRoundRobin platform env db = .ok (after, counts)) :
    Performs (LifecycleSound db) L C (rotationTurns env db) db after := by
  obtain ⟨⟨served, visits⟩, rotates, rest⟩ := bind_ok done
  have pass : Performs (LifecycleSound db) L C (rotationTurns env db) db served :=
    (rotate_performs rotates).imp
      (fun sound => ⟨rotationTurns_nodup sound.keyed, fun id member =>
        rotationTurns_waits sound.keyed member⟩)
      (fun sound _ id member => sound.idle (rotationTurns_waits sound.keyed member)) (fun _ due => due)
      (List.Subset.refl _)
  simp only at rest
  split at rest
  · cases rest
    exact pass.queued (enqueueJob_queues (by decide) _ _ _ _)
  · cases rest
    exact pass

end

def payloadAction? : JobPayload → Option RequestAction
  | .action action _ => some action
  | _ => none

/-- The job takes none of the edges that miss the closing time: a cancellation by an administrator,
and the success of a delivery or of a replayed allocation after a failure. -/
@[mk_iff]
structure TimedJob (db : Db) (job : Job) : Prop where
  decides : job.kind = .telegramAction → ∀ id ∈ job.requestId,
    ∀ action ∈ payloadAction? job.payload, ¬CancelsByAdmin db id action
  delivers : job.kind = .deliverRequest → ∀ id ∈ job.requestId, ∀ r ∈ db.request? id, r.status ≠ .failed
  allocates : job.kind = .allocateRequest → ∀ id ∈ job.requestId, ∀ r ∈ db.request? id,
    db.eventsOf id ≠ [] → r.status ≠ .failed

section
variable {C : Prop} {env : WorkerEnv} {db after : Db} {job : Job} {jobId : Nat} {requestId : Uuid}
  {now : Instant} {error : String}

theorem jobRequestId_ok (done : jobRequestId job = .ok requestId) : job.requestId = some requestId := by
  unfold jobRequestId at done
  split at done
  case h_1 id asked =>
    cases done
    exact asked
  · cases done

theorem telegramAction_performs (done : telegramAction db job now = .ok after) :
    ∃ ids, Performs True True (∀ id ∈ job.requestId, ∀ action ∈ payloadAction? job.payload,
    ¬CancelsByAdmin db id action)
    ids db after := by
  unfold telegramAction at done
  split at done
  · cases done
  case h_2 request action approver named payload =>
    obtain ⟨id, asked, found⟩ := bind_eq_some_iff.mp named
    split at done
    · cases done
      exact ⟨[], (enqueueJob_queues (by decide) _ _ _ _).performs⟩
    refine ⟨_, (transitionRequest_performs done).imp (fun given => given) (fun _ fits => fits)
      (fun _ other => ?_) (List.Subset.refl _)⟩
    rw [(lookup_some found).2]
    exact other id asked action (by rw [payload]; rfl)
  · cases done
    exact ⟨[], (enqueueJob_queues (by decide) _ _ _ _).performs⟩

theorem runJob_performs (done : runJob env db job = .ok after) :
    ∃ ids, Performs (LifecycleSound db) False (TimedJob db job) ids db after := by
  unfold runJob at done
  split at done
  case h_1 kind =>
    obtain ⟨id, asked, rest⟩ := bind_ok done
    obtain ⟨⟨allocated, result⟩, allocates, last⟩ := bind_ok rest
    cases last
    refine ⟨_, (allocateRequest_performs allocates).imp (fun _ => trivial) (fun _ never => never.elim)
      (fun sound timed r found committed => ?_) (List.Subset.refl _)⟩
    -- committed events put the request into the distributed phase
    have unfailed := timed.allocates kind id (jobRequestId_ok asked) r found committed
    obtain ⟨positive, p, inPhase⟩ := (sound_of_order (record_order found)).mp (sound.records id)
    have distributed := (inPhase.distributed_iff positive).mpr fun none =>
      committed (record_events_eq_zero.mp none)
    exact sound.unstopped_of_filed found (by simpa [Db.record, distributed] using inPhase.filed) unfailed
  case h_2 =>
    obtain ⟨⟨served, counts⟩, passes, last⟩ := bind_ok done
    cases last
    exact ⟨_, fulfillRoundRobin_performs passes⟩
  case h_3 kind =>
    obtain ⟨id, asked, delivers⟩ := bind_ok done
    exact ⟨_, (deliverRequest_performs delivers).imp (fun _ => trivial) (fun _ never => never.elim)
      (fun sound timed => ⟨sound, timed.delivers kind id (jobRequestId_ok asked)⟩) (List.Subset.refl _)⟩
  case h_4 kind =>
    obtain ⟨ids, acts⟩ := telegramAction_performs done
    exact ⟨ids, acts.imp (fun _ => trivial) (fun _ never => never.elim) (fun _ timed => timed.decides kind)
      (List.Subset.refl _)⟩
  · cases done
    exact ⟨[], .refl _⟩

theorem runJob_issues (sound : LifecycleSound db) (done : runJob env db job = .ok after) :
    LicenceFrame db after ∧ Issues db after := by
  have both : ∀ {a b : Db}, LicenceStep a b → LicenceFrame a b ∧ Issues a b :=
    fun step => ⟨step.toLicenceFrame, step.issues⟩
  unfold runJob at done
  split at done
  · obtain ⟨requestId, _, rest⟩ := bind_ok done
    obtain ⟨⟨allocated, result⟩, allocates, last⟩ := bind_ok rest
    cases last
    exact allocateRequest_issues allocates
  · obtain ⟨⟨served, counts⟩, passes, last⟩ := bind_ok done
    cases last
    have pass : Performs _ True True _ db after := fulfillRoundRobin_performs passes
    exact both (pass.licence sound trivial)
  · obtain ⟨requestId, _, delivers⟩ := bind_ok done
    exact both ((deliverRequest_performs delivers).licence trivial trivial)
  · obtain ⟨_, acts⟩ := telegramAction_performs done
    exact both (acts.licence trivial trivial)
  · cases done
    exact both (.refl _)

theorem processJob_cases (done : processJob env db jobId = .ok after) :
    after = db ∨ ∃ job worked, db.job? jobId = some job ∧ runJob env db job = .ok worked ∧
    after = worked.setJob jobId completed := by
  unfold processJob at done
  split at done
  · cases done
    exact .inl rfl
  case h_2 job found =>
  obtain ⟨worked, runs, last⟩ := bind_ok done
  cases last
  exact .inr ⟨job, worked, found, runs, rfl⟩

theorem completed_quiet (db : Db) (jobId : Nat) : Quiet db (db.setJob jobId completed) :=
  setJob_quiet (f := completed) (fun _ => rfl) (fun _ => rfl) db jobId

theorem generationFailed_edge (now : Instant) : Edge (generationFailed now) .failed :=
  ⟨⟨fun _ => rfl, fun _ => rfl⟩, fun _ => ⟨_, _, _, _, _, _, _, rfl⟩, by decide⟩

theorem failedJob_quiet (error : String) (retryAt : Option Instant) (db : Db) (jobId : Nat) :
    Quiet db (db.setJob jobId (failedJob error retryAt)) := by
  apply setJob_quiet
  · intro j
    unfold failedJob
    split <;> rfl
  intro j
  unfold failedJob
  split <;> rfl

theorem alertOperators_quiet (db : Db) (job : Job) (now : Instant) :
    Quiet db (alertOperators db job now) := by
  unfold alertOperators
  split
  · have queued := enqueueJob_quiet
      (by decide : JobKind.other "notify_telegram_action_failure" ≠ .deliverRequest) db none .empty now
    exact queued.trans
      (setJob_quiet (f := fun j => { j with failureNotificationJobId := some (db.jobSeq + 1) })
        (fun _ => rfl) (fun _ => rfl) _ _)
  · exact .refl db

theorem alertOperators_onlyJobs (db : Db) (job : Job) (now : Instant) :
    db.OnlyJobs (alertOperators db job now) := by
  unfold alertOperators
  split
  · exact ⟨_, _, rfl⟩
  · exact .refl db

/-- A failed allocation gives the hold back and revives only what may be allocated; a failed
delivery keeps its artifact. -/
theorem failRequest_performs {request : LeadRequest} : Performs (db.request? request.id = some request ∧
    (job.kind = .deliverRequest → (db.record request.id).filed))
    (job.kind = .allocateRequest →
      (db.artifact? request.id).isSome ∨ Allocatable db request ∨ Licensed db request)
    C [request.id] db (failRequest db job request error now) := by
  have stops : RequestStatus.failed ∈ stoppedStatuses := by decide
  unfold failRequest
  split
  case h_1 allocates =>
    refine (released_performs (generationFailed_edge now).toMarks (.refl _)
      (fun given => .generationFailed (record_order given.1)) (fun given fits => ?_)
      fun _ _ _ _ _ => Timed.stops rfl stops).queued (announced_queues _ _ _ _)
    rcases fits allocates with filed | fit
    · exact filed_licence (generationFailed_edge now) (by decide) filed
    refine setRequest_licence (generationFailed_edge now) fun r found _ => ?_
    cases some.inj (given.1.symm.trans found)
    exact fit
  case h_2 delivers =>
    refine (notified_performs (deliveryFailed_edge now) (.inr (.inl rfl)) (fun given => given.2 delivers)
      fun _ _ _ _ _ => Timed.stops rfl stops).trans
        (markDeliveryFailed_performs.imp (fun given => ?_) (fun _ fits => fits)
          (fun _ due => due) (List.Subset.refl _))
    rw [(setRequest_rewrites (deliveryFailed_edge now).toMarks db request.id).self]
    exact given.2 delivers
  · exact .refl db

theorem handleFailure_cases (db : Db) (jobId : Nat) (error : String) (retryAt : Option Instant)
    (now : Instant) :
    handleFailure db jobId error retryAt now = db ∨ ∃ job recorded, db.job? jobId = some job ∧
    Quiet db recorded ∧
    db.OnlyJobs recorded ∧ (handleFailure db jobId error retryAt now = recorded ∨
    ∃ request, job.requestId.bind db.request? = some request ∧
    handleFailure db jobId error retryAt now = failRequest recorded job request error now) := by
  unfold handleFailure
  split
  · exact .inl rfl
  case h_2 job found =>
  split
  · exact .inr ⟨job, _, found, failedJob_quiet error retryAt db jobId, ⟨_, _, rfl⟩, .inl rfl⟩
  have recorded := (failedJob_quiet error none db jobId).trans
    (alertOperators_quiet (db.setJob jobId (failedJob error none)) job now)
  have only : db.OnlyJobs (alertOperators (db.setJob jobId (failedJob error none)) job now) :=
    Db.OnlyJobs.trans ⟨_, _, rfl⟩ (alertOperators_onlyJobs _ job now)
  refine .inr ⟨job, _, found, recorded, only, ?_⟩
  obtain ⟨jobs, jobSeq, frame⟩ := only
  have rows : (alertOperators (db.setJob jobId (failedJob error none)) job now).request? = db.request? := by
    rw [frame]
    rfl
  simp only [rows]
  split
  · exact .inl rfl
  case h_2 request named => exact .inr ⟨request, named, rfl⟩

theorem handleFailure_performs {retryAt : Option Instant} (sound : LifecycleSound db) :
    LifecycleStep db (handleFailure db jobId error retryAt now) ∧
    ((∀ job r, db.job? jobId = some job → job.kind = .allocateRequest →
      job.requestId.bind db.request? = some r →
      (db.artifact? r.id).isSome ∨ Allocatable db r ∨ Licensed db r) →
      LicenceStep db (handleFailure db jobId error retryAt now)) ∧
    (Closing db → Closing (handleFailure db jobId error retryAt now)) := by
  rcases handleFailure_cases db jobId error retryAt now with
    same | ⟨job, recorded, found, quiet, only, same | ⟨request, named, same⟩⟩
  · rw [same]
    exact ⟨.refl db, fun _ => .refl db, id⟩
  · rw [same]
    exact ⟨quiet.step, fun _ => only.licenceStep, only.closing⟩
  rw [same]
  obtain ⟨requestId, asks, answered⟩ := bind_eq_some_iff.mp named
  have stored := request_stored answered
  have fails : Performs _ _ True _ recorded (failRequest recorded job request error now) :=
    failRequest_performs
  have given : recorded.request? request.id = some request ∧
      (job.kind = .deliverRequest → (recorded.record request.id).filed) := by
    refine ⟨?_, fun delivers => ?_⟩
    · obtain ⟨_, _, rfl⟩ := only
      exact stored
    -- a delivery job was queued for a request with an artifact
    have queued : job.requestId ∈ db.deliveries :=
      mem_map_of_mem (mem_filter.mpr ⟨(lookup_some found).1, by simpa using delivers⟩)
    obtain ⟨id, same, filed⟩ := sound.deliveries _ queued
    rw [asks] at same
    cases same
    rw [quiet.records, (lookup_some answered).2]
    exact filed
  refine ⟨quiet.step.trans (fails.step given), fun fit => ?_,
    fun closing => fails.closing given trivial (only.closing closing)⟩
  refine only.licenceStep.trans (fails.licence given fun allocates => ?_)
  have fits := fit job request found allocates named
  obtain ⟨_, _, rfl⟩ := only
  exact fits.imp_right fun fit => fit.imp_left (allocatable_congr (by rfl) request).mpr

end

end Jawnix
