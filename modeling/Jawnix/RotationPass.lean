import Jawnix.WorkerServices

/-!
# What one pass of the rotation does

The whole of `fulfill_round_robin`. Its selection is made before the first turn: the
candidates are grouped, the groups put in the order of their last fulfillment and
each names one request. The turns then change requests, inventory and fulfillment
times, each those of its own group, so that the selection stays the one a later turn
would have made.
-/
namespace Jawnix

structure RotationCandidate (env : RotationEnv) (db : Db) (item : LeadRequest × Customer) : Prop where
  stored : item.1 ∈ db.requests
  waits : item.1.status = .approved ∨ item.1.status = .waitingInventory
  unlocked : env.lockedElsewhere item.1.id = false
  owner : db.customer? item.1.customerId = some item.2
  distributes : db.mayDistribute item.2

def FulfilledBefore : Option Instant → Option Instant → Prop
  | none, _ => True
  | some _, none => False
  | some s, some t => s ≤ t

def rotationVisits (env : RotationEnv) (db : Db) : List (LeadRequest × Customer) :=
  (sortByKey (groupOrder db) (groupBy (fun item => rotationKey item.2) (rotationRequests env db))).filterMap
    (fun entry => (sortByKey itemOrder entry.2).head?)

section
variable {env : RotationEnv} {db : Db}

theorem rotationTurns_eq (env : RotationEnv) (db : Db) :
    rotationTurns env db = (rotationVisits env db).map fun item => item.1.id :=
  (List.map_filterMap).symm

theorem mem_rotationRequests_iff {item : LeadRequest × Customer} :
    item ∈ rotationRequests env db ↔ RotationCandidate env db item := by
  obtain ⟨r, c⟩ := item
  constructor
  · intro member
    obtain ⟨s, sorted, paired⟩ := mem_filterMap.mp member
    obtain ⟨d, owner, takes⟩ := bind_eq_some_iff.mp paired
    split at takes
    case isTrue distributes =>
      cases takes
      have kept := mem_filter.mp ((List.mem_insertionSort _).mp sorted)
      simp only [and_eq_true, or_eq_true, decide_eq_true_eq, Bool.not_eq_true'] at kept
      exact ⟨kept.1, kept.2.1, kept.2.2, owner, distributes⟩
    case isFalse => cases takes
  rintro ⟨stored, waits, unlocked, owner, distributes⟩
  refine mem_filterMap.mpr ⟨r, (List.mem_insertionSort _).mpr (mem_filter.mpr ⟨stored, ?_⟩), ?_⟩
  · simp only [and_eq_true, or_eq_true, decide_eq_true_eq, Bool.not_eq_true']
    exact ⟨waits, unlocked⟩
  · dsimp only at owner distributes
    rw [owner, bind_some, if_pos distributes]

theorem sortByKey_sorted {α : Type} (key : α → List Int) (xs : List α) :
    (sortByKey key xs).Pairwise fun a b => List.le (key a) (key b) := by
  have total : Std.Total fun a b => decide (List.le (key a) (key b)) :=
    ⟨fun a b => (List.le_total (key a) (key b)).imp decide_eq_true decide_eq_true⟩
  have trans : IsTrans α fun a b => decide (List.le (key a) (key b)) :=
    ⟨fun a b c ab bc => decide_eq_true (List.le_trans (of_decide_eq_true ab) (of_decide_eq_true bc))⟩
  exact (List.pairwise_insertionSort _ xs).imp fun le => of_decide_eq_true le

theorem mem_sortByKey {α : Type} {key : α → List Int} {xs : List α} {x : α} :
    x ∈ sortByKey key xs ↔ x ∈ xs := List.mem_insertionSort _

theorem sortByKey_head {α : Type} {key : α → List Int} {xs : List α} {x : α}
    (first : (sortByKey key xs).head? = some x) : x ∈ xs ∧ ∀ y ∈ xs, List.le (key x) (key y) := by
  refine ⟨mem_sortByKey.mp (List.mem_of_mem_head? first), fun y member => ?_⟩
  have sorted := sortByKey_sorted key xs
  obtain ⟨rest, split⟩ := List.head?_eq_some_iff.mp first
  have sortedMember : y ∈ sortByKey key xs := mem_sortByKey.mpr member
  rw [split] at sorted sortedMember
  rcases mem_cons.mp sortedMember with rfl | later
  · exact List.le_refl _
  · exact List.rel_of_pairwise_cons sorted later

theorem fulfilledBefore_of_key {a b : Option Instant} {xs ys : List Int}
    (le : List.le (fulfilledKey a ++ xs) (fulfilledKey b ++ ys)) : FulfilledBefore a b := by
  cases a with
  | none => trivial
  | some s =>
  cases b with
  | none =>
    change List.le ((1 : Int) :: _) (0 :: _) at le
    rcases List.cons_le_cons_iff.mp le with less | ⟨same, _⟩
    · exact absurd less (by decide)
    · exact absurd same (by decide)
  | some t =>
  change List.le ((1 : Int) :: s :: _) (1 :: t :: _) at le
  rcases List.cons_le_cons_iff.mp le with less | ⟨_, rest⟩
  · exact absurd less (by decide)
  rcases List.cons_le_cons_iff.mp rest with less | ⟨same, _⟩
  · exact Int.le_of_lt less
  · exact Int.le_of_eq same

structure RotationSchema (db : Db) : Prop where
  requests : Keyed LeadRequest.id db.requests
  agencies : ∀ c ∈ db.customers, ∀ a, c.agencyId = some a → (db.agency? a).isSome

theorem groupFulfilledAt_eq (schema : RotationSchema db) {x y : LeadRequest × Customer}
    (first : RotationCandidate env db x) (second : RotationCandidate env db y)
    (group : rotationKey x.2 = rotationKey y.2) :
    groupFulfilledAt db x.2 = groupFulfilledAt db y.2 := by
  obtain ⟨r, c⟩ := x
  obtain ⟨q, d⟩ := y
  have ownerC : db.customer? r.customerId = some c := first.owner
  have ownerD : db.customer? q.customerId = some d := second.owner
  dsimp only [rotationKey] at group
  dsimp only [groupFulfilledAt]
  cases joins : c.agencyId with
  | none =>
    cases joins' : d.agencyId with
    | none =>
      rw [joins, joins'] at group
      have same : c.id = d.id := congrArg Prod.snd group
      rw [← (lookup_some ownerC).2, same, (lookup_some ownerD).2, ownerD] at ownerC
      cases ownerC
      rfl
    | some b =>
      rw [joins, joins'] at group
      cases group
  | some a =>
  cases joins' : d.agencyId with
  | none =>
    rw [joins, joins'] at group
    cases group
  | some b =>
    rw [joins, joins'] at group
    have same : a = b := congrArg Prod.snd group
    subst same
    obtain ⟨agency, found⟩ := isSome_iff_exists.mp (schema.agencies c (lookup_some ownerC).1 a joins)
    rw [bind_some, found]

structure RotationSelection (env : RotationEnv) (db : Db) (visits : List (LeadRequest × Customer)) :
    Prop where
  candidates : ∀ x ∈ visits, RotationCandidate env db x
  /-- Every group with a candidate has its turn, and only one. -/
  everyGroup : ∀ y, RotationCandidate env db y → ∃ x ∈ visits, rotationKey x.2 = rotationKey y.2
  oneTurn : visits.Pairwise (fun x y => rotationKey x.2 ≠ rotationKey y.2)
  longestAgo :
    visits.Pairwise (fun x y => FulfilledBefore (groupFulfilledAt db x.2) (groupFulfilledAt db y.2))
  minimal : ∀ x ∈ visits, ∀ y, RotationCandidate env db y → rotationKey y.2 = rotationKey x.2 →
    List.le (itemOrder x) (itemOrder y)

theorem visit_of_group {entry : (Int × Nat) × List (LeadRequest × Customer)} {x : LeadRequest × Customer}
    (member : entry ∈ groupBy (fun item => rotationKey item.2) (rotationRequests env db))
    (first : (sortByKey itemOrder entry.2).head? = some x) :
    RotationCandidate env db x ∧ rotationKey x.2 = entry.1 ∧
    ∀ y, RotationCandidate env db y → rotationKey y.2 = entry.1 → List.le (itemOrder x) (itemOrder y) := by
  obtain ⟨inGroup, least⟩ := sortByKey_head first
  obtain ⟨served, key⟩ := Dict.mem_groupBy member x inGroup
  refine ⟨mem_rotationRequests_iff.mp served, key, fun y candidate same => least y ?_⟩
  rw [(mem_groupBy_iff.mp member).1, mem_filter, decide_eq_true_eq]
  exact ⟨mem_rotationRequests_iff.mpr candidate, same⟩

theorem groupOrder_eq {entry : (Int × Nat) × List (LeadRequest × Customer)} (schema : RotationSchema db)
    (member : entry ∈ groupBy (fun item => rotationKey item.2) (rotationRequests env db))
    {x : LeadRequest × Customer} (candidate : RotationCandidate env db x)
    (group : rotationKey x.2 = entry.1) :
    groupOrder db entry = fulfilledKey (groupFulfilledAt db x.2) ++ [entry.1.1, (entry.1.2 : Int)] := by
  obtain ⟨key, items⟩ := entry
  cases items with
  | nil => exact absurd rfl (mem_groupBy_iff.mp member).2
  | cons y rest =>
    obtain ⟨served, keyY⟩ := Dict.mem_groupBy member y mem_cons_self
    have time := groupFulfilledAt_eq schema (mem_rotationRequests_iff.mp served) candidate
      (keyY.trans group.symm)
    change fulfilledKey (groupFulfilledAt db y.2) ++ _ = _
    rw [time]

theorem rotationVisits_selection (schema : RotationSchema db) :
    RotationSelection env db (rotationVisits env db) := by
  have group : ∀ {x}, x ∈ rotationVisits env db → ∃ entry ∈ groupBy (fun item => rotationKey item.2)
      (rotationRequests env db), (sortByKey itemOrder entry.2).head? = some x := by
    intro x visited
    obtain ⟨entry, sorted, first⟩ := mem_filterMap.mp visited
    exact ⟨entry, mem_sortByKey.mp sorted, first⟩
  have groups := List.perm_insertionSort (fun a b => decide (List.le (groupOrder db a) (groupOrder db b)))
    (groupBy (fun item => rotationKey item.2) (rotationRequests env db))
  refine ⟨fun x visited => ?_, fun y candidate => ?_, ?_, ?_, fun x visited y candidate same => ?_⟩
  · obtain ⟨entry, member, first⟩ := group visited
    exact (visit_of_group member first).1
  · -- the group of a candidate is not empty, so it names a request
    let items := (rotationRequests env db).filter (fun item => decide (rotationKey item.2 = rotationKey y.2))
    have inGroup : y ∈ items := mem_filter.mpr ⟨mem_rotationRequests_iff.mpr candidate, decide_eq_true rfl⟩
    have member : (rotationKey y.2, items) ∈ groupBy (fun item => rotationKey item.2)
      (rotationRequests env db) := mem_groupBy_iff.mpr ⟨rfl, ne_nil_of_mem inGroup⟩
    obtain ⟨x, first⟩ : ∃ x, (sortByKey itemOrder items).head? = some x :=
      ⟨_, List.head?_eq_some_head (ne_nil_of_mem (mem_sortByKey.mpr inGroup))⟩
    exact ⟨x, mem_filterMap.mpr ⟨_, mem_sortByKey.mpr member, first⟩, (visit_of_group member first).2.1⟩
  · have distinct : (sortByKey (groupOrder db) (groupBy (fun item => rotationKey item.2)
        (rotationRequests env db))).Pairwise fun a b => a.1 ≠ b.1 :=
      pairwise_map.mp ((groups.map Prod.fst).nodup_iff.mpr (Dict.keys_groupBy_nodup _ _))
    refine List.pairwise_filterMap.mpr (distinct.imp_of_mem ?_)
    intro a b inA inB differ x firstX y firstY same
    obtain ⟨_, keyX, _⟩ := visit_of_group (mem_sortByKey.mp inA) firstX
    obtain ⟨_, keyY, _⟩ := visit_of_group (mem_sortByKey.mp inB) firstY
    exact differ (keyX.symm.trans (same.trans keyY))
  · refine List.pairwise_filterMap.mpr ((sortByKey_sorted (groupOrder db) _).imp_of_mem ?_)
    intro a b inA inB le x firstX y firstY
    obtain ⟨candidateX, keyX, _⟩ := visit_of_group (mem_sortByKey.mp inA) firstX
    obtain ⟨candidateY, keyY, _⟩ := visit_of_group (mem_sortByKey.mp inB) firstY
    rw [groupOrder_eq schema (mem_sortByKey.mp inA) candidateX keyX,
      groupOrder_eq schema (mem_sortByKey.mp inB) candidateY keyY] at le
    exact fulfilledBefore_of_key le
  obtain ⟨entry, member, first⟩ := group visited
  obtain ⟨_, key, least⟩ := visit_of_group member first
  exact least y candidate (same.trans key)

end

def Db.rotationJobs (db : Db) : Nat := db.jobs.countP fun j => j.kind = .fulfillRoundRobin

variable (db : Db)

theorem rotationJobs_enqueueJob (kind : JobKind) (requestId : Option Uuid) (payload : JobPayload)
    (now : Instant) :
    (enqueueJob db kind requestId payload now).rotationJobs =
    db.rotationJobs + if kind = .fulfillRoundRobin then 1 else 0 := by
  unfold Db.rotationJobs enqueueJob
  simp only [List.countP_append, List.countP_singleton, decide_eq_true_eq]

theorem rotationJobs_other {kind : JobKind} (other : kind ≠ .fulfillRoundRobin) (db : Db)
    (requestId : Option Uuid) (payload : JobPayload) (now : Instant) :
    (enqueueJob db kind requestId payload now).rotationJobs = db.rotationJobs := by
  rw [rotationJobs_enqueueJob, if_neg other, Nat.add_zero]

theorem rotationJobs_milestone (request : LeadRequest) (now : Instant) :
    (enqueueMilestoneEmail db request now).rotationJobs = db.rotationJobs := by
  unfold enqueueMilestoneEmail
  split
  · rfl
  split
  · rfl
  · exact rotationJobs_other (by decide) _ _ _ _

theorem GateOutcome.rotationJobs {platform : Platform} {env : RotationEnv} {db gated : Db}
    {request : LeadRequest} {ids : List Nat} {candidates : List LeadRequest} {blocks : Bool}
    (outcome : GateOutcome platform env db request ids candidates gated blocks) :
    gated.rotationJobs = db.rotationJobs := by
  cases outcome with
  | clear _ => rfl
  | confirmed _ _ _ _ _ _ => rfl
  | blocked noted =>
  unfold awaitDecision
  rw [rotationJobs_other (by decide), rotationJobs_milestone]
  rcases noted with rfl | ⟨snapshot, opens⟩
  · rfl
  rw [openConflict] at opens
  split at opens
  · cases opens
  cases opens
  apply (rotationJobs_other _ _ _ _ _).trans
  · rfl
  · decide

section
variable {platform : Platform} {env : AllocationEnv} {db filed after : Db} {request : LeadRequest}
  {customer : Customer}
  {result : AllocationResult}

/-- What an allocation does to the request's row, and that it queues no pass. -/
structure AllocationEffect (db after : Db) (request : LeadRequest) (status : RequestStatus) : Prop where
  own : ∃ r, after.request? request.id = some r ∧ r.status = status
  queue : after.rotationJobs = db.rotationJobs

theorem AllocationEffect.settled {f : LeadRequest → LeadRequest} (marks : Marks f .generated)
    (found : db.request? request.id = some request) (requests : filed.requests = db.requests)
    (jobs : filed.jobs = db.jobs)
    (captures :
      captureBatchHold (queueDelivery (filed.setRequest request.id f) request.id env.queuedAt) request
      env.chargeId env.capturedAt = .ok after) : AllocationEffect db after request .generated := by
  obtain ⟨ledger, holds, rfl⟩ := (captureBatchHold_captured captures).frame
  refine ⟨⟨f request, ?_, congrArg Order.status (marks.order request)⟩, ?_⟩
  · change lookup LeadRequest.id request.id (adjust LeadRequest.id request.id f filed.requests) = _
    rw [requests]
    exact lookup_adjust_self (fun r _ => marks.id r) found
  change (queueDelivery (filed.setRequest request.id f) request.id env.queuedAt).rotationJobs = _
  unfold queueDelivery
  rw [rotationJobs_other (by decide), rotationJobs_other (by decide), rotationJobs_other (by decide)]
  exact congrArg (List.countP fun j => j.kind = .fulfillRoundRobin) jobs

theorem AllocationOutcome.effect (found : db.request? request.id = some request)
    (outcome : AllocationOutcome platform env db request customer after result) :
    AllocationEffect db after request result.status := by
  cases outcome with
  | replayed _ _ restores files captures status =>
    obtain ⟨_, _, _, filing⟩ := (generateArtifact_filed files).frame
    obtain ⟨_, _, restored⟩ := restoreEvents_ok restores
    rw [restored] at filing
    rw [status]
    exact .settled generated_edge.toMarks found (by rw [filing]) (by rw [filing]) captures
  | idle _ _ status => exact ⟨⟨request, found, status.symm⟩, rfl⟩
  | @shortage available _ _ _ =>
    refine ⟨⟨waiting request.leadCount available request, ?_, rfl⟩, ?_⟩
    · obtain ⟨_, _, parked⟩ := reportShortage_parked env db request available
      rw [parked]
      exact lookup_adjust_self (fun _ _ => rfl) found
    unfold reportShortage
    rw [rotationJobs_other (by decide), rotationJobs_milestone]
    rfl
  | distributed _ _ _ _ _ inserts files captures status =>
    obtain ⟨_, _, _, filing⟩ := (generateArtifact_filed files).frame
    rw [insertEvents_ok inserts] at filing
    rw [status]
    exact .settled (processed_edge _ _).toMarks found (by rw [filing]; rfl) (by rw [filing]; rfl) captures

end

section
variable {platform : Platform} {env : RotationEnv} {db gated after : Db} {request : LeadRequest}
  {customer : Customer}
  {result : TurnResult}

/-- One turn: the row of its own request, the times of its own group if it was fulfilled, and no
pass queued. -/
structure TurnEffect (db after : Db) (request : LeadRequest) (customer : Customer)
    (result : TurnResult) : Prop where
  others : ∀ j, j ≠ request.id → after.request? j = db.request? j
  own : ∃ r, after.request? request.id = some r ∧ (r.status = .generated ↔ result = .attempted .generated)
  customers : ∀ id, (result = .attempted .generated → id ≠ customer.id) →
    after.customer? id = db.customer? id
  agencies : ∀ id, (result = .attempted .generated → customer.agencyId ≠ some id) →
    after.agency? id = db.agency? id
  queue : after.rotationJobs = db.rotationJobs

theorem markFulfilled_customers (db : Db) (customer : Customer) (at_ : Instant) {id : Nat}
    (other : id ≠ customer.id) :
    (markFulfilled db customer at_).customer? id = db.customer? id := by
  have kept :
    (db.setCustomer customer.id fun c => { c with lastFulfilledAt := some at_ }).customer? id =
    db.customer? id :=
    lookup_adjust_of_ne (fun _ _ => rfl) other
  unfold markFulfilled
  split <;> exact kept

theorem markFulfilled_agencies (db : Db) (customer : Customer) (at_ : Instant) {id : Nat}
    (other : customer.agencyId ≠ some id) :
    (markFulfilled db customer at_).agency? id = db.agency? id := by
  unfold markFulfilled
  split
  · rfl
  case h_2 agencyId joins =>
  have apart : id ≠ agencyId := fun same => other (same ▸ joins)
  exact lookup_adjust_of_ne (fun _ _ => rfl) apart

theorem attempt_ends (done : attempt platform env db request customer = .ok (after, result)) :
    ∃ allocated outcome,
    allocateRequest platform (env.allocation request.id) (resumeWaiting db request) request.id =
    .ok (allocated, outcome) ∧ result = .attempted outcome.status ∧
    (outcome.status = .generated ∧ (∃ at_, after = markFulfilled allocated customer at_) ∨
    outcome.status ≠ .generated ∧ after = allocated) := by
  obtain ⟨⟨allocated, outcome⟩, allocates, rest⟩ := bind_ok done
  refine ⟨allocated, outcome, allocates, ?_⟩
  dsimp only at rest
  split at rest
  case isTrue ended =>
    cases rest
    exact ⟨rfl, .inl ⟨ended, _, rfl⟩⟩
  case isFalse ended =>
  cases rest
  exact ⟨rfl, .inr ⟨ended, rfl⟩⟩

theorem TurnEffect.markFulfilled
    (effect : TurnEffect db gated request customer (.attempted .generated)) (at_ : Instant) :
    TurnEffect db (markFulfilled gated customer at_) request customer (.attempted .generated) := by
  obtain ⟨others, own, customers, agencies, queue⟩ := effect
  obtain ⟨_, _, frame⟩ := markFulfilled_frame gated customer at_
  refine ⟨fun j differs => ?_, ?_, fun id other => ?_, fun id other => ?_, ?_⟩
  · rw [frame]
    exact others j differs
  · rw [frame]
    exact own
  · rw [markFulfilled_customers gated customer at_ (other rfl)]
    exact customers id other
  · rw [markFulfilled_agencies gated customer at_ (other rfl)]
    exact agencies id other
  · rw [frame]
    exact queue

theorem attempt_effect (done : attempt platform env db request customer = .ok (after, result)) :
    TurnEffect db after request customer result := by
  obtain ⟨allocated, outcome, allocates, rfl, ends⟩ := attempt_ends done
  obtain ⟨r, c, foundR, _, allocation⟩ := allocateRequest_outcome allocates
  have named : r.id = request.id := (lookup_some foundR).2
  obtain ⟨⟨_, _, _, _, _, _, _, _, _, _, _, tables⟩, f, progress, requests⟩ := allocation.frame
  have effect := allocation.effect (named ▸ foundR)
  rw [named] at requests
  have resumes : ∀ j, j ≠ request.id → (resumeWaiting db request).request? j = db.request? j := by
    intro j differs
    rcases resumeWaiting_requests db request with same | moved
    · rw [same]
    rw [moved]
    exact lookup_adjust_of_ne (fun _ _ => rfl) differs
  have frame : ∃ rows, resumeWaiting db request = { db with requests := rows } := by
    rcases resumeWaiting_requests db request with same | moved
    · exact ⟨db.requests, same⟩
    · exact ⟨_, moved⟩
  obtain ⟨rows, resumed⟩ := frame
  have turn : TurnEffect db allocated request customer (.attempted outcome.status) := by
    refine ⟨fun j differs => ?_, ?_, fun id _ => ?_, fun id _ => ?_, ?_⟩
    · rw [← resumes j differs]
      change lookup LeadRequest.id j allocated.requests = _
      rw [requests]
      refine lookup_adjust_of_ne (fun r _ => ?_) differs
      obtain ⟨_, _, _, _, _, _, _, same⟩ := progress r
      rw [same]
    · obtain ⟨row, stored, status⟩ := effect.own
      refine ⟨row, named ▸ stored, ?_⟩
      rw [status]
      exact ⟨fun same => congrArg TurnResult.attempted same, fun same => TurnResult.attempted.inj same⟩
    · rw [tables, resumed]
      rfl
    · rw [tables, resumed]
      rfl
    · rw [effect.queue, resumed]
      rfl
  rcases ends with ⟨ended, at_, rfl⟩ | ⟨_, rfl⟩
  · rw [ended] at turn ⊢
    exact turn.markFulfilled at_
  · exact turn

theorem rotationTurn_effect (found : db.request? request.id = some request)
    (owner : db.customer? request.customerId = some customer)
    (waits : request.status = .approved ∨ request.status = .waitingInventory)
    (done : rotationTurn platform env db request.id = .ok (after, result)) :
    TurnEffect db after request customer result := by
  obtain ⟨r, c, gated, blocks, foundR, ownerC, gates, ends⟩ := rotationTurn_cases done
  cases foundR.symm.trans found
  cases ownerC.symm.trans owner
  have gate : (∃ rows conflicts jobs jobSeq, gated = { db with requests := rows, conflicts, jobs, jobSeq }) ∧
      gated.rotationJobs = db.rotationJobs ∧ (gated.requests = db.requests ∨ blocks ∧ ∃ available,
        gated.requests = adjust LeadRequest.id request.id (awaiting available) db.requests) := by
    rcases inventoryConflictBlocks_outcome gates with ⟨_, rfl, _⟩ | ⟨_, outcome⟩
    · exact ⟨⟨_, _, _, _, rfl⟩, rfl, .inl rfl⟩
    · exact ⟨outcome.change.1, outcome.rotationJobs,
        outcome.requests.imp id fun ⟨blocked, parked⟩ => ⟨blocked, _, parked⟩⟩
  obtain ⟨⟨_, _, _, _, frame⟩, queue, requests⟩ := gate
  rcases ends with ⟨_, rfl, rfl⟩ | ⟨passes, attempts⟩
  · have own : ∃ row, after.request? request.id = some row ∧ row.status ≠ .generated := by
      rcases requests with same | ⟨_, available, parked⟩
      · refine ⟨request, (congrArg (lookup LeadRequest.id request.id) same).trans found, ?_⟩
        rcases waits with open_ | open_ <;> rw [open_] <;> decide
      exact ⟨awaiting available request,
        (congrArg (lookup LeadRequest.id request.id) parked).trans
          (lookup_adjust_self (fun _ _ => rfl) found),
        RequestStatus.noConfusion⟩
    obtain ⟨row, stored, unfulfilled⟩ := own
    refine ⟨fun j differs => ?_, ⟨row, stored, fun same => absurd same unfulfilled, nofun⟩,
      fun id _ => by rw [frame]; rfl,
      fun id _ => by rw [frame]; rfl, queue⟩
    rcases requests with same | ⟨_, available, parked⟩
    · exact congrArg (lookup LeadRequest.id j) same
    · exact (congrArg (lookup LeadRequest.id j) parked).trans (lookup_adjust_of_ne (fun _ _ => rfl) differs)
  have unmoved : gated.requests = db.requests := by
    rcases requests with same | ⟨blocked, _⟩
    · exact same
    · cases passes.symm.trans blocked
  have rows : ∀ j, gated.request? j = db.request? j := fun j => congrArg (lookup LeadRequest.id j) unmoved
  obtain ⟨others, own, customers, agencies, queued⟩ := attempt_effect attempts
  refine ⟨fun j differs => (others j differs).trans (rows j), own, fun id other =>
    (customers id other).trans ?_, fun id other => (agencies id other).trans ?_, queued.trans queue⟩
  · rw [frame]
    rfl
  · rw [frame]
    rfl

end

def FulfilledBy (after : Db) (id : Uuid) : Prop :=
  (∃ r, db.request? id = some r ∧ r.status ≠ .generated) ∧ ∃ r, after.request? id = some r ∧
    r.status = .generated

structure PassEffect (after : Db) (visits fulfilled : List (LeadRequest × Customer)) : Prop where
  among : fulfilled ⊆ visits
  others : ∀ j, j ∉ visits.map (fun x => x.1.id) → after.request? j = db.request? j ∧
    after.record j = db.record j
  own : ∀ x ∈ visits, ∃ r, after.request? x.1.id = some r ∧ (r.status = .generated ↔ x ∈ fulfilled)
  customers : ∀ id, (∀ x ∈ fulfilled, id ≠ x.2.id) → after.customer? id = db.customer? id
  agencies : ∀ id, (∀ x ∈ fulfilled, x.2.agencyId ≠ some id) → after.agency? id = db.agency? id
  queue : after.rotationJobs = db.rotationJobs

/-- What a turn reads of its request: the row is open and the Customer is its own. -/
structure Readable (x : LeadRequest × Customer) : Prop where
  found : db.request? x.1.id = some x.1
  owner : db.customer? x.1.customerId = some x.2
  waits : x.1.status = .approved ∨ x.1.status = .waitingInventory

section
variable {platform : Platform} {env : RotationEnv} {db after : Db} {counts counts' : RotationCounts}
  {x y : LeadRequest × Customer} {result : TurnResult}

/-- Later turns are of other requests and other Customers, so what they read is what the selection
read. -/
theorem Readable.later {x y : LeadRequest × Customer} (effect : TurnEffect db after x.1 x.2 result)
    (readable : Readable db y) (request : y.1.id ≠ x.1.id) (customer : y.2.id ≠ x.2.id) :
    Readable after y := by
  refine ⟨(effect.others _ request).trans readable.found, ?_, readable.waits⟩
  have named : y.2.id = y.1.customerId := (lookup_some readable.owner).2
  exact (effect.customers _ fun _ => named ▸ customer).trans readable.owner

def servedBy (x : LeadRequest × Customer) (result : TurnResult) : List (LeadRequest × Customer) :=
  if result = .attempted .generated then [x] else []

theorem mem_servedBy {x y : LeadRequest × Customer} :
    y ∈ servedBy x result ↔ result = .attempted .generated ∧ y = x := by
  unfold servedBy
  split
  case isTrue same => simp [same]
  case isFalse differs => simp [differs]

theorem PassEffect.refl (db : Db) : PassEffect db db [] [] where
  among := List.Subset.refl _
  others _ _ := ⟨rfl, rfl⟩
  own _ member := absurd member not_mem_nil
  customers _ _ := rfl
  agencies _ _ := rfl
  queue := rfl

theorem PassEffect.visit {served : Db} {x : LeadRequest × Customer}
    {rest fulfilled : List (LeadRequest × Customer)} (apart : ∀ y ∈ rest, x.1.id ≠ y.1.id)
    (effect : TurnEffect db served x.1 x.2 result)
    (records : ∀ j, j ≠ x.1.id → served.record j = db.record j)
    (pass : PassEffect served after rest fulfilled) :
    PassEffect db after (x :: rest) (servedBy x result ++ fulfilled) where
  among y member := by
    rcases mem_append.mp member with here | later
    · obtain ⟨_, rfl⟩ := mem_servedBy.mp here
      exact mem_cons_self
    · exact mem_cons_of_mem x (pass.among later)
  others j outside := by
    rw [map_cons, mem_cons, not_or] at outside
    obtain ⟨rows, kept⟩ := pass.others j outside.2
    exact ⟨rows.trans (effect.others j outside.1), kept.trans (records j outside.1)⟩
  own y member := by
    rcases mem_cons.mp member with rfl | inRest
    · -- no later turn touches the row, or names this request
      have unvisited : y.1.id ∉ rest.map fun z => z.1.id := by
        intro visited
        obtain ⟨z, inRest, same⟩ := mem_map.mp visited
        exact apart z inRest same.symm
      obtain ⟨row, stored, status⟩ := effect.own
      refine ⟨row, (pass.others _ unvisited).1.trans stored,
        status.trans ⟨fun generated => ?_, fun served => ?_⟩⟩
      · exact mem_append_left _ (mem_servedBy.mpr ⟨generated, rfl⟩)
      rcases mem_append.mp served with here | later
      · exact (mem_servedBy.mp here).1
      · exact absurd rfl (apart y (pass.among later))
    obtain ⟨row, stored, status⟩ := pass.own y inRest
    refine ⟨row, stored, status.trans ⟨mem_append_right _, fun served => ?_⟩⟩
    rcases mem_append.mp served with here | later
    · obtain ⟨_, rfl⟩ := mem_servedBy.mp here
      exact absurd rfl (apart y inRest)
    · exact later
  customers id other := (pass.customers id fun y member => other y (mem_append_right _ member)).trans
      (effect.customers id fun generated => other x (mem_append_left _ (mem_servedBy.mpr ⟨generated, rfl⟩)))
  agencies id other := (pass.agencies id fun y member => other y (mem_append_right _ member)).trans
      (effect.agencies id fun generated => other x (mem_append_left _ (mem_servedBy.mpr ⟨generated, rfl⟩)))
  queue := pass.queue.trans effect.queue

theorem Readable.records {x : LeadRequest × Customer} (readable : Readable db x)
    (turn : rotationTurn platform env db x.1.id = .ok (after, result)) (j : Uuid)
    (differs : j ≠ x.1.id) : after.record j = db.record j := by
  refine (rotationTurn_performs (C := True) turn).others (fun o order => ?_) j (by simpa using differs)
  rw [record_order readable.found] at order
  cases order
  change x.1.status ∈ openStatuses
  rcases readable.waits with same | same <;> rw [same] <;> decide

theorem rotate_effect {visits : List (LeadRequest × Customer)}
    (apart : visits.Pairwise fun x y => x.1.id ≠ y.1.id ∧ x.2.id ≠ y.2.id)
    (readable : ∀ x ∈ visits, Readable db x)
    (done : rotate platform env db counts (visits.map fun x => x.1.id) = .ok (after, counts')) :
    ∃ fulfilled, PassEffect db after visits fulfilled ∧
    counts'.fulfilled = counts.fulfilled + fulfilled.length := by
  induction visits generalizing db counts with
  | nil =>
    cases done
    exact ⟨[], .refl _, rfl⟩
  | cons x rest ih =>
  obtain ⟨⟨served, result⟩, turn, later⟩ := bind_ok done
  obtain ⟨apartX, apartRest⟩ := List.pairwise_cons.mp apart
  have here := readable x mem_cons_self
  have effect := rotationTurn_effect here.found here.owner here.waits turn
  have readableRest : ∀ y ∈ rest, Readable served y := fun y member =>
    (readable y (mem_cons_of_mem x member)).later effect (Ne.symm (apartX y member).1)
      (Ne.symm (apartX y member).2)
  obtain ⟨fulfilled, pass, counted⟩ := ih apartRest readableRest later
  refine ⟨_, pass.visit (fun y member => (apartX y member).1) effect (here.records turn), ?_⟩
  have grown : (counts.add result).fulfilled = counts.fulfilled + (servedBy x result).length := by
    cases result with
    | blocked => rfl
    | attempted status => cases status <;> rfl
  rw [counted, grown, length_append, Nat.add_assoc]

theorem Readable.open (readable : Readable db x) : x.1.status ≠ .generated := by
  rcases readable.waits with same | same <;> rw [same] <;> decide

theorem RotationCandidate.readable (keyed : Keyed LeadRequest.id db.requests)
    (candidate : RotationCandidate env db x) : Readable db x :=
  ⟨lookup_of_mem keyed candidate.stored, candidate.owner, candidate.waits⟩

theorem Readable.apart (first : Readable db x) (second : Readable db y)
    (groups : rotationKey x.2 ≠ rotationKey y.2) : x.1.id ≠ y.1.id ∧ x.2.id ≠ y.2.id := by
  have customers : x.1.customerId ≠ y.1.customerId := by
    intro same
    have owner := first.owner
    rw [same, second.owner] at owner
    exact groups (congrArg rotationKey (some.inj owner).symm)
  refine ⟨fun same => ?_, fun same => customers ?_⟩
  · have found := first.found
    rw [same, second.found] at found
    exact customers (congrArg LeadRequest.customerId (some.inj found).symm)
  · rw [← (lookup_some first.owner).2, ← (lookup_some second.owner).2, same]

/-- The fulfilled requests of a pass are those whose rows it takes to generated. -/
theorem PassEffect.fulfilledBy_iff {visits fulfilled : List (LeadRequest × Customer)}
    (pass : PassEffect db after visits fulfilled) (readable : ∀ x ∈ visits, Readable db x)
    {id : Uuid} : FulfilledBy db after id ↔ ∃ x ∈ fulfilled, x.1.id = id := by
  constructor
  · rintro ⟨⟨r, before, open_⟩, r', now, generated⟩
    by_cases visited : id ∈ visits.map (fun x => x.1.id)
    · obtain ⟨x, member, rfl⟩ := mem_map.mp visited
      obtain ⟨row, stored, status⟩ := pass.own x member
      cases stored.symm.trans now
      exact ⟨x, status.mp generated, rfl⟩
    rw [(pass.others id visited).1, before] at now
    cases now
    exact absurd generated open_
  rintro ⟨x, member, rfl⟩
  have read := readable x (pass.among member)
  obtain ⟨row, stored, status⟩ := pass.own x (pass.among member)
  exact ⟨⟨x.1, read.found, read.open⟩, row, stored, status.mpr member⟩

end

structure PassSpec (platform : Platform) (env : RotationEnv) (db after : Db)
    (visits : List (LeadRequest × Customer)) : Prop
    extends RotationSelection env db visits where
  /-- The pass is the loop over these turns in this order, and the job it may queue at its end. -/
  turns : ∃ served counts, rotate platform env db {} (visits.map fun x => x.1.id) = .ok (served, counts) ∧
    served.OnlyJobs after
  onePerGroup : ∀ r ∈ db.requests, ∀ q ∈ db.requests, ∀ c d, db.customer? r.customerId = some c →
    db.customer? q.customerId = some d → rotationKey c = rotationKey d → FulfilledBy db after r.id →
      FulfilledBy db after q.id → r = q
  onlyConsidered : ∀ r ∈ db.requests, r.id ∉ visits.map (fun x => x.1.id) →
    after.request? r.id = some r ∧ after.record r.id = db.record r.id
  suspended : ∀ r ∈ db.requests, ∀ c, db.customer? r.customerId = some c →
    db.mayDistribute c = false → after.request? r.id = some r ∧ after.record r.id = db.record r.id
  customers : ∀ id, after.customer? id ≠ db.customer? id → ∃ r ∈ db.requests, r.customerId = id ∧
    FulfilledBy db after r.id
  agencies : ∀ id, after.agency? id ≠ db.agency? id → ∃ r ∈ db.requests, ∃ c,
    db.customer? r.customerId = some c ∧ c.agencyId = some id ∧ FulfilledBy db after r.id
  requeued : (∃ r ∈ db.requests, FulfilledBy db after r.id) ∧
    (∃ r ∈ after.requests, r.status = .approved) → after.rotationJobs = db.rotationJobs + 1
  notRequeued :
    ¬((∃ r ∈ db.requests, FulfilledBy db after r.id) ∧ ∃ r ∈ after.requests, r.status = .approved) →
    after.rotationJobs = db.rotationJobs

section
variable {platform : Platform} {env : RotationEnv} {db served after : Db} {counts visited : RotationCounts}

theorem fulfillRoundRobin_ends (done : fulfillRoundRobin platform env db = .ok (after, counts)) :
    ∃ served, rotate platform env db {} (rotationTurns env db) = .ok (served, counts) ∧
    served.OnlyJobs after ∧
    ((0 < counts.fulfilled ∧ ∃ r ∈ after.requests, r.status = .approved) ∧
    after.rotationJobs = served.rotationJobs + 1 ∨
    ¬(0 < counts.fulfilled ∧ ∃ r ∈ after.requests, r.status = .approved) ∧
    after.rotationJobs = served.rotationJobs) := by
  obtain ⟨⟨served, turns⟩, rotates, rest⟩ := bind_ok done
  dsimp only at rest
  have left : served.requests.any (fun r => r.status = .approved) ↔
    ∃ r ∈ served.requests, r.status = .approved := by
    simp only [any_eq_true, decide_eq_true_eq]
  split at rest
  case isTrue again =>
    cases rest
    refine ⟨served, rotates, enqueueJob_onlyJobs _ _ _ _ _, .inl ⟨⟨again.1, left.mp again.2⟩, ?_⟩⟩
    rw [rotationJobs_enqueueJob, if_pos rfl]
  case isFalse stop =>
  cases rest
  exact ⟨after, rotates, .refl _, .inr ⟨fun again => stop ⟨again.1, left.mpr again.2⟩, rfl⟩⟩

end

/-- A pass that commits visits the groups in the order of their last fulfillment, considers one
request of each, and leaves everything else as it was. -/
theorem rotation_pass {platform : Platform} {env : RotationEnv} {db after : Db} {counts : RotationCounts}
    (schema : RotationSchema db) (done : fulfillRoundRobin platform env db = .ok (after, counts)) :
    ∃ visits, PassSpec platform env db after visits := by
  obtain ⟨served, rotates, ⟨jobs, jobSeq, queued⟩, requeues⟩ := fulfillRoundRobin_ends done
  rw [rotationTurns_eq] at rotates
  have selection : RotationSelection env db (rotationVisits env db) := rotationVisits_selection schema
  have readable : ∀ x ∈ rotationVisits env db, Readable db x :=
    fun x member => (selection.candidates x member).readable schema.requests
  have apart := selection.oneTurn.imp_of_mem fun {x y} inX inY groups =>
    (readable x inX).apart (readable y inY) groups
  obtain ⟨fulfilled, pass, counted⟩ := rotate_effect apart readable rotates
  -- the job of the next pass is the only difference from the last turn's state
  have rows : ∀ id, after.request? id = served.request? id := fun id => by rw [queued]; rfl
  have kept : ∀ id, after.record id = served.record id := fun id => by rw [queued]; rfl
  have byPass : ∀ id, FulfilledBy db after id ↔ ∃ x ∈ fulfilled, x.1.id = id := by
    intro id
    rw [← pass.fulfilledBy_iff readable]
    unfold FulfilledBy
    rw [rows]
  have stored : ∀ x ∈ fulfilled, x.1 ∈ db.requests ∧ FulfilledBy db after x.1.id := fun x member =>
    ⟨(selection.candidates x (pass.among member)).stored, (byPass _).mpr ⟨x, member, rfl⟩⟩
  have some_ : 0 < counts.fulfilled ↔ ∃ r ∈ db.requests, FulfilledBy db after r.id := by
    have total : counts.fulfilled = fulfilled.length := counted.trans (Nat.zero_add _)
    rw [total, List.length_pos_iff_exists_mem]
    constructor
    · rintro ⟨x, member⟩
      exact ⟨x.1, stored x member⟩
    rintro ⟨r, _, done⟩
    obtain ⟨x, member, _⟩ := (byPass _).mp done
    exact ⟨x, member⟩
  rw [some_, pass.queue] at requeues
  have unvisited : ∀ r ∈ db.requests, r.id ∉ (rotationVisits env db).map (fun x => x.1.id) →
      after.request? r.id = some r ∧ after.record r.id = db.record r.id := by
    intro r member outside
    obtain ⟨row, record⟩ := pass.others r.id outside
    exact ⟨(rows _).trans (row.trans (lookup_of_mem schema.requests member)), (kept _).trans record⟩
  refine ⟨rotationVisits env db, selection, ⟨served, counts, rotates, jobs, jobSeq, queued⟩, ?_,
    unvisited, ?_, ?_, ?_, ?_, ?_⟩
  · intro r inR q inQ c d ownerC ownerD group first second
    obtain ⟨x, memberX, namedX⟩ := (byPass _).mp first
    obtain ⟨y, memberY, namedY⟩ := (byPass _).mp second
    have visitX := pass.among memberX
    have visitY := pass.among memberY
    have sameR : x.1 = r := eq_of_mem_of_key schema.requests (stored x memberX).1 inR namedX
    have sameQ : y.1 = q := eq_of_mem_of_key schema.requests (stored y memberY).1 inQ namedY
    rw [← sameR, (readable x visitX).owner] at ownerC
    rw [← sameQ, (readable y visitY).owner] at ownerD
    cases ownerC
    cases ownerD
    have distinct : ((rotationVisits env db).map (fun item => rotationKey item.2)).Nodup :=
      pairwise_map.mpr selection.oneTurn
    rw [← sameR, ← sameQ, List.inj_on_of_nodup_map distinct visitX visitY group]
  · intro r member c owner suspended
    refine unvisited r member fun visited => ?_
    obtain ⟨x, inVisits, named⟩ := mem_map.mp visited
    have candidate := selection.candidates x inVisits
    cases eq_of_mem_of_key schema.requests candidate.stored member named
    cases candidate.owner.symm.trans owner
    exact absurd candidate.distributes (eq_false_iff.mp suspended)
  · intro id changed
    by_contra unfulfilled
    refine changed ?_
    have same := pass.customers id fun x member named => unfulfilled
      ⟨x.1, (stored x member).1,
        (lookup_some (readable x (pass.among member)).owner).2.symm.trans named.symm,
        (stored x member).2⟩
    rw [queued]
    exact same
  · intro id changed
    by_contra unfulfilled
    refine changed ?_
    have same := pass.agencies id fun x member joins => unfulfilled
      ⟨x.1, (stored x member).1, x.2, (readable x (pass.among member)).owner, joins, (stored x member).2⟩
    rw [queued]
    exact same
  · intro again
    rcases requeues with ⟨_, queue⟩ | ⟨stop, _⟩
    · exact queue
    · exact absurd again stop
  intro stop
  rcases requeues with ⟨again, _⟩ | ⟨_, queue⟩
  · exact absurd again stop
  · exact queue

/-- Two Customers of one Agency wait, one that is not active, and one on its own, whose request is
the oldest and who was fulfilled before; there are Leads for all of them. -/
def agencyOrders : Db :=
  { agencies := [{ id := 7 }]
    customers := [{ id := 1, agencyId := some 7, permanentHistoryKey := "a", lastFulfilledAt := some 5 },
                  { id := 2, agencyId := some 7, permanentHistoryKey := "b" },
                  { id := 3, active := false, permanentHistoryKey := "c" },
                  { id := 4, permanentHistoryKey := "d", lastFulfilledAt := some 3 }]
    requests := [1, 2, 3, 4].map (fun n =>
      { id := 10 * n, userId := n, customerId := n, leadCount := 1, rowsPerFile := 1,
        statesSnapshot := ["TX"]
        status := .approved, createdAt := n % 4 })
    leads := [1, 2, 3, 4].map fun n => { id := n, phone := s!"202555010{n}", state := "TX" } }

/-- The Agency that was never fulfilled has its turn before the Customer on its own, with the
request of its Customer that was never fulfilled, and another pass is queued. -/
theorem rotation_pass_agency :
    ∃ after counts, fulfillRoundRobin plainPlatform (quietRotation 1000) agencyOrders = .ok (after, counts) ∧
      (∃ visits, PassSpec plainPlatform (quietRotation 1000) agencyOrders after visits) ∧
      after.requests.map LeadRequest.status = [.approved, .generated, .approved, .generated] ∧
      after.events.map DistributionEvent.requestId = [some 20, some 40] ∧ after.rotationJobs = 1 := by
  have schema : RotationSchema agencyOrders := ⟨by decide, by decide⟩
  have runs : ∃ p, fulfillRoundRobin plainPlatform (quietRotation 1000) agencyOrders = .ok p ∧
      p.1.requests.map LeadRequest.status = [.approved, .generated, .approved, .generated] ∧
      p.1.events.map DistributionEvent.requestId = [some 20, some 40] ∧ p.1.rotationJobs = 1 := by
    refine ⟨_, rfl, ?_, ?_, ?_⟩
    · decide +kernel
    · decide +kernel
    · decide +kernel
  obtain ⟨⟨after, counts⟩, pass, shown⟩ := runs
  exact ⟨after, counts, pass, rotation_pass schema pass, shown⟩

end Jawnix
