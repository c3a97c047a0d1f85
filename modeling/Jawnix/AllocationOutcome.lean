import Jawnix.Allocation
import Jawnix.WalletChange

/-!
# What one allocation can do

`AllocationOutcome` lists the ways a committed run of `allocate_request` can end,
with every guard it passed and every intermediate state. So a run is all or nothing:
the requested quantity is distributed with its artifact and its charge, or nothing
that was allocated changes.
-/
namespace Jawnix

/-! ## The parts of a run -/

def numberEvents : Nat → List DistributionEvent → List DistributionEvent
  | _, [] => []
  | n, event :: rest => { event with id := n + 1 } :: numberEvents (n + 1) rest

variable {result : AllocationResult} {drafts : List DistributionEvent} {event : DistributionEvent}
  {restored : Db} {requestId : Uuid} {artifact : BatchArtifact} {lookups : Option ListingLookups}
  (db after : Db) {customer : Customer} {row : InventoryRow}

theorem insertEvents_ok {db after : Db} (done : insertEvents db drafts = .ok after) :
    after = { db with
      events := db.events ++ numberEvents db.eventSeq drafts
      eventSeq := db.eventSeq + drafts.length } := by
  induction drafts generalizing db with
  | nil =>
    cases done
    simp [numberEvents]
  | cons event rest ih =>
    unfold insertEvents at done
    split at done
    · cases done
    rw [ih done]
    simp [numberEvents, Nat.add_assoc, Nat.add_comm 1]

theorem map_numberEvents {β : Type} {f : DistributionEvent → β}
    (blind : ∀ e n, f { e with id := n } = f e) (n : Nat) (drafts : List DistributionEvent) :
    (numberEvents n drafts).map f = drafts.map f := by
  induction drafts generalizing n with
  | nil => rfl
  | cons event rest ih => simp only [numberEvents, map_cons, blind, ih]

theorem mem_numberEvents {n : Nat} (member : event ∈ numberEvents n drafts) :
    ∃ draft ∈ drafts, ∃ id, event = { draft with id } := by
  induction drafts generalizing n with
  | nil => cases member
  | cons first rest ih =>
    rcases mem_cons.mp member with rfl | later
    · exact ⟨first, mem_cons_self, n + 1, rfl⟩
    obtain ⟨draft, inRest, id, same⟩ := ih later
    exact ⟨draft, mem_cons_of_mem first inRest, id, same⟩

structure HoldCaptured (request : LeadRequest) : Prop where
  frame : ∃ ledger holds, after = { db with ledger, holds }
  captured : request.isBilled → ∃ hold, after.hold? request.id = some hold ∧ hold.status = .captured
  others : ∀ other, other ≠ request.id → after.hold? other = db.hold? other

theorem captureBatchHold_captured {db after : Db} {request : LeadRequest} {entryId : Uuid} {now : Instant}
    (done : captureBatchHold db request entryId now = .ok after) : HoldCaptured db after request := by
  rcases captureBatchHold_cases done with ⟨rfl, settled⟩ | ⟨hold, found, _, settled⟩
  · exact ⟨⟨after.ledger, after.holds, rfl⟩, settled, fun _ _ => rfl⟩
  have same : ∀ h : BatchHold, h.requestId = request.id →
    (captured now h).requestId = h.requestId := fun _ _ => rfl
  have held : ∃ hold, lookup BatchHold.requestId request.id
      (adjust BatchHold.requestId request.id (captured now) db.holds) = some hold ∧
        hold.status = .captured :=
    ⟨captured now hold, lookup_adjust_self same found, rfl⟩
  rcases settled with ⟨entry, _, rfl⟩ | ⟨_, rfl⟩ <;> exact ⟨⟨_, _, rfl⟩, fun _ =>
    held, fun other differs => lookup_adjust_of_ne same differs⟩

theorem restoreEvents_ok {db : Db} (done : restoreEvents db requestId = .ok restored) :
    ∃ f : DistributionEvent → DistributionEvent,
      (∀ e, ∃ phone title state listingProvenance, f e = { e with phone, title, state, listingProvenance }) ∧
        restored = { db with events := db.events.map f } := by
  unfold restoreEvents at done
  split at done
  · cases done
    exact ⟨id, fun e => ⟨_, _, _, _, rfl⟩, by simp⟩
  split at done
  · cases done
  cases done
  refine ⟨_, fun e => ?_, rfl⟩
  by_cases own : e.requestId = some requestId
  · rw [if_pos own]
    unfold legacyEvent
    split <;> exact ⟨_, _, _, _, rfl⟩
  · rw [if_neg own]
    exact ⟨_, _, _, _, rfl⟩

/-! ## The outcomes -/

inductive AllocationOutcome (platform : Platform) (env : AllocationEnv) (db : Db)
    (request : LeadRequest) (customer : Customer) : Db → AllocationResult → Prop
  | replayed {restored filed after : Db} {artifact : BatchArtifact} {result : AllocationResult}
      (committed : db.eventsOf request.id ≠ []) (whole : (db.eventsOf request.id).length = request.leadCount)
      (restores : restoreEvents db request.id = .ok restored)
      (files : generateArtifact platform restored request customer
        (eventRows (restored.eventsOf request.id)) env.filedAt = .ok (filed, artifact))
      (captures :
        captureBatchHold
        (queueDelivery (filed.setRequest request.id generated) request.id env.queuedAt)
          request env.chargeId env.capturedAt = .ok after)
      (status : result.status = .generated) : AllocationOutcome platform env db request customer after result
  | idle {result : AllocationResult} (uncommitted : db.eventsOf request.id = [])
      (parked : request.status ≠ .approved ∧ request.status ≠ .processing)
      (status : result.status = request.status) :
      AllocationOutcome platform env db request customer db result
  | shortage {available : Nat} (uncommitted : db.eventsOf request.id = [])
      (ready : request.status = .approved ∨ request.status = .processing)
      (short : (selectCandidates platform env db request customer).length < request.leadCount) :
      AllocationOutcome platform env db request customer (reportShortage env db request available).1
        (reportShortage env db request available).2
  | distributed {candidates : List InventoryRow} {drafts : List DistributionEvent}
      {inserted filed after : Db}
      {artifact : BatchArtifact} {result : AllocationResult} (uncommitted : db.eventsOf request.id = [])
      (ready : request.status = .approved ∨ request.status = .processing)
      (selected : candidates = selectCandidates platform env db request customer)
      (whole : candidates.length = request.leadCount)
      (drawn : List.Forall₂ (fun row event => distributionEvent platform env db request customer
        (candidateSources db customer candidates) (candidateLookups db customer candidates) row = .ok event)
        candidates drafts)
      (inserts :
        insertEvents (stampLeads db (candidates.map fun row => row.lead.id) env.distributedAt)
        drafts = .ok inserted)
      (files : generateArtifact platform inserted request customer
        (eventRows drafts) env.filedAt = .ok (filed, artifact))
      (captures : captureBatchHold (queueDelivery
        (filed.setRequest request.id (processed candidates.length env.distributedAt)) request.id
        env.queuedAt)
        request env.chargeId env.capturedAt = .ok after)
      (status : result.status = .generated) : AllocationOutcome platform env db request customer after result

theorem distribute_outcome {platform : Platform} {env : AllocationEnv} {db after : Db}
    {request : LeadRequest} (uncommitted : db.eventsOf request.id = [])
    (ready : request.status = .approved ∨ request.status = .processing)
    (enough : ¬(selectCandidates platform env db request customer).length < request.leadCount)
    (done : distribute platform env db request customer
      (selectCandidates platform env db request customer) = .ok (after, result)) :
    AllocationOutcome platform env db request customer after result := by
  have whole : (selectCandidates platform env db request customer).length = request.leadCount :=
    Nat.le_antisymm (List.length_take_le _ _) (Nat.not_lt.mp enough)
  rw [distribute] at done
  split at done
  · cases done
  obtain ⟨drafts, drawn, rest⟩ := bind_ok done
  obtain ⟨inserted, inserts, rest⟩ := bind_ok rest
  obtain ⟨⟨filed, artifact⟩, files, rest⟩ := bind_ok rest
  obtain ⟨captured, captures, last⟩ := bind_ok rest
  cases last
  exact .distributed uncommitted ready rfl whole (Runs.mapM_ok drawn) inserts files captures rfl

theorem allocateRequest_outcome {platform : Platform} {env : AllocationEnv} {db after : Db}
    (done : allocateRequest platform env db requestId = .ok (after, result)) :
    ∃ request customer, db.request? requestId = some request ∧
    db.customer? request.customerId = some customer ∧
    AllocationOutcome platform env db request customer after result := by
  unfold allocateRequest at done
  split at done
  · cases done
  case h_2 request found =>
  split at done
  · cases done
  case h_2 customer owner =>
  refine ⟨request, customer, found, owner, ?_⟩
  split at done
  case isTrue committed =>
    rw [replayAllocation] at done
    obtain ⟨whole, done⟩ := guard_ok done
    obtain ⟨restored, restores, rest⟩ := bind_ok done
    obtain ⟨⟨filed, artifact⟩, files, rest⟩ := bind_ok rest
    obtain ⟨captured, captures, last⟩ := bind_ok rest
    cases last
    exact .replayed committed (not_not.mp whole) restores files captures rfl
  case isFalse empty =>
  have uncommitted := not_not.mp empty
  split at done
  case isTrue parked =>
    cases done
    exact .idle uncommitted parked rfl
  case isFalse open_ =>
  have ready : request.status = .approved ∨ request.status = .processing := by
    by_cases approved : request.status = .approved
    · exact .inl approved
    · exact .inr (not_not.mp fun other => open_ ⟨approved, other⟩)
  simp only at done
  split at done
  case isTrue short =>
    cases done
    exact .shortage uncommitted ready short
  case isFalse enough => exact distribute_outcome uncommitted ready enough done

theorem reportShortage_parked (env : AllocationEnv) (db : Db) (request : LeadRequest)
    (available : Nat) : (db.setRequest request.id (waiting request.leadCount available)).OnlyJobs
    (reportShortage env db request available).1 :=
  (enqueueMilestoneEmail_onlyJobs _ _ _).trans (enqueueJob_onlyJobs _ _ _ _ _)

/-- What no run touches: the tables it does not write, the other requests, and the terms of its
own. -/
structure AllocationFrame (requestId : Uuid) : Prop where
  tables : ∃ requests ledger holds leads events eventSeq artifacts artifactSeq files jobs jobSeq,
    after = { db with
      requests, ledger, holds, leads, events, eventSeq, artifacts, artifactSeq, files, jobs, jobSeq }
  requests : ∃ f, (∀ r : LeadRequest, r.Progresses (f r)) ∧
    after.requests = adjust LeadRequest.id requestId f db.requests

theorem AllocationFrame.settled {platform : Platform} {env : AllocationEnv}
    {db written filed after : Db} {request : LeadRequest} {rows : List (String × String)}
    {f : LeadRequest → LeadRequest}
    (writes : ∃ leads events eventSeq, written = { db with leads, events, eventSeq })
    (progresses : ∀ r : LeadRequest, r.Progresses (f r))
    (files : generateArtifact platform written request customer rows env.filedAt =
      .ok (filed, artifact))
    (captures :
      captureBatchHold (queueDelivery (filed.setRequest request.id f) request.id env.queuedAt) request
      env.chargeId env.capturedAt = .ok after) :
    AllocationFrame db after request.id := by
  obtain ⟨leads, events, eventSeq, rfl⟩ := writes
  obtain ⟨artifacts, artifactSeq, fileList, rfl⟩ := (generateArtifact_filed files).frame
  obtain ⟨ledger, holds, rfl⟩ := (captureBatchHold_captured captures).frame
  exact ⟨⟨_, _, _, _, _, _, _, _, _, _, _, rfl⟩, f, progresses, rfl⟩

theorem AllocationOutcome.frame {platform : Platform} {env : AllocationEnv} {db after : Db}
    {request : LeadRequest}
    (outcome : AllocationOutcome platform env db request customer after result) :
    AllocationFrame db after request.id := by
  cases outcome with
  | replayed _ _ restores files captures _ =>
    obtain ⟨f, _, restored⟩ := restoreEvents_ok restores
    exact .settled ⟨_, _, _, restored⟩ (fun r => ⟨_, _, _, _, _, _, _, rfl⟩) files captures
  | idle _ _ _ =>
    exact ⟨⟨_, _, _, _, _, _, _, _, _, _, _, rfl⟩, id, fun r => ⟨_, _, _, _, _, _, _, rfl⟩, by simp [adjust]⟩
  | @shortage available _ _ _ =>
    obtain ⟨jobs, jobSeq, parked⟩ := reportShortage_parked env db request available
    rw [parked]
    exact ⟨⟨_, _, _, _, _, _, _, _, _, _, _, rfl⟩, waiting _ available, fun r =>
      ⟨_, _, _, _, _, _, _, rfl⟩, rfl⟩
  | distributed _ _ _ _ _ inserts files captures _ =>
    have writes := insertEvents_ok inserts
    exact .settled ⟨_, _, _, writes⟩ (fun r => ⟨_, _, _, _, _, _, _, rfl⟩) files captures

/-! ## Delivered rows -/

structure Delivers (env : AllocationEnv) (request : LeadRequest) (customer : Customer) (lead : Lead)
    (event : DistributionEvent) : Prop where
  leadId : event.leadId = lead.id
  customerId : event.customerId = some request.customerId
  agencyId : event.agencyId = customer.agencyId
  requestId : event.requestId = some request.id
  deliveredAt : event.deliveredAt = env.distributedAt

theorem distributionEvent_delivers {platform : Platform} {env : AllocationEnv} {db : Db}
    {request : LeadRequest} {sources : List (Nat × SourceListing)}
    (drawn : distributionEvent platform env db request customer sources lookups row = .ok event) :
    Delivers env request customer row.lead event ∧ ∃ title snapshot,
    deliveredListing platform db (inventoryDatabase customer) sources lookups row.lead =
    .ok (title, event.state, snapshot) := by
  unfold distributionEvent at drawn
  split at drawn
  · cases drawn
  case h_2 title state snapshot listed =>
  cases drawn
  exact ⟨⟨rfl, rfl, rfl, rfl, rfl⟩, title, snapshot, listed⟩

/-- A Lead is delivered in the state it was selected for: DB1 reads it from the Lead, and the DB2
listing agrees with the index. -/
theorem deliveredListing_state {platform : Platform} {db : Db} {request : LeadRequest}
    {instant : Instant} {candidates : List InventoryRow} {title state : String}
    {snapshot : ListingSnapshot} (schema : InventorySchema db)
    (eligible : ∀ r ∈ candidates, r ∈ eligibleQuery platform.casing db request customer instant)
    (member : row ∈ candidates)
    (listed : deliveredListing platform db (inventoryDatabase customer)
      (candidateSources db customer candidates) lookups row.lead = .ok (title, state, snapshot)) :
    state = inventoryState (inventoryDatabase customer) row := by
  cases database : inventoryDatabase customer with
  | db1 =>
    rw [database] at listed
    cases listed
    rfl
  | db2 =>
  simp only [deliveredListing, candidateSources, database, if_true] at listed
  split at listed
  · cases listed
  case h_2 listing found =>
  split at listed
  · cases listed
  cases listed
  obtain ⟨m, inTable, joined, named⟩ := (eligibleQuery_stored (eligible row member)).2.2 database
  simp only [inventoryState, joined]
  split
  · rfl
  -- the row read back carries the key of some candidate, and one index row per Lead names it
  obtain ⟨stored, inRows, key, sameLead, rfl⟩ := db2Listings_get found
  obtain ⟨other, inCandidates, keyed⟩ := mem_filterMap.mp key
  obtain ⟨m', joined', same⟩ := map_eq_some_iff.mp keyed
  obtain ⟨sameId, sameUpload⟩ := Prod.mk.inj same
  obtain ⟨n, inTable', joinedN, namedN⟩ := (eligibleQuery_stored (eligible other inCandidates)).2.2 database
  rw [joined'] at joinedN
  cases joinedN
  have one : m' = m := eq_of_mem_of_key schema.memberships inTable' inTable (by rw [namedN, sameId, named])
  subst one
  exact schema.published m' inTable' stored inRows (by rw [sameLead, named]) sameUpload.symm

/-! ## All or nothing -/

/-- The unique index of the artifact table, and the coupling of committed events with their
charge. -/
structure FulfilmentSchema : Prop extends InventorySchema db where
  artifacts : Keyed BatchArtifact.requestId db.artifacts
  settled : ∀ id request, db.request? id = some request → request.isBilled → db.eventsOf id ≠ [] →
    ∃ hold, db.hold? id = some hold ∧ hold.status = .captured

/-- One event for each of `leadCount` distinct eligible Leads, in a requested state; one artifact
over exactly those rows; the captured hold; and the time of the events on exactly those Leads. -/
structure FullyDistributed (platform : Platform) (env : AllocationEnv) (db after : Db)
    (request : LeadRequest)
    (customer : Customer) (new : List DistributionEvent) : Prop where
  events : after.events = db.events ++ new
  quantity : new.length = request.leadCount
  distinct : (new.map DistributionEvent.leadId).Nodup
  delivers : ∀ event ∈ new, event.state ∈ request.statesSnapshot ∧
    ∃ row ∈ eligibleQuery platform.casing db request customer env.eligibleAt,
      Delivers env request customer row.lead event
  artifact : ∃ artifact, after.artifacts.filter (fun a => a.requestId = request.id) = [artifact] ∧
    artifact.rowCount = request.leadCount ∧
    ∃ file ∈ after.files, file.path = artifact.path ∧ (file.parts.map Prod.snd).flatten = csvRows
      (eventRows new)
  hold : request.isBilled → ∃ hold, after.hold? request.id = some hold ∧ hold.status = .captured
  leads : after.leads = db.leads.map (fun lead =>
    if lead.id ∈ new.map DistributionEvent.leadId then
      { lead with lastDistributedAt := some env.distributedAt }
    else lead)

structure NothingAllocated : Prop where
  events : after.events = db.events
  artifacts : after.artifacts = db.artifacts
  ledger : after.ledger = db.ledger
  leads : after.leads = db.leads
  holds : after.holds = db.holds

structure NothingRepeated : Prop where
  events : after.events.map (fun e => (e.id, e.leadId, e.customerId, e.requestId, e.deliveredAt)) =
    db.events.map (fun e => (e.id, e.leadId, e.customerId, e.requestId, e.deliveredAt))
  ledger : after.ledger = db.ledger
  leads : after.leads = db.leads

theorem mem_selectCandidates {platform : Platform} {env : AllocationEnv} {db : Db}
    {request : LeadRequest} (member : row ∈ selectCandidates platform env db request customer) :
    row ∈ eligibleQuery platform.casing db request customer env.eligibleAt :=
  List.mem_of_mem_filter (List.mem_of_mem_take member)

theorem selectCandidates_nodup {platform : Platform} {env : AllocationEnv} {db : Db}
    (schema : InventorySchema db) (request : LeadRequest) (customer : Customer) :
    ((selectCandidates platform env db request customer).map fun row => row.lead.id).Nodup := by
  have kept : (selectCandidates platform env db request customer).Sublist
      (eligibleQuery platform.casing db request customer env.eligibleAt) :=
    (List.take_sublist _ _).trans filter_sublist
  exact (kept.map _).nodup (eligibleQuery_nodup schema platform.casing request customer env.eligibleAt)

section
variable {platform : Platform} {env : AllocationEnv} {db inserted filed after : Db} {request : LeadRequest}
  {customer : Customer} {candidates : List InventoryRow} {drafts : List DistributionEvent}
    {artifact : BatchArtifact}

def Drawn (platform : Platform) (env : AllocationEnv) (db : Db) (request : LeadRequest)
    (customer : Customer) (candidates : List InventoryRow) : List DistributionEvent → Prop :=
  List.Forall₂ (fun row event => distributionEvent platform env db request customer
    (candidateSources db customer candidates)
    (candidateLookups db customer candidates) row = .ok event) candidates

theorem drafts_deliver (schema : InventorySchema db)
    (selected : candidates = selectCandidates platform env db request customer)
    (drawn : Drawn platform env db request customer candidates drafts) :
    ∀ draft ∈ drafts, draft.state ∈ request.statesSnapshot ∧
    ∃ row ∈ eligibleQuery platform.casing db request customer env.eligibleAt,
    Delivers env request customer row.lead draft := by
  intro draft member
  obtain ⟨row, inCandidates, made⟩ := Runs.forall₂_mem_right drawn member
  have eligible :
    ∀ r ∈ candidates, r ∈ eligibleQuery platform.casing db request customer env.eligibleAt := by
    intro r inSelected
    rw [selected] at inSelected
    exact mem_selectCandidates inSelected
  obtain ⟨delivers, title, snapshot, listed⟩ := distributionEvent_delivers made
  have state := deliveredListing_state schema eligible inCandidates listed
  rw [state]
  exact ⟨(eligibleQuery_stored (eligible row inCandidates)).2.1, row, eligible row inCandidates, delivers⟩

theorem drafts_leadIds (drawn : Drawn platform env db request customer candidates drafts) :
    candidates.map (fun row => row.lead.id) = drafts.map DistributionEvent.leadId := by
  have pointwise : List.Forall₂ (fun row event => row.lead.id = event.leadId) candidates drafts :=
    drawn.imp fun row event made => (distributionEvent_delivers made).1.leadId.symm
  have mapped := List.forall₂_map_left_iff.mpr (List.forall₂_map_right_iff.mpr pointwise)
  exact List.forall₂_eq_eq_eq ▸ mapped

theorem fullyDistributed (schema : FulfilmentSchema db)
    (selected : candidates = selectCandidates platform env db request customer)
    (whole : candidates.length = request.leadCount)
    (drawn : Drawn platform env db request customer candidates drafts)
    (inserts :
      insertEvents (stampLeads db (candidates.map fun row => row.lead.id) env.distributedAt) drafts =
      .ok inserted)
    (files : generateArtifact platform inserted request customer
      (eventRows drafts) env.filedAt = .ok (filed, artifact))
    (captures : captureBatchHold (queueDelivery
      (filed.setRequest request.id (processed candidates.length env.distributedAt)) request.id env.queuedAt)
      request env.chargeId env.capturedAt = .ok after) :
    FullyDistributed platform env db after request customer (numberEvents db.eventSeq drafts) := by
  have stamped := insertEvents_ok inserts
  have filing := generateArtifact_filed files
  have capture := captureBatchHold_captured captures
  obtain ⟨artifacts, artifactSeq, fileList, filedFrame⟩ := filing.frame
  obtain ⟨ledger, holds, afterFrame⟩ := capture.frame
  have leadIds := drafts_leadIds drawn
  have newLeadIds : (numberEvents db.eventSeq drafts).map DistributionEvent.leadId =
      candidates.map fun row => row.lead.id := by
    rw [leadIds]
    exact map_numberEvents (fun _ _ => rfl) _ _
  have sameRows : eventRows (numberEvents db.eventSeq drafts) = eventRows drafts :=
    map_numberEvents (fun _ _ => rfl) _ _
  have sameArtifacts : after.artifacts = filed.artifacts := by rw [afterFrame]; rfl
  have sameFiles : after.files = filed.files := by rw [afterFrame]; rfl
  refine
    { events := ?_, quantity := ?_, distinct := ?_, delivers := ?_, artifact := ?_, hold := capture.captured,
      leads := ?_ }
  · rw [afterFrame, filedFrame, stamped]
    rfl
  · have lengths := drawn.length_eq
    have counted :=
      congrArg List.length (map_numberEvents (f := DistributionEvent.leadId)
      (fun _ _ => rfl) db.eventSeq drafts)
    simp only [length_map] at counted
    omega
  · rw [newLeadIds, selected]
    exact selectCandidates_nodup schema.toInventorySchema request customer
  · intro event member
    obtain ⟨draft, inDrafts, id, rfl⟩ := mem_numberEvents member
    obtain ⟨state, row, eligible, delivers⟩ :=
      drafts_deliver schema.toInventorySchema selected drawn draft inDrafts
    exact ⟨state, row, eligible, { delivers with }⟩
  · have keyed : Keyed BatchArtifact.requestId filed.artifacts := by
      apply filing.keyed
      rw [stamped]
      exact schema.artifacts
    have counted : artifact.rowCount = request.leadCount := by
      rw [filing.rowCount, eventRows, length_map, ← drawn.length_eq, whole]
    rw [sameArtifacts, sameFiles, sameRows]
    exact ⟨artifact, Rows.filter_key keyed filing.recorded, counted, filing.stored⟩
  · rw [newLeadIds, afterFrame, filedFrame, stamped]
    rfl

end

theorem captureBatchHold_settled {db : Db} {request : LeadRequest} {entryId : Uuid} {now : Instant}
    (settled : request.isBilled → ∃ hold, db.hold? request.id = some hold ∧ hold.status = .captured) :
    captureBatchHold db request entryId now = .ok db := by
  unfold captureBatchHold
  by_cases billed : request.isBilled
  · obtain ⟨hold, found, status⟩ := settled billed
    simp [billed, found, status]
  · simp [billed]

theorem replayed_nothing {platform : Platform} {env : AllocationEnv} {db filed after : Db}
    {request : LeadRequest}
    (settled : request.isBilled → ∃ hold, db.hold? request.id = some hold ∧ hold.status = .captured)
    (restores : restoreEvents db request.id = .ok restored)
    (files : generateArtifact platform restored request customer (eventRows (restored.eventsOf request.id))
      env.filedAt = .ok (filed, artifact))
    (captures :
      captureBatchHold (queueDelivery (filed.setRequest request.id generated) request.id env.queuedAt)
      request env.chargeId env.capturedAt = .ok after) : NothingRepeated db after := by
  obtain ⟨f, rewrites, restoredFrame⟩ := restoreEvents_ok restores
  obtain ⟨artifacts, artifactSeq, fileList, filedFrame⟩ := (generateArtifact_filed files).frame
  rw [captureBatchHold_settled (by rw [filedFrame, restoredFrame]; exact settled)] at captures
  cases captures
  rw [filedFrame, restoredFrame]
  refine ⟨?_, rfl, rfl⟩
  change (db.events.map f).map _ = _
  rw [map_map]
  apply map_congr_left
  intro e _
  obtain ⟨phone, title, state, provenance, same⟩ := rewrites e
  simp [same]

/-- `allocate_request` is all or nothing. A committed run on a request without events
distributes the whole quantity or leaves the inventory and the wallet as they were; a
run on a request that has its events repeats nothing, whatever its status. -/
theorem allocateRequest_all_or_nothing {platform : Platform} {env : AllocationEnv} {db after : Db}
    {requestId : Uuid}
    {request : LeadRequest} {customer : Customer} (schema : FulfilmentSchema db)
    (found : db.request? requestId = some request) (owner : db.customer? request.customerId = some customer)
    (done : allocateRequest platform env db requestId = .ok (after, result)) :
    (db.eventsOf requestId = [] →
      (∃ new, FullyDistributed platform env db after request customer new) ∨ NothingAllocated db after) ∧
    (db.eventsOf requestId ≠ [] → NothingRepeated db after) := by
  obtain ⟨r, c, foundR, ownerC, outcome⟩ := allocateRequest_outcome done
  rw [found] at foundR
  cases foundR
  rw [owner] at ownerC
  cases ownerC
  have named : request.id = requestId := (lookup_some found).2
  subst named
  cases outcome with
  | replayed committed whole restores files captures status =>
    refine ⟨fun empty => absurd empty committed, fun _ => ?_⟩
    exact replayed_nothing (fun billed => schema.settled _ _ found billed committed) restores files captures
  | idle uncommitted parked status =>
    exact ⟨fun _ => .inr ⟨rfl, rfl, rfl, rfl, rfl⟩, fun committed => absurd uncommitted committed⟩
  | shortage uncommitted ready short =>
    obtain ⟨jobs, jobSeq, parked⟩ := reportShortage_parked env db request _
    exact ⟨fun _ => .inr (parked ▸ ⟨rfl, rfl, rfl, rfl, rfl⟩), fun committed => absurd uncommitted committed⟩
  | distributed uncommitted ready selected whole drawn inserts files captures status =>
    have full := fullyDistributed schema selected whole drawn inserts files captures
    exact ⟨fun _ => .inl ⟨_, full⟩, fun committed => absurd uncommitted committed⟩

/-! A billed request for two Leads, one of which was delivered elsewhere long ago. -/

def plainPlatform : Platform :=
  { casing := plainCasing, digest := fun _ => "", byteCount := fun _ => 0, checksum := fun _ => "",
    batchDir := "batches", batchRetentionDays := 30 }

def quietEnv (now : Instant) (chargeId : Uuid) : AllocationEnv :=
  { lockedElsewhere := fun _ => false, eligibleAt := now, countedAt := now, distributedAt := now,
    filedAt := now,
    queuedAt := now, capturedAt := now, chargeId }

def twoLeadDb : Db :=
  { customers := [{ billedCustomer with slug := "acme" }]
    requests := [{ id := 7, userId := 70, customerId := 1, leadCount := 2, rowsPerFile := 1,
                   statesSnapshot := ["TX"], status := .approved, createdAt := 0, isBilled := true,
                   leadRateCentsPerThousand := some 1000, billingAmountCents := some 2,
                   frozenBilling := fun _ => ⟨rfl, 2, rfl, by decide⟩ }]
    holds :=
      [{ id := 8, requestId := 7, customerId := 1, amountCents := 2, createdAt := 0,
         nonnegative := by decide }]
    leads := [{ id := 1, phone := "2025550101", state := "TX", lastDistributedAt := some 0 },
              { id := 2, phone := "2025550102", state := "TX" },
              { id := 3, phone := "2025550103", state := "CA" }]
    events :=
      [{ id := 1, leadId := 1, customerId := none, agencyId := none, requestId := none, deliveredAt := 0 }]
    eventSeq := 1 }

theorem twoLeadDb_schema : FulfilmentSchema twoLeadDb where
  leads := by decide
  observations := by decide
  mappings := by decide
  assignments := by decide
  memberships := by decide
  published := fun m member => absurd member not_mem_nil
  artifacts := by decide
  settled := by
    intro id request found _ committed
    have unclaimed : twoLeadDb.eventsOf id = [] := by simp [twoLeadDb, Db.eventsOf]
    exact absurd unclaimed committed

theorem allocateRequest_all_or_nothing_twoLeads :
    ∃ after result, allocateRequest plainPlatform (quietEnv (days 30) 9) twoLeadDb 7 = .ok (after, result) ∧
      after.events.map DistributionEvent.leadId = [1, 2, 1] ∧ after.ledger.length = 1 ∧
      (twoLeadDb.eventsOf 7 = [] →
        (∃ request customer new, FullyDistributed plainPlatform
          (quietEnv (days 30) 9) twoLeadDb after request customer new) ∨
          NothingAllocated twoLeadDb after) := by
  have runs : ∃ p, allocateRequest plainPlatform (quietEnv (days 30) 9) twoLeadDb 7 = .ok p ∧
      p.1.events.map DistributionEvent.leadId = [1, 2, 1] ∧ p.1.ledger.length = 1 := by
    refine ⟨_, rfl, ?_, ?_⟩ <;> decide +kernel
  obtain ⟨⟨after, result⟩, done, leads, charged⟩ := runs
  refine ⟨after, result, done, leads, charged, fun empty => ?_⟩
  rcases (allocateRequest_all_or_nothing twoLeadDb_schema rfl rfl done).1 empty with ⟨new, full⟩ | nothing
  · exact .inl ⟨_, _, new, full⟩
  · exact .inr nothing

end Jawnix
