import Jawnix.AllocationOutcome
import Jawnix.Lifecycle
import Jawnix.Transitions

/-!
# Services as moves of records

Each table update rewrites the record of one request, or none. `Rewrites` says
which and how, and composes; a service is then a chain of updates whose effect
on the record is one of the moves.
-/
namespace Jawnix

open RequestRecord

def Db.deliveries (db : Db) : List (Option Uuid) :=
  (db.jobs.filter fun j => j.kind = .deliverRequest).map Job.requestId

variable (db : Db)

/-- No record, no request identifier and no delivery job is touched. -/
structure Quiet (db' : Db) : Prop where
  records : ∀ j, db'.record j = db.record j
  ids : db'.requests.map LeadRequest.id = db.requests.map LeadRequest.id
  deliveries : db'.deliveries = db.deliveries

/-- The record of request `id` is rewritten by `g` and no other one is touched. A new delivery
job is for this request, which then has its artifact. -/
structure Rewrites (db' : Db) (id : Uuid) (g : RequestRecord → RequestRecord) : Prop where
  records : ∀ j, db'.record j = if j = id then g (db.record j) else db.record j
  ids : db'.requests.map LeadRequest.id = db.requests.map LeadRequest.id
  filed : ∀ r, r.filed → (g r).filed
  deliveries : ∀ x ∈ db'.deliveries, x ∈ db.deliveries ∨ x = some id ∧ (db'.record id).filed

section
variable {a b c db db' : Db} {id : Uuid} {f g : RequestRecord → RequestRecord}

theorem Quiet.refl (db : Db) : Quiet db db := ⟨fun _ => rfl, rfl, rfl⟩

theorem Quiet.trans (first : Quiet a b) (second : Quiet b c) : Quiet a c :=
  ⟨fun j => (second.records j).trans (first.records j), second.ids.trans first.ids,
    second.deliveries.trans first.deliveries⟩

theorem Quiet.rewrites (quiet : Quiet a b) (second : Rewrites b c id g) : Rewrites a c id g where
  records := fun j => by rw [second.records j, quiet.records j]
  ids := second.ids.trans quiet.ids
  filed := second.filed
  deliveries := fun x member => by
    rw [← quiet.deliveries]
    exact second.deliveries x member

theorem Rewrites.self (rewrites : Rewrites a b id g) : b.record id = g (a.record id) := by
  rw [rewrites.records id, if_pos rfl]

theorem Rewrites.other (rewrites : Rewrites a b id g) {j : Uuid} (differs : j ≠ id) :
    b.record j = a.record j := by
  rw [rewrites.records j, if_neg differs]

theorem Rewrites.quiet (first : Rewrites a b id g) (quiet : Quiet b c) : Rewrites a c id g where
  records := fun j => by rw [quiet.records j, first.records j]
  ids := quiet.ids.trans first.ids
  filed := first.filed
  deliveries := fun x member => by
    rw [quiet.deliveries] at member
    rw [quiet.records id]
    exact first.deliveries x member

theorem Rewrites.trans (first : Rewrites a b id f) (second : Rewrites b c id g) :
    Rewrites a c id (fun r => g (f r)) where
  records := fun j => by
    rw [second.records j, first.records j]
    split <;> rfl
  ids := second.ids.trans first.ids
  filed := fun r filed => second.filed _ (first.filed r filed)
  deliveries := fun x member => by
    rcases second.deliveries x member with inherited | fresh
    · rcases first.deliveries x inherited with old | ⟨named, filed⟩
      · exact .inl old
      refine .inr ⟨named, ?_⟩
      rw [second.self]
      exact second.filed _ filed
    · exact .inr fresh

theorem Quiet.of_tables (requests : db'.requests = db.requests) (holds : db'.holds = db.holds)
    (ledger : db'.ledger = db.ledger) (events : db'.events = db.events)
    (artifacts : db'.artifacts = db.artifacts) (deliveries : db'.deliveries = db.deliveries) :
    Quiet db db' where
  records := fun j => by
    simp only [Db.record, Db.request?, Db.hold?, Db.eventsOf, chargesFor, Db.artifact?, requests,
      holds, ledger, events, artifacts]
  ids := by rw [requests]
  deliveries := deliveries

end

/-! ## The queue -/

theorem deliveries_enqueueJob (kind : JobKind) (requestId : Option Uuid) (payload : JobPayload)
    (now : Instant) : (enqueueJob db kind requestId payload now).deliveries =
    if kind = .deliverRequest then db.deliveries ++ [requestId] else db.deliveries := by
  unfold enqueueJob Db.deliveries
  split <;> simp_all

theorem enqueueJob_quiet {kind : JobKind} (other : kind ≠ .deliverRequest) (db : Db)
    (requestId : Option Uuid) (payload : JobPayload) (now : Instant) :
    Quiet db (enqueueJob db kind requestId payload now) :=
  .of_tables rfl rfl rfl rfl rfl (by rw [deliveries_enqueueJob, if_neg other])

theorem enqueueDelivery_rewrites {db : Db} {id : Uuid} (filed : (db.record id).filed) (payload : JobPayload)
    (now : Instant) : Rewrites db (enqueueJob db .deliverRequest (some id) payload now) id (fun r => r) where
  records := fun j => by
    split <;> rfl
  ids := rfl
  filed := fun _ filed => filed
  deliveries := fun x member => by
    rw [deliveries_enqueueJob, if_pos rfl] at member
    rcases mem_append.mp member with old | new
    · exact .inl old
    · exact .inr ⟨mem_singleton.mp new, filed⟩

theorem setJob_quiet {f : Job → Job} (kind : ∀ j, (f j).kind = j.kind)
    (request : ∀ j, (f j).requestId = j.requestId) (db : Db) (id : Nat) :
    Quiet db (db.setJob id f) := by
  refine .of_tables rfl rfl rfl rfl rfl ?_
  unfold Db.setJob Db.deliveries adjust
  induction db.jobs with
  | nil => rfl
  | cons j jobs ih =>
    by_cases here : j.id = id
    · by_cases delivers : j.kind = .deliverRequest
      · simpa [here, kind, delivers, request] using ih
      · simpa [here, kind, delivers] using ih
    by_cases delivers : j.kind = .deliverRequest <;> simpa [here, delivers] using ih

/-! ## The request row -/

structure Marks (f : LeadRequest → LeadRequest) (s : RequestStatus) : Prop where
  id : ∀ r, (f r).id = r.id
  order : ∀ r, (f r).order = { r.order with status := s }

section
variable {f : LeadRequest → LeadRequest}

theorem setRequest_record (same : ∀ r, (f r).id = r.id) (db : Db) (id j : Uuid) :
    (db.setRequest id f).record j =
      if j = id then { db.record j with order := (db.request? j).map (fun r => (f r).order) } else
      db.record j := by
  have looked : lookup LeadRequest.id j (adjust LeadRequest.id id f db.requests) = _ :=
    lookup_adjust fun r _ => same r
  unfold Db.record
  simp only [Db.request?, Db.setRequest, looked]
  split
  · simp only [Option.map_map]
    rfl
  · rfl

theorem setRequest_rewrites {s : RequestStatus} (marks : Marks f s) (db : Db)
    (id : Uuid) : Rewrites db (db.setRequest id f) id (mark s) where
  records := fun j => by
    rw [setRequest_record marks.id]
    simp only [marks.order, mark, Db.record, Option.map_map]
    rfl
  ids := map_adjust_of_preserves _ fun r _ => marks.id r
  filed := fun _ filed => filed
  deliveries := fun _ member => .inl member

theorem setRequest_quiet (same : ∀ r, (f r).id = r.id)
    (order : ∀ r, (f r).order = r.order) (db : Db) (id : Uuid) : Quiet db (db.setRequest id f) where
  records := fun j => by
    rw [setRequest_record same]
    simp only [order]
    split <;> rfl
  ids := map_adjust_of_preserves _ fun r _ => same r
  deliveries := rfl

end

/-! ## The artifact -/

theorem setArtifact_quiet {f : BatchArtifact → BatchArtifact}
    (same : ∀ a, (f a).requestId = a.requestId) (db : Db) (requestId : Uuid) :
    Quiet db (db.setArtifact requestId f) where
  records := fun j => by
    have looked : lookup BatchArtifact.requestId j
        (adjust BatchArtifact.requestId requestId f db.artifacts) = _ := lookup_adjust fun a _ => same a
    unfold Db.record
    simp only [Db.artifact?, Db.setArtifact, looked]
    split
    · rw [Option.isSome_map]
      rfl
    · rfl
  ids := rfl
  deliveries := rfl

theorem generateArtifact_rewrites {platform : Platform} {db filed : Db} {request : LeadRequest}
    {customer : Customer} {rows : List (String × String)} {now : Instant} {artifact : BatchArtifact}
    (done : generateArtifact platform db request customer rows now = .ok (filed, artifact)) :
    Rewrites db filed request.id file := by
  have filing := generateArtifact_filed done
  obtain ⟨artifacts, artifactSeq, files, frame⟩ := filing.frame
  refine ⟨fun j => ?_, ?_, fun _ _ => rfl, ?_⟩
  · split
    case isTrue named =>
      subst named
      have recorded := filing.recorded
      rw [frame] at recorded ⊢
      simp only [Db.record, file, recorded, Option.isSome_some]
      rfl
    case isFalse differs =>
    have other := filing.others j differs
    rw [frame] at other ⊢
    simp only [Db.record, other]
    rfl
  · rw [frame]
  · rw [frame]
    exact fun _ member => .inl member

/-! ## The hold -/

section
variable {db after : Db} {request : LeadRequest} {now : Instant}

theorem setHold_record {f : BatchHold → BatchHold} {s : HoldStatus}
    (same : ∀ h, (f h).requestId = h.requestId) (status : ∀ h, (f h).status = s) (db : Db)
    {id : Uuid} {hold : BatchHold} (found : db.hold? id = some hold) (j : Uuid) :
    (db.setHold id f).record j = if j = id then { db.record j with hold := some s } else
    db.record j := by
  have looked : lookup BatchHold.requestId j (adjust BatchHold.requestId id f db.holds) = _ :=
    lookup_adjust fun h _ => same h
  unfold Db.record
  simp only [Db.hold?, Db.setHold, looked]
  split
  case isTrue named =>
    subst named
    have read : lookup BatchHold.requestId j db.holds = some hold := found
    simp only [read, map_some, status]
    rfl
  case isFalse => rfl

theorem releaseBatchHold_rewrites (db : Db) (request : LeadRequest) (now : Instant) :
    Rewrites db (releaseBatchHold db request now) request.id (release request.isBilled) := by
  have filed : ∀ r : RequestRecord, r.filed → (release request.isBilled r).filed :=
    fun r filed => (filed_release _).trans filed
  -- the record reads its release off the hold that was found
  have unmoved : (release request.isBilled (db.record request.id)) = db.record request.id →
      Rewrites db db request.id (release request.isBilled) := by
    intro same
    refine ⟨fun j => ?_, rfl, filed, fun _ member => .inl member⟩
    split
    case isTrue named => rw [named, same]
    case isFalse => rfl
  unfold releaseBatchHold
  split
  case isTrue unbilled => exact unmoved (by simp [release, unbilled])
  case isFalse billed =>
  split
  case h_1 absent => exact unmoved (by simp [release, Db.record, absent])
  case h_2 hold found =>
  split
  case isTrue active =>
    refine ⟨fun j => ?_, rfl, filed, fun _ member => .inl member⟩
    refine (setHold_record (s := .released) ?_ ?_ db found j).trans ?_
    · exact fun _ => rfl
    · exact fun _ => rfl
    split
    case isTrue named =>
      subst named
      have held : (db.record request.id).hold = some .active := by simp [Db.record, found, active]
      simp [release, billed, held]
    case isFalse => rfl
  case isFalse settled => exact unmoved (by simp [release, Db.record, found, settled])

theorem reinstateBatchHold_rewrites (done : reinstateBatchHold db request = .ok after) :
    Rewrites db after request.id (reinstate request.isBilled) ∧
    (request.isBilled → (db.record request.id).hold = some .active ∨
    (db.record request.id).hold = some .released) := by
  have filed : ∀ r : RequestRecord, r.filed → (reinstate request.isBilled r).filed :=
    fun r filed => (filed_reinstate _).trans filed
  unfold reinstateBatchHold at done
  split at done
  case isTrue unbilled =>
    cases done
    refine ⟨⟨fun j => ?_, rfl, filed, fun _ member => .inl member⟩, fun billed =>
      by simp [unbilled] at billed⟩
    simp [reinstate, unbilled]
  case isFalse billed =>
  split at done
  · cases done
  split at done
  · cases done
  case h_2 hold found =>
  split at done
  · cases done
  case h_2 active =>
    cases done
    have held : (db.record request.id).hold = some .active := by simp [Db.record, found, active]
    refine ⟨⟨fun j => ?_, rfl, filed, fun _ member => .inl member⟩, fun _ => .inl held⟩
    split
    case isTrue named =>
      subst named
      simp [reinstate, billed, ← held]
    case isFalse => rfl
  case h_3 released =>
  simp only at done
  split at done
  · cases done
  cases done
  have held : (db.record request.id).hold = some .released := by simp [Db.record, found, released]
  refine ⟨⟨fun j => ?_, rfl, filed, fun _ member => .inl member⟩, fun _ => .inr held⟩
  refine (setHold_record (s := .active) ?_ ?_ db found j).trans ?_
  · exact fun _ => rfl
  · exact fun _ => rfl
  simp [reinstate, billed]

theorem charge_record {entry : CreditLedgerEntry} {id : Uuid}
    (named : entry.batchRequestId = some id) (db : Db)
    (j : Uuid) : ({ db with ledger := db.ledger ++ [entry] } : Db).record j =
      if j = id then { db.record j with charges := (db.record j).charges + 1 } else db.record j := by
  have grown : chargesFor { db with ledger := db.ledger ++ [entry] } j = _ :=
    chargesFor_append db _ entry j rfl
  change { db.record j with charges := (chargesFor { db with ledger := db.ledger ++ [entry] } j).length } = _
  rw [grown, named]
  by_cases here : j = id
  · rw [if_pos here, if_pos (congrArg some here.symm), length_append]
    rfl
  have other : ¬some id = some j := fun same => here (some.inj same).symm
  rw [if_neg here, if_neg other, append_nil]
  rfl

theorem charges_eq_zero {id : Uuid} : (db.record id).charges = 0 ↔ db.charge? id = none := by
  simp only [Db.record, List.length_eq_zero_iff, chargesFor, filter_eq_nil_iff, decide_eq_true_eq]
  exact lookup_none.symm

theorem captureBatchHold_rewrites {entryId : Uuid}
    (done : captureBatchHold db request entryId now = .ok after) :
    Rewrites db after request.id (capture request.isBilled) ∧
    (request.isBilled → (db.record request.id).hold = some .active ∨
    (db.record request.id).hold = some .captured) := by
  have filed : ∀ r : RequestRecord, r.filed → (capture request.isBilled r).filed :=
    fun r filed => (filed_capture _).trans filed
  by_cases billed : request.isBilled
  case neg =>
    have same : after = db := by
      simp only [captureBatchHold, billed] at done
      exact (ok.inj done).symm
    subst same
    refine ⟨⟨fun j => ?_, rfl, filed, fun _ member => .inl member⟩, fun bills => absurd bills billed⟩
    simp [capture, billed]
  case pos =>
  rcases captureBatchHold_cases done with ⟨rfl, settled⟩ | ⟨hold, found, active, ends⟩
  · obtain ⟨hold, found, captured⟩ := settled billed
    have held : (after.record request.id).hold = some .captured := by simp [Db.record, found, captured]
    refine ⟨⟨fun j => ?_, rfl, filed, fun _ member => .inl member⟩, fun _ => .inr held⟩
    split
    case isTrue named =>
      subst named
      simp [capture, held]
    case isFalse => rfl
  have held : (db.record request.id).hold = some .active := by simp [Db.record, found, active]
  have moved : ∀ j, (db.setHold request.id (captured now)).record j = _ :=
    setHold_record (f := captured now) (s := .captured) (fun _ => rfl) (fun _ => rfl) db found
  rcases ends with ⟨entry, charged, rfl⟩ | ⟨uncharged, rfl⟩
  · have charges : (db.record request.id).charges ≠ 0 := fun zero => by
      rw [charges_eq_zero.mp zero] at charged
      cases charged
    refine ⟨⟨fun j => ?_, rfl, filed, fun _ member => .inl member⟩, fun _ => .inl held⟩
    rw [moved]
    split
    case isTrue named =>
      subst named
      simp [capture, billed, held, charges]
    case isFalse => rfl
  have charges := charges_eq_zero.mpr uncharged
  refine ⟨⟨fun j => ?_, rfl, filed, fun _ member => .inl member⟩, fun _ => .inl held⟩
  have named : (batchCharge hold request entryId now).batchRequestId = some request.id := rfl
  refine (charge_record named (db.setHold request.id (captured now)) j).trans ?_
  rw [moved]
  split
  case isTrue named =>
    subst named
    simp [capture, billed, held, charges]
  case isFalse => rfl

end

/-! ## Steps -/

/-- Every record moves by allowed moves, request identifiers stay unique, and a delivery is
queued only for a request with an artifact. -/
structure LifecycleStep (db' : Db) : Prop where
  records : ∀ id, Relation.ReflTransGen RecordMove (db.record id) (db'.record id)
  keyed : Keyed LeadRequest.id db.requests → Keyed LeadRequest.id db'.requests
  deliveries : ∀ x ∈ db'.deliveries, x ∈ db.deliveries ∨ ∃ id, x = some id ∧ (db'.record id).filed

structure LifecycleSound : Prop where
  records : ∀ id, (db.record id).Sound
  keyed : Keyed LeadRequest.id db.requests
  deliveries : ∀ x ∈ db.deliveries, ∃ id, x = some id ∧ (db.record id).filed

section
variable {a b c db db' : Db} {id : Uuid} {g : RequestRecord → RequestRecord}

theorem moves_sound {r r' : RequestRecord} (moves : Relation.ReflTransGen RecordMove r r')
    (sound : r.Sound) : r'.Sound := by
  induction moves with
  | refl => exact sound
  | tail _ move ih => exact move.sound ih

theorem moves_filed {r r' : RequestRecord} (moves : Relation.ReflTransGen RecordMove r r')
    (filed : r.filed) : r'.filed := by
  induction moves with
  | refl => exact filed
  | tail _ move ih => exact move.filed ih

theorem moves_terms {r r' : RequestRecord} (moves : Relation.ReflTransGen RecordMove r r')
    {o : Order} (present : r.order = some o) : ∃ status, r'.order = some { o with status } := by
  induction moves with
  | refl => exact ⟨o.status, present⟩
  | tail _ move ih =>
    obtain ⟨_, present⟩ := ih
    obtain ⟨status, present⟩ := move.terms present
    exact ⟨status, present⟩

theorem LifecycleStep.refl (db : Db) : LifecycleStep db db :=
  ⟨fun _ => .refl, id, fun _ member => .inl member⟩

theorem LifecycleStep.trans (first : LifecycleStep a b) (second : LifecycleStep b c) :
    LifecycleStep a c where
  records := fun id => (first.records id).trans (second.records id)
  keyed := fun keyed => second.keyed (first.keyed keyed)
  deliveries := fun x member => by
    rcases second.deliveries x member with inherited | fresh
    · rcases first.deliveries x inherited with old | ⟨id, named, filed⟩
      · exact .inl old
      · exact .inr ⟨id, named, moves_filed (second.records id) filed⟩
    · exact .inr fresh

theorem Quiet.step (quiet : Quiet a b) : LifecycleStep a b where
  records := fun id => by rw [quiet.records id]
  keyed := fun keyed => by
    unfold Keyed
    rw [quiet.ids]
    exact keyed
  deliveries := fun x member => .inl (quiet.deliveries ▸ member)

theorem Rewrites.step (rewrites : Rewrites a b id g)
    (moves : Relation.ReflTransGen RecordMove (a.record id) (g (a.record id))) : LifecycleStep a b where
  records := fun j => by
    rw [rewrites.records j]
    split
    case isTrue named =>
      subst named
      exact moves
    case isFalse => exact .refl
  keyed := fun keyed => by
    unfold Keyed
    rw [rewrites.ids]
    exact keyed
  deliveries := fun x member => by
    rcases rewrites.deliveries x member with old | ⟨named, filed⟩
    · exact .inl old
    · exact .inr ⟨id, named, filed⟩

theorem LifecycleStep.sound (step : LifecycleStep a b) (sound : LifecycleSound a) : LifecycleSound b where
  records := fun id => moves_sound (step.records id) (sound.records id)
  keyed := step.keyed sound.keyed
  deliveries := fun x member => by
    rcases step.deliveries x member with old | fresh
    · obtain ⟨id, named, filed⟩ := sound.deliveries x old
      exact ⟨id, named, moves_filed (step.records id) filed⟩
    · exact fresh

theorem record_order {r : LeadRequest} (found : db.request? id = some r) :
    (db.record id).order = some r.order := by
  simp [Db.record, found]

theorem request_stored {r : LeadRequest} (found : db.request? id = some r) : db.request? r.id = some r := by
  rw [(lookup_some found).2]
  exact found

end

/-! ## Allocation -/

theorem insertEvents_rewrites {db inserted : Db} {drafts : List DistributionEvent} {id : Uuid}
    (own : ∀ e ∈ drafts, e.requestId = some id) (done : insertEvents db drafts = .ok inserted) :
    Rewrites db inserted id (RequestRecord.distribute drafts.length) := by
  have grown := insertEvents_ok done
  have numbered : ∀ e ∈ numberEvents db.eventSeq drafts, e.requestId = some id := by
    intro e member
    obtain ⟨draft, inDrafts, n, rfl⟩ := mem_numberEvents member
    exact own draft inDrafts
  have count : (numberEvents db.eventSeq drafts).length = drafts.length := by
    have mapped :=
      congrArg List.length (map_numberEvents (f := DistributionEvent.leadId)
      (fun _ _ => rfl) db.eventSeq drafts)
    simpa only [length_map] using mapped
  rw [grown]
  refine ⟨fun j => ?_, rfl, fun _ filed => filed, fun _ member => .inl member⟩
  have events : ({ db with events := db.events ++ numberEvents db.eventSeq drafts
                           eventSeq := db.eventSeq + drafts.length } : Db).eventsOf j =
      db.eventsOf j ++ (numberEvents db.eventSeq drafts).filter fun e => e.requestId = some j :=
    filter_append _ _
  split
  case isTrue named =>
    subst named
    have all : (numberEvents db.eventSeq drafts).filter (fun e => e.requestId = some j) =
        numberEvents db.eventSeq drafts := List.filter_eq_self.mpr fun e member =>
          by simp [numbered e member]
    simp only [Db.record, events, all, length_append, count, RequestRecord.distribute]
    rfl
  case isFalse differs =>
  have nothing : (numberEvents db.eventSeq drafts).filter (fun e => e.requestId = some j) = [] :=
    filter_eq_nil_iff.mpr fun e member => by simpa [numbered e member] using Ne.symm differs
  simp only [Db.record, events, nothing, append_nil]
  rfl

theorem restoreEvents_quiet {db restored : Db} {id : Uuid}
    (done : restoreEvents db id = .ok restored) : Quiet db restored := by
  obtain ⟨f, rewrites, rfl⟩ := restoreEvents_ok done
  have request : ∀ e, (f e).requestId = e.requestId := by
    intro e
    obtain ⟨_, _, _, _, same⟩ := rewrites e
    rw [same]
  refine ⟨fun j => ?_, rfl, rfl⟩
  have events : ((db.events.map f).filter fun e => e.requestId = some j).length =
    (db.eventsOf j).length := by
    rw [List.filter_map, length_map]
    simp only [comp_def, request]
    rfl
  simp only [Db.record, Db.eventsOf, events]
  rfl

theorem open_of_ready {request : LeadRequest}
    (ready : request.status = .approved ∨ request.status = .processing) :
    request.order.status ∈ openStatuses := by
  change request.status ∈ openStatuses
  rcases ready with same | same <;> rw [same] <;> decide

section
variable {platform : Platform} {env : AllocationEnv} {db filed after : Db} {request : LeadRequest}
  {customer : Customer} {result : AllocationResult}

theorem settled_rewrites {g : RequestRecord → RequestRecord} {f : LeadRequest → LeadRequest}
    (filing : Rewrites db filed request.id fun r => file (g r)) (marks : Marks f .generated)
    (captures :
      captureBatchHold (queueDelivery (filed.setRequest request.id f) request.id env.queuedAt) request
      env.chargeId env.capturedAt = .ok after) :
    Rewrites db after request.id (fun r => capture request.isBilled (mark .generated (file (g r)))) ∧
    (request.isBilled → (g (db.record request.id)).hold = some .active ∨
    (g (db.record request.id)).hold = some .captured) := by
  have marked := filing.trans (setRequest_rewrites marks filed request.id)
  have onFile : ((filed.setRequest request.id f).record request.id).filed := by
    rw [marked.self]
    rfl
  have queues : Rewrites _ (queueDelivery _ request.id env.queuedAt) request.id fun r => r :=
    ((enqueueDelivery_rewrites onFile .empty env.queuedAt).quiet
      (enqueueJob_quiet (by decide) _ _ _ _)).quiet (enqueueJob_quiet (by decide) _ _ _ _)
  have queued := marked.trans queues
  obtain ⟨captured, held⟩ := captureBatchHold_rewrites captures
  rw [queued.self] at held
  exact ⟨queued.trans captured, held⟩

end

/-! ## Closing times -/

def stoppedStatuses : List RequestStatus := [.rejected, .canceled, .failed]

def Timed (r : LeadRequest) : Prop := r.closedAt.isSome ↔ r.status ∈ stoppedStatuses

def Closing : Prop := ∀ id r, db.request? id = some r → Timed r

theorem Timed.stops {r : LeadRequest} (set : r.closedAt.isSome)
    (stopped : r.status ∈ stoppedStatuses) : Timed r :=
  ⟨fun _ => stopped, fun _ => set⟩

theorem Timed.clears {r : LeadRequest} (cleared : r.closedAt = none)
    (moving : r.status ∉ stoppedStatuses) : Timed r := by
  constructor
  · intro set
    rw [cleared] at set
    cases set
  · exact fun stopped => absurd stopped moving

theorem Timed.moves {r r' : LeadRequest} (timed : Timed r) (kept : r'.closedAt = r.closedAt)
    (moving : r.status ∉ stoppedStatuses) (onward : r'.status ∉ stoppedStatuses) : Timed r' := by
  refine Timed.clears ?_ onward
  rw [kept]
  cases closed : r.closedAt with
  | none => rfl
  | some at_ => exact absurd (timed.mp (by rw [closed]; rfl)) moving

theorem unstopped_of_open {s : RequestStatus} (waits : s ∈ openStatuses) : s ∉ stoppedStatuses := by
  revert waits
  cases s <;> decide

section
variable {db after : Db} {id : Uuid} {f : LeadRequest → LeadRequest}

theorem Closing.of_requests (closing : Closing db) (same : after.requests = db.requests) :
    Closing after := by
  intro id r found
  rw [Db.request?, same] at found
  exact closing id r found

theorem Db.OnlyJobs.closing (queued : db.OnlyJobs after) (closing : Closing db) : Closing after := by
  obtain ⟨jobs, jobSeq, rfl⟩ := queued
  exact closing.of_requests rfl

theorem Closing.set (closing : Closing db) (named : ∀ r, (f r).id = r.id)
    (timed : ∀ r, db.request? id = some r → Timed r → Timed (f r)) : Closing (db.setRequest id f) := by
  intro j r' found
  have looked : lookup LeadRequest.id j (adjust LeadRequest.id id f db.requests) = _ :=
    lookup_adjust fun r _ => named r
  rw [Db.request?, Db.setRequest, looked] at found
  split at found
  case isTrue here =>
    subst here
    obtain ⟨r, stored, rfl⟩ := map_eq_some_iff.mp found
    exact timed r stored (closing j r stored)
  case isFalse => exact closing j r' found

end

end Jawnix
