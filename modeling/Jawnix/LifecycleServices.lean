import Jawnix.Licences
import Jawnix.LicensedStates
import Jawnix.QueueSteps

/-!
# What a service does

A service is a chain of table updates. `Performs` says together what a chain does to
the records, to the Licensed States, to the closing times and to the queue, so each
service is taken apart once.
-/
namespace Jawnix

open RequestRecord

/-- What a chain of updates does for the requests `ids`. The records move if `R` holds; the rows
stay within the Licensed States if `L` does, and keep their closing times if `C` does. -/
structure Performs (R L C : Prop) (ids : List Uuid) (db after : Db) : Prop where
  step : R → LifecycleStep db after
  others : R → ∀ j ∉ ids, after.record j = db.record j
  licence : R → L → LicenceStep db after
  closing : R → C → Closing db → Closing after
  queue : Enqueues db after

/-- Jobs other than deliveries are queued, and nothing else is written. -/
structure Queues (db after : Db) : Prop where
  quiet : Quiet db after
  only : db.OnlyJobs after
  queue : Enqueues db after

section
variable {R L C R' L' C' : Prop} {ids ids' : List Uuid} {a b c db : Db}

theorem Performs.trans (first : Performs R L C ids a b) (second : Performs R L C ids b c) :
    Performs R L C ids a c where
  step := fun given => (first.step given).trans (second.step given)
  others := fun given j outside => (second.others given j outside).trans (first.others given j outside)
  licence := fun given fits => (first.licence given fits).trans (second.licence given fits)
  closing := fun given due closing => second.closing given due (first.closing given due closing)
  queue := first.queue.trans second.queue

theorem Performs.imp (serves : Performs R' L' C' ids' a b) (given : R → R') (fits : R → L → L')
    (due : R → C → C') (within : ids' ⊆ ids) : Performs R L C ids a b where
  step := fun holds => serves.step (given holds)
  others := fun holds j outside => serves.others (given holds) j fun inside => outside (within inside)
  licence := fun holds fit => serves.licence (given holds) (fits holds fit)
  closing := fun holds owed => serves.closing (given holds) (due holds owed)
  queue := serves.queue

theorem Quiet.performs (quiet : Quiet a b) (licence : LicenceStep a b)
    (requests : b.requests = a.requests) (queue : Enqueues a b) : Performs R L C ids a b where
  step := fun _ => quiet.step
  others := fun _ j _ => quiet.records j
  licence := fun _ _ => licence
  closing := fun _ _ closing => closing.of_requests requests
  queue := queue

theorem Performs.refl (db : Db) : Performs R L C ids db db :=
    (Quiet.refl db).performs (.refl db) rfl (.refl db)
theorem Queues.refl (db : Db) : Queues db db := ⟨.refl db, .refl db, .refl db⟩

theorem Queues.trans (first : Queues a b) (second : Queues b c) : Queues a c :=
  ⟨first.quiet.trans second.quiet, first.only.trans second.only, first.queue.trans second.queue⟩

theorem Queues.performs (queues : Queues a b) : Performs R L C ids a b := by
  obtain ⟨quiet, only, queue⟩ := queues
  have requests : b.requests = a.requests := by
    obtain ⟨_, _, rfl⟩ := only
    rfl
  exact quiet.performs only.licenceStep requests queue

theorem Performs.queued (moved : Performs R L C ids a b) (queues : Queues b c) :
    Performs R L C ids a c := moved.trans queues.performs

theorem enqueueJob_queues {kind : JobKind} (other : kind ≠ .deliverRequest) (db : Db)
    (requestId : Option Uuid) (payload : JobPayload) (now : Instant) :
    Queues db (enqueueJob db kind requestId payload now) :=
  ⟨enqueueJob_quiet other db requestId payload now, enqueueJob_onlyJobs db kind requestId payload now,
    enqueueJob_enqueues db kind requestId payload now⟩

theorem enqueueMilestoneEmail_queues (db : Db) (request : LeadRequest) (now : Instant) :
    Queues db (enqueueMilestoneEmail db request now) := by
  unfold enqueueMilestoneEmail
  split
  · exact .refl db
  split
  · exact .refl db
  · exact enqueueJob_queues (by decide) _ _ _ _

theorem announced_queues (db : Db) (row : LeadRequest) (requestId : Option Uuid) (now : Instant) :
    Queues db (enqueueJob (enqueueMilestoneEmail db row now) .updateNotification requestId .empty now) :=
  (enqueueMilestoneEmail_queues db row now).trans (enqueueJob_queues (by decide) _ _ _ _)

end

/-! ## Updates of one request -/

section
variable {R L C : Prop} {db noted after : Db} {id : Uuid} {request : LeadRequest} {o : Order} {now : Instant}
  {f : LeadRequest → LeadRequest} {s : RequestStatus}

theorem setRequest_performs (marks : Marks f s)
    (move : R → RecordMove (db.record id) (mark s (db.record id)))
    (licence : R → L → LicenceStep db (db.setRequest id f))
    (timed : R → C → ∀ r, db.request? id = some r → Timed r → Timed (f r)) :
    Performs R L C [id] db (db.setRequest id f) where
  step := fun given => (setRequest_rewrites marks db id).step (.single (move given))
  others := fun _ j outside => (setRequest_rewrites marks db id).other (by simpa using outside)
  licence := licence
  closing := fun given due closing => closing.set marks.id (timed given due)
  queue := .of_tables rfl rfl

theorem waiting_performs (edge : Edge f s) (stays : s ∈ openStatuses)
    (kept : ∀ r, (f r).closedAt = r.closedAt) (order : (db.record id).order = some o)
    (waits : R → o.status ∈ openStatuses) : Performs R L C [id] db (db.setRequest id f) := by
  have here : R → ∀ r, db.request? id = some r → r.status ∈ openStatuses := by
    intro given r found
    rw [record_order found] at order
    cases order
    exact waits given
  refine setRequest_performs edge.toMarks (fun given => .queued order (waits given) stays)
    (fun given _ => ?_) fun given _ r found timed => ?_
  · exact setRequest_licence edge fun r found _ => .inl (.inl (here given r found))
  refine timed.moves (kept r) (unstopped_of_open (here given r found)) (unstopped_of_open ?_)
  rw [edge.status r]
  exact stays

theorem notified_performs (edge : Edge f s) (sent : s = .delivered ∨ s = .failed ∨ s = .generated)
    (filed : R → (db.record id).filed)
    (timed : R → C → ∀ r, db.request? id = some r → Timed r → Timed (f r)) :
    Performs R L C [id] db (db.setRequest id f) := by
  have shut : s ∉ openStatuses := by rcases sent with rfl | rfl | rfl <;> decide
  exact setRequest_performs edge.toMarks (fun given => .notified (filed given) sent)
    (fun given _ => filed_licence edge shut (filed given)) timed

theorem released_performs (marks : Marks f s) (queues : Queues (db.setRequest request.id f) noted)
    (move : R → RecordMove (db.record request.id) (release request.isBilled (mark s (db.record request.id))))
    (licence : R → L → LicenceStep db (db.setRequest request.id f))
    (timed : R → C → ∀ r, db.request? request.id = some r → Timed r → Timed (f r)) :
    Performs R L C [request.id] db (releaseBatchHold noted request now) := by
  have rewrites := ((setRequest_rewrites marks db request.id).quiet queues.quiet).trans
    (releaseBatchHold_rewrites noted request now)
  have marked : Enqueues db (db.setRequest request.id f) := .of_tables rfl rfl
  obtain ⟨holds, released⟩ := releaseBatchHold_frame noted request now
  rw [released] at rewrites ⊢
  refine ⟨fun given => rewrites.step (.single (move given)), fun _ j outside =>
    rewrites.other (by simpa using outside), fun given fits => ?_, fun given due closing => ?_, ?_⟩
  · exact ((licence given fits).trans queues.only.licenceStep).trans (.tables noted)
  · exact (queues.only.closing (closing.set marks.id (timed given due))).of_requests rfl
  · exact (marked.trans queues.queue).trans (.of_tables rfl rfl)

theorem setArtifact_performs {ids : List Uuid} {g : BatchArtifact → BatchArtifact}
    (same : ∀ a, (g a).requestId = a.requestId) (db : Db) (requestId : Uuid) :
    Performs R L C ids db (db.setArtifact requestId g) :=
  (setArtifact_quiet same db requestId).performs (setArtifact_licence same db requestId) rfl
    (.of_tables rfl rfl)

theorem enqueueDelivery_performs (filed : R → (db.record id).filed) (payload : JobPayload) :
    Performs R L C [id] db (enqueueJob db .deliverRequest (some id) payload now) where
  step := fun given => (enqueueDelivery_rewrites (filed given) payload now).step .refl
  others := fun _ _ _ => rfl
  licence := fun _ _ => (enqueueJob_onlyJobs _ _ _ _ _).licenceStep
  closing := fun _ _ closing => (enqueueJob_onlyJobs _ _ _ _ _).closing closing
  queue := enqueueJob_enqueues _ _ _ _ _

end

/-! ## Submission and withdrawal -/

section
variable {casing : Casing} {db after : Db} {draft : LeadRequest} {expected : Option Int}
  {userId holdId : Uuid}
  {now : Instant} {fresh : NewRequest}

theorem insertSubmission_step (sound : LifecycleSound db) (pending : draft.status = .pending)
    (positive : 0 < draft.leadCount) (done : insertSubmission db draft expected holdId now = .ok after) :
    LifecycleStep db after := by
  obtain ⟨inserted, places, last⟩ := bind_ok done
  cases last
  refine LifecycleStep.trans ?_ (enqueueJob_quiet (by decide) _ _ _ _).step
  obtain ⟨absent, placed, hold, rfl, ⟨isBilled, _, _, _, terms⟩, held⟩ := billedSubmission_placed places
  have named : placed.id = draft.id := by rw [terms]
  have none : (db.record draft.id).order = none := by simp [Db.record, absent]
  have unheld : db.hold? draft.id = .none := by
    have sound_ := sound.records draft.id
    simp only [RequestRecord.Sound, none] at sound_
    simpa [Db.record] using sound_.1
  refine ⟨fun j => ?_, fun keyed => ?_, fun _ member => .inl member⟩
  · have requests : lookup LeadRequest.id j (db.requests ++ [placed]) = _ := lookup_append_new absent named j
    by_cases here : draft.id = j
    · subst here
      have order :
        placed.order =
        { status := .pending, isBilled := placed.isBilled, leadCount := draft.leadCount } := by
        simp only [LeadRequest.order, terms, pending]
      have reserved : (lookup BatchHold.requestId draft.id (db.holds ++ hold.toList)).map BatchHold.status =
          if placed.isBilled then some .active else (db.hold? draft.id).map BatchHold.status := by
        rcases held with ⟨unbilled, rfl⟩ | ⟨billed, h, rfl, own, active⟩
        · simp [unbilled, Db.hold?]
        have added : lookup BatchHold.requestId draft.id (db.holds ++ [h]) = _ :=
          lookup_append_new unheld own draft.id
        simp [billed, added, active]
      have record :
        ({ db with requests := db.requests ++ [placed], holds := db.holds ++ hold.toList } :
          Db).record
          draft.id = submit placed.order (db.record draft.id) := by
        simp only [Db.record, Db.request?, Db.hold?, requests, if_true, map_some, reserved, submit]
        rfl
      rw [record]
      refine .single (.submitted none ?_ ?_)
      · rw [order]
      · rw [order]
        exact positive
    have kept : (lookup BatchHold.requestId j (db.holds ++ hold.toList)).map BatchHold.status =
        (db.hold? j).map BatchHold.status := by
      rcases held with ⟨_, rfl⟩ | ⟨_, h, rfl, own, _⟩
      · simp [Db.hold?]
      have added : lookup BatchHold.requestId j (db.holds ++ [h]) = _ := lookup_append_new unheld own j
      rw [if_neg here] at added
      simp [added, Db.hold?]
    have record :
      ({ db with requests := db.requests ++ [placed], holds := db.holds ++ hold.toList } :
        Db).record j =
        db.record j := by
      simp only [Db.record, Db.request?, Db.hold?, requests, if_neg here] at kept ⊢
      rw [kept]
      rfl
    rw [record]
  · refine keyed_append.mpr ⟨keyed, ?_⟩
    rw [named]
    exact lookup_none.mp absent

theorem canceledByCustomer_edge (message : String) (now : Instant) :
    Edge (canceledByCustomer message now) .canceled :=
  ⟨⟨fun _ => rfl, fun _ => rfl⟩, fun _ => ⟨_, _, _, _, _, _, _, rfl⟩, by decide⟩

theorem open_of_cancelable {request : LeadRequest}
    (cancelable : request.status ∈ cancelableStatuses) : request.order.status ∈ openStatuses := by
  change request.status ∈ openStatuses
  revert cancelable
  cases request.status <;> decide

theorem cancelRequest_performs {requestId : Uuid} {message : String}
    (done : cancelRequest db userId requestId message now = .ok after) :
    Performs True True True [requestId] db after := by
  unfold cancelRequest at done
  split at done
  · cases done
  case h_2 item found =>
  split at done
  · cases done
  obtain ⟨cancelable, done⟩ := guard_ok done
  cases done
  have named : item.id = requestId := (lookup_some found).2
  have waits := open_of_cancelable (not_not.mp cancelable)
  have edge := canceledByCustomer_edge message now
  subst named
  exact (released_performs edge.toMarks (.refl _) (fun _ => .withdrawn (record_order found) waits (.inr rfl))
    (fun _ _ => closing_licence edge (by decide) db item.id)
    fun _ _ _ _ _ => Timed.stops rfl (by decide : RequestStatus.canceled ∈ stoppedStatuses)).queued
      (enqueueJob_queues (by decide) _ _ _ _)

end

/-! ## Administrator transitions -/

variable (now : Instant)

theorem approved_edge : Edge (approved now) .approved :=
  ⟨⟨fun _ => rfl, fun _ => rfl⟩, fun _ => ⟨_, _, _, _, _, _, _, rfl⟩, by decide⟩

theorem retried_edge : Edge retried .approved :=
  ⟨⟨fun _ => rfl, fun _ => rfl⟩, fun _ => ⟨_, _, _, _, _, _, _, rfl⟩, by decide⟩

theorem redelivering_edge : Edge redelivering .generated :=
  ⟨⟨fun _ => rfl, fun _ => rfl⟩, fun _ => ⟨_, _, _, _, _, _, _, rfl⟩, by decide⟩

theorem rejected_edge : Edge (rejected now) .rejected :=
  ⟨⟨fun _ => rfl, fun _ => rfl⟩, fun _ => ⟨_, _, _, _, _, _, _, rfl⟩, by decide⟩

theorem canceledByAdmin_edge : Edge canceledByAdmin .canceled :=
  ⟨⟨fun _ => rfl, fun _ => rfl⟩, fun _ => ⟨_, _, _, _, _, _, _, rfl⟩, by decide⟩

def CancelsByAdmin (db : Db) (requestId : Uuid) (action : RequestAction) : Prop :=
  action = .cancel ∧ ∃ r ∈ db.request? requestId, .cancel ∈ availableActionNames (actionContext db r)
  deriving Decidable

section
variable {db after : Db} {item : LeadRequest} {action : RequestAction} {now : Instant}

/-- What the table offers is a move of the record, and only a retry revives a request. -/
theorem applyTransition_performs (stored : db.request? item.id = some item)
    (offered : Offered (actionContext db item) action)
    (done : applyTransition db item action now = .ok after) :
    Performs True True (action ≠ .cancel) [item.id] db after := by
  have order := record_order stored
  unfold applyTransition at done
  cases action with
  | approve =>
    cases done
    have pending : item.order.status = .pending := offered
    have waits : item.order.status ∈ openStatuses := by rw [pending]; decide
    exact ((waiting_performs (approved_edge now) (by decide) (fun _ => rfl) order fun _ => waits).queued
      (announced_queues _ _ _ _)).queued (enqueueJob_queues (by decide) _ _ _ _)
  | retry =>
    simp only at done
    split at done
    · cases done
    case h_2 armed reinstates =>
    cases done
    obtain ⟨arms, held⟩ := reinstateBatchHold_rewrites reinstates
    obtain ⟨holds, rfl⟩ := reinstateBatchHold_frame reinstates
    have moved := arms.trans (setRequest_rewrites retried_edge.toMarks { db with holds } item.id)
    have reachable : Allocatable db item := .inr (mem_availableActionNames.mpr offered)
    have resumes : LicenceStep { db with holds } (({ db with holds } : Db).setRequest item.id retried) := by
      refine setRequest_licence retried_edge fun r found _ => .inl ?_
      cases some.inj (stored.symm.trans found)
      exact (allocatable_congr (by rfl) item).mpr reachable
    have retries : Performs True True (RequestAction.retry ≠ .cancel) [item.id] db
        (({ db with holds } : Db).setRequest item.id retried) :=
      { step := fun _ => moved.step (.single (.retried order offered.1 offered.2 held))
        others := fun _ j outside => moved.other (by simpa using outside)
        licence := fun _ _ => (LicenceStep.tables db).trans resumes
        closing := fun _ _ closing => by
          have armed : Closing { db with holds } := closing.of_requests rfl
          exact armed.set (fun _ => rfl) fun _ _ _ =>
            Timed.clears rfl (by decide : RequestStatus.approved ∉ stoppedStatuses)
        queue := .of_tables rfl rfl }
    exact (retries.queued (announced_queues _ _ _ _)).queued (enqueueJob_queues (by decide) _ _ _ _)
  | retryDelivery =>
    cases done
    obtain ⟨_, filed⟩ := offered
    have marks : Performs True True (RequestAction.retryDelivery ≠ .cancel) [item.id] db
        (db.setRequest item.id redelivering) :=
      notified_performs redelivering_edge (.inr (.inr rfl)) (fun _ => filed) fun _ _ _ _ _ =>
        Timed.clears rfl (by decide : RequestStatus.generated ∉ stoppedStatuses)
    have marked := (setRequest_rewrites redelivering_edge.toMarks db item.id).quiet
      (enqueueJob_quiet (by decide : JobKind.updateNotification ≠ .deliverRequest) _
        (some item.id) .empty now)
    refine (marks.queued (enqueueJob_queues (by decide) _ _ _ _)).trans
      (enqueueDelivery_performs (fun _ => ?_) .empty)
    rw [marked.self]
    exact filed
  | reject =>
    cases done
    have waits : item.order.status ∈ openStatuses := by
      have cases_ : item.order.status = .pending ∨ item.order.status = .waitingInventory := offered
      rcases cases_ with same | same <;> rw [same] <;> decide
    exact released_performs (rejected_edge now).toMarks (announced_queues _ _ _ _)
      (fun _ => .withdrawn order waits (.inl rfl))
        (fun _ _ => closing_licence (rejected_edge now) (by decide) db item.id)
      fun _ _ _ _ _ => Timed.stops rfl (by decide : RequestStatus.rejected ∈ stoppedStatuses)
  | cancel =>
    cases done
    have waits : item.order.status ∈ openStatuses := by
      have cases_ : item.order.status = .pending ∨ item.order.status = .approved ∨
        item.order.status = .waitingInventory := offered.1
      rcases cases_ with same | same | same <;> rw [same] <;> decide
    exact released_performs canceledByAdmin_edge.toMarks (enqueueJob_queues (by decide) _ _ _ _)
      (fun _ => .withdrawn order waits (.inr rfl))
        (fun _ _ => closing_licence canceledByAdmin_edge (by decide) db item.id)
      fun _ other => absurd rfl other
  | regenerate => cases done

theorem transitionRequest_performs {requestId : Uuid}
    (done : transitionRequest db requestId action now = .ok after) :
    Performs True True (¬CancelsByAdmin db requestId action) [requestId] db after := by
  unfold transitionRequest at done
  split at done
  · cases done
  case h_2 item found =>
  split at done
  · cases done
  obtain ⟨listed, done⟩ := guard_ok done
  have named : item.id = requestId := (lookup_some found).2
  subst named
  have offered := not_not.mp listed
  refine (applyTransition_performs found (mem_availableActionNames.mp offered) done).imp (id)
    (fun _ fits => fits) (fun _ other cancels => other ⟨cancels, item, found, ?_⟩) (List.Subset.refl _)
  rw [← cancels]
  exact offered

end

/-! ## The Licensed States review -/

section
variable {casing : Casing} {digests : ReviewDigests} {db after : Db} {now : Instant}
  {added removed : List String}

def Waits (db : Db) (id : Uuid) : Prop := ∀ o, (db.record id).order = some o → o.status ∈ openStatuses

theorem canceledByReview_marks (resulting : List String) (now : Instant) :
    Marks (canceledByReview resulting now) .canceled := ⟨fun _ => rfl, fun _ => rfl⟩

theorem applyRequestImpact_performs {impact : LicensedStateImpact} :
    Performs (Waits db impact.requestId) False True [impact.requestId] db
    (applyRequestImpact added removed now db impact) := by
  unfold applyRequestImpact
  split
  · exact .refl db
  case h_2 item found =>
  have named : item.id = impact.requestId := (lookup_some found).2
  have order := record_order found
  rw [← named] at order ⊢
  simp only
  cases impact.action with
  | narrowed =>
    have kept := setRequest_quiet (f := narrowed removed impact.resultingStates) (fun _ => rfl)
      (fun _ => rfl) db item.id
    have narrows : Performs (Waits db item.id) False True [item.id] db
        (db.setRequest item.id (narrowed removed impact.resultingStates)) :=
      { step := fun _ => kept.step
        others := fun _ j _ => kept.records j
        licence := fun _ never => never.elim
        closing := fun _ _ closing => closing.set (fun _ => rfl) fun _ _ timed => timed
        queue := .of_tables rfl rfl }
    exact narrows.queued (enqueueJob_queues (by decide) _ _ _ _)
  | canceled =>
    exact ((released_performs (canceledByReview_marks impact.resultingStates now) (.refl _)
      (fun waits => .withdrawn order (waits _ order) (.inr rfl)) (fun _ never => never.elim)
      fun _ _ _ _ _ => Timed.stops rfl (by decide : RequestStatus.canceled ∈ stoppedStatuses)).queued
        (enqueueMilestoneEmail_queues _ _ _)).queued (enqueueJob_queues (by decide) _ _ _ _)

theorem applyImpacts_performs {impacts : List LicensedStateImpact}
    (distinct : (impacts.map LicensedStateImpact.requestId).Nodup) :
    Performs (∀ impact ∈ impacts, Waits db impact.requestId) False True
    (impacts.map LicensedStateImpact.requestId) db
    (impacts.foldl (applyRequestImpact added removed now) db) := by
  induction impacts generalizing db with
  | nil => exact .refl db
  | cons impact rest ih =>
  obtain ⟨apart, later⟩ := nodup_cons.mp distinct
  have here : Performs (Waits db impact.requestId) False True [impact.requestId] db
      (applyRequestImpact added removed now db impact) := applyRequestImpact_performs
  refine (here.imp (fun waits => waits impact mem_cons_self) (fun _ never => never) (fun _ due => due)
    (by simp)).trans ((ih later).imp (fun waits other member => ?_) (fun _ never => never)
      (fun _ due => due) (by simp))
  have differs : other.requestId ∉ [impact.requestId] := fun same =>
    apart (mem_singleton.mp same ▸ mem_map_of_mem member)
  unfold Waits
  rw [here.others (waits impact mem_cons_self) _ differs]
  exact waits other (mem_cons_of_mem _ member)

theorem setLicensedStates_quiet (db : Db) (profile : CustomerProfile) (states : List String) :
    Quiet db (setLicensedStates db profile states) := by
  unfold setLicensedStates
  simp only
  split <;> exact .of_tables rfl rfl rfl rfl rfl rfl

theorem applyReview_step {userId : Uuid} {claims : ReviewClaims} (sound : LifecycleSound db)
    (done : applyReview casing digests db userId claims now = .ok after) :
    LifecycleStep db after ∧ (Closing db → Closing after) := by
  obtain ⟨profile, customerId, impacts, added, removed, _, mapped, affects, _, rfl⟩ := applyReview_cases done
  have ids := affectedRequests_ids affects
  have waits : ∀ impact ∈ impacts, Waits db impact.requestId := by
    intro impact member o order
    obtain ⟨item, reviewed, named⟩ := mem_map.mp (ids.subset (mem_map_of_mem member))
    obtain ⟨stored, _, cancelable⟩ := mem_reviewedRequests.mp reviewed
    have found : db.request? impact.requestId = some item := named ▸ lookup_of_mem sound.keyed stored
    rw [record_order found] at order
    cases order
    exact open_of_cancelable cancelable
  have applied : Performs _ _ _ _ db (impacts.foldl (applyRequestImpact added removed now) db) :=
    applyImpacts_performs (ids.nodup (reviewedRequests_nodup sound.keyed customerId))
  refine ⟨(applied.step waits).trans (setLicensedStates_quiet _ _ _).step, fun closing => ?_⟩
  refine (applied.closing waits trivial closing).of_requests ?_
  simp only [setLicensedStates, mapped]
  rfl

end

/-! ## Notification -/

theorem delivered_edge : Edge (delivered now) .delivered :=
  ⟨⟨fun _ => rfl, fun _ => rfl⟩, fun _ => ⟨_, _, _, _, _, _, _, rfl⟩, by decide⟩

theorem deliveryFailed_edge : Edge (deliveryFailed now) .failed :=
  ⟨⟨fun _ => rfl, fun _ => rfl⟩, fun _ => ⟨_, _, _, _, _, _, _, rfl⟩, by decide⟩

theorem reportedFailed_edge (kind : String) (now : Instant) : Edge (reportedFailed kind now) .failed :=
  ⟨⟨fun _ => rfl, fun _ => rfl⟩, fun _ => ⟨_, _, _, _, _, _, _, rfl⟩, by decide⟩

section
variable {L C : Prop} {db after : Db} {requestId : Uuid} {now : Instant}

theorem unnotified_quiet (error : String) (db : Db) (requestId : Uuid) :
    Quiet db (db.setArtifact requestId (unnotified error)) :=
  setArtifact_quiet (f := unnotified error) (fun _ => rfl) db requestId

theorem LifecycleSound.unstopped_of_filed (sound : LifecycleSound db) {r : LeadRequest}
    (found : db.request? requestId = some r) (filed : (db.artifact? requestId).isSome)
    (unfailed : r.status ≠ .failed) : r.status ∉ stoppedStatuses := by
  obtain ⟨_, p, inPhase⟩ := (sound_of_order (record_order found)).mp (sound.records requestId)
  have distributed := inPhase.distributed_of_filed filed
  subst distributed
  have status : r.status ∈ Phase.distributed.statuses := inPhase.status
  revert status unfailed
  cases r.status <;> decide

theorem deliverRequest_performs {configured : Bool} {response : Except Fault String}
    (done : deliverRequest db requestId configured response now = .ok after) :
    Performs True True (LifecycleSound db ∧ ∀ r, db.request? requestId = some r →
    r.status ≠ .failed) [requestId] db
    after := by
  unfold deliverRequest deliverAsRead at done
  split at done
  case h_1 request artifact found filed =>
    split at done
    · cases done
      exact .refl db
    split at done
    · cases done
    split at done
    · cases done
    split at done
    · cases done
    case h_2 messageId =>
    cases done
    have onFile : (db.artifact? requestId).isSome := by rw [filed]; rfl
    have quiet := setArtifact_quiet (f := notified messageId now) (fun _ => rfl) db requestId
    refine ((setArtifact_performs (g := notified messageId now) (fun _ => rfl) db requestId).trans
      (notified_performs (delivered_edge now) (.inl rfl) (fun _ => ?_) fun _ due r stored timed =>
        ?_)).queued (enqueueJob_queues (by decide) _ _ _ _)
    · rw [quiet.records]
      exact onFile
    · exact timed.moves rfl (due.1.unstopped_of_filed stored onFile (due.2 r stored))
        (by decide : RequestStatus.delivered ∉ stoppedStatuses)
  · cases done

theorem markDeliveryFailed_performs {error : String} :
    Performs ((db.record requestId).filed) L C [requestId] db
    (markDeliveryFailed db requestId error now) := by
  have unnotifies : ∀ a : Db, Performs ((db.record requestId).filed) L C [requestId] a
      (a.setArtifact requestId (unnotified (clipped 2000 error))) :=
    fun a => setArtifact_performs (g := unnotified (clipped 2000 error)) (fun _ => rfl) a requestId
  unfold markDeliveryFailed
  simp only
  split
  · exact unnotifies _
  case h_2 request found =>
  have named : request.id = requestId := (lookup_some found).2
  subst named
  exact ((notified_performs (deliveryFailed_edge now) (.inr (.inl rfl)) (id) fun _ _ _ _ _ =>
    Timed.stops rfl (by decide : RequestStatus.failed ∈ stoppedStatuses)).queued
      (announced_queues _ _ _ _)).trans (unnotifies _)

theorem applyReport_performs {artifact : BatchArtifact} {event : ResendEvent} :
    Performs ((db.record artifact.requestId).filed) L C [artifact.requestId] db
    (applyReport db artifact event now) := by
  unfold applyReport
  split
  · exact setArtifact_performs (g := reportedDelivered) (fun _ => rfl) db artifact.requestId
  · exact .refl db
  case h_3 kind _ _ =>
  have marked := unnotified_quiet ("email." ++ kind) db artifact.requestId
  have marks : Performs ((db.record artifact.requestId).filed) L C [artifact.requestId] db
      (db.setArtifact artifact.requestId (unnotified ("email." ++ kind))) :=
    setArtifact_performs (g := unnotified ("email." ++ kind)) (fun _ => rfl) db artifact.requestId
  simp only
  split
  · exact marks
  case h_2 item found =>
  have named : item.id = artifact.requestId := (lookup_some found).2
  rw [named]
  refine (marks.trans (notified_performs (reportedFailed_edge kind now) (.inr (.inl rfl)) (fun filed => ?_)
    fun _ _ _ _ _ => Timed.stops rfl (by decide : RequestStatus.failed ∈ stoppedStatuses))).queued
      (announced_queues _ _ _ _)
  rw [marked.records]
  exact filed

theorem resendWebhook_performs (eventKey messageId : String) (event : ResendEvent) :
    ∃ ids, Performs True True True ids db (resendWebhook db eventKey event messageId now) := by
  unfold resendWebhook
  split
  · exact ⟨[], .refl db⟩
  have received : Quiet db
      { db with receipts := db.receipts ++ [{ provider := "resend", eventKey, receivedAt := now }] } :=
    .of_tables rfl rfl rfl rfl rfl rfl
  simp only
  split
  · exact ⟨[], received.performs (.tables db) rfl (.of_tables rfl rfl)⟩
  case h_2 artifact found =>
  obtain ⟨stored, _⟩ := lookup_some found
  refine ⟨[artifact.requestId], (received.performs (.tables db) rfl (.of_tables rfl rfl)).trans
    (applyReport_performs.imp (fun _ => ?_) (fun _ fits => fits) (fun _ due => due) (List.Subset.refl _))⟩
  -- the artifact that was found is on record under its own request
  cases recorded : db.artifact? artifact.requestId with
  | none => exact absurd rfl (lookup_none.mp recorded artifact stored)
  | some a =>
    rw [received.records]
    simp [Db.record, recorded]

end

end Jawnix
