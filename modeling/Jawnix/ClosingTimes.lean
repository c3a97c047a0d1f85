import Jawnix.LicenceRuns

/-!
# The closing time of a Batch Request

`closed_at` timestamps the rejected, canceled or failed node of the Customer
milestone graph. Six modules write it. Two of them miss an edge: an administrator's
cancellation records no time, and a request that failed keeps its time when its
delivery, or the replay of its allocation, succeeds later.
-/
namespace Jawnix

section
variable {db after : Db} {draft : LeadRequest} {expected : Option Int} {holdId : Uuid} {now : Instant}

theorem insertSubmission_closing (closing : Closing db) (pending : draft.status = .pending)
    (unclosed : draft.closedAt = none)
    (done : insertSubmission db draft expected holdId now = .ok after) : Closing after := by
  obtain ⟨inserted, places, last⟩ := bind_ok done
  cases last
  refine (enqueueJob_onlyJobs _ _ _ _ _).closing fun id r found => ?_
  obtain ⟨absent, placed, hold, rfl, ⟨_, _, _, _, terms⟩, _⟩ := billedSubmission_placed places
  have named : placed.id = draft.id := by rw [terms]
  have looked : lookup LeadRequest.id id (db.requests ++ [placed]) = _ := lookup_append_new absent named id
  rw [Db.request?, looked] at found
  split at found
  · cases found
    refine Timed.clears ?_ ?_
    · rw [terms]
      exact unclosed
    rw [terms]
    change draft.status ∉ stoppedStatuses
    rw [pending]
    decide
  · exact closing id r found

end

instance (db : Db) (job : Job) : Decidable (TimedJob db job) :=
  decidable_of_iff' _ (timedJob_iff ..)

def ClosingGuard (db : Db) : LifecycleOp → Prop
  | .transition requestId action _ => ¬CancelsByAdmin db requestId action
  | .process _ jobId => ∀ job ∈ db.job? jobId, TimedJob db job
  | _ => True

instance (db : Db) (op : LifecycleOp) : Decidable (ClosingGuard db op) := by
  unfold ClosingGuard
  split <;> infer_instance

theorem lifecycleExec_closing {db after : Db} {op : LifecycleOp} (closing : Closing db)
    (sound : LifecycleSound db) (guard : ClosingGuard db op)
    (done : lifecycleExec db op = .ok after) : Closing after := by
  cases op with
  | submit casing userId profile payload fresh now =>
    obtain ⟨result, submits⟩ := map_fst_ok done
    rcases submitRequest_cases submits with rfl | ⟨customer, licensed, states, _, _, _, _, _, inserts⟩
    · exact closing
    · exact insertSubmission_closing closing rfl rfl inserts
  | create casing userId profile payload fresh now =>
    obtain ⟨result, creates⟩ := map_fst_ok done
    obtain ⟨p, customer, saved, states, _, _, _, _, _, inserts⟩ := createRequest_cases creates
    exact insertSubmission_closing closing rfl rfl inserts
  | transition requestId action now => exact (transitionRequest_performs done).closing trivial guard closing
  | withdraw userId requestId message now =>
      exact (cancelRequest_performs done).closing trivial trivial closing
  | review casing digests userId claims now => exact (applyReview_step sound done).2 closing
  | process env jobId =>
    rcases processJob_cases done with rfl | ⟨job, worked, found, runs, rfl⟩
    · exact closing
    obtain ⟨_, works⟩ := runJob_performs runs
    exact (works.closing sound (guard job found) closing).of_requests rfl
  | recordFailure jobId error retryAt now =>
    cases done
    exact (handleFailure_performs sound).2.2 closing
  | report eventKey event messageId now =>
    cases done
    obtain ⟨_, reports⟩ := resendWebhook_performs eventKey messageId event
    exact reports.closing trivial trivial closing
  | enqueue kind requestId payload now =>
    cases done
    split
    · exact closing
    · exact (enqueueJob_onlyJobs _ _ _ _ _).closing closing
  | elsewhere tables =>
    cases done
    exact closing.of_requests rfl

/-- In every run from submission on whose steps avoid those edges, a request has a closing time
exactly while it is rejected, canceled or failed. -/
theorem closing_run_timed {db : Db} {ops : List LifecycleOp} (start : NoRequests db)
    (meets : Meets lifecycleStep ClosingGuard db ops) : Closing (run lifecycleStep db ops) := by
  have empty : Closing db := by
    intro id r found
    rw [Db.request?, start.requests] at found
    cases found
  have kept : ∀ db op, ClosingGuard db op → LifecycleSound db ∧ Closing db →
      LifecycleSound (lifecycleStep db op) ∧ Closing (lifecycleStep db op) := fun db op guard both =>
    ⟨lifecycleStep_sound db op both.1, commit_cases both.2 fun _ done =>
      lifecycleExec_closing both.2 both.1 guard done⟩
  exact (run_invariant_of_meets kept ⟨start.sound, empty⟩ meets).2

def placedOrder : List LifecycleOp :=
  [.submit plainCasing 70 texasProfile texasOrder ⟨7, 8⟩ 10, .transition 7 .approve 20]

def redeliveredOrder : List LifecycleOp :=
  placedOrder ++ [.process (quietWorker (days 30)) 4,
    .recordFailure 5 "Resend failed with HTTP 500" none (days 31),
    .transition 7 .retryDelivery (days 32), .process (quietWorker (days 33)) 11]

theorem closing_run_timed_redelivered : Closing (run lifecycleStep openShop redeliveredOrder) ∧
      ((run lifecycleStep openShop redeliveredOrder).request? 7).map LeadRequest.status = some .delivered :=
  ⟨closing_run_timed openShop_noRequests (by decide +kernel), by decide +kernel⟩

/-- An administrator's cancellation leaves the request without its closing time. -/
theorem closing_run_untimed :
    let after := run lifecycleStep openShop (placedOrder ++ [.transition 7 .cancel 30])
    ¬Closing after := by
  intro after closing
  have canceled : ∃ r, after.request? 7 = some r ∧ r.status = .canceled ∧ r.closedAt = none := by
    refine ⟨_, rfl, ?_, ?_⟩ <;> decide +kernel
  obtain ⟨r, found, status, unclosed⟩ := canceled
  have set := (closing 7 r found).mpr (by rw [status]; decide)
  rw [unclosed] at set
  cases set

end Jawnix
