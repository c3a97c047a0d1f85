import Jawnix.LifecycleRuns

/-!
# Licensed States safety over runs

Every Distribution Event is to be committed in a state that is licensed at that
moment. A submission freezes the states of a profile that was read before the
Customer row was locked, and a review passes over the failed requests that a retry
revives. `LicenceGuard` names those moments; a run that avoids them is safe.
-/
namespace Jawnix

/-- The profile's Licensed States, as they were read, are the Customer's when the submission
commits. -/
def ReadCurrent (casing : Casing) (db : Db) (profile : CustomerProfile) : Prop :=
  ∀ customer ∈ profile.customerId.bind db.customer?,
    ∀ licensed ∈ (normalizeStates casing profile.licensedStates).toOption,
    ∀ s ∈ licensed, s ∈ customer.licensedStates
  deriving Decidable

variable (db : Db)

/-- No failed request that could be retried asks for a state the review removes. -/
def FailedCovered (userId : Uuid) (proposed : List String) : Prop :=
  ∀ profile ∈ db.profile? userId, ∀ r ∈ db.requests, profile.customerId = some r.customerId →
    r.status = .failed → db.artifact? r.id = none → ∀ s ∈ r.statesSnapshot, s ∈ proposed
  deriving Decidable

/-- The failed job of a withdrawn request brings back no state that is no longer licensed. -/
def WithdrawnCovered (jobId : Nat) : Prop :=
  ∀ job ∈ db.job? jobId, job.kind = .allocateRequest → ∀ r ∈ job.requestId.bind db.request?,
    r.status = .rejected ∨ r.status = .canceled → Licensed db r

def LicenceGuard : LifecycleOp → Prop
  | .submit casing _ profile _ _ _ => ReadCurrent casing db profile
  | .create casing _ profile _ _ _ => ∀ p ∈ profile, ReadCurrent casing db p
  | .review _ _ userId claims _ => FailedCovered db userId claims.proposedStates
  | .recordFailure jobId _ _ _ => WithdrawnCovered db jobId
  -- the services around these neither change Licensed States nor break the inventory's keys
  | .elsewhere tables => InventorySchema tables ∧ ∀ c, tables.licensedStates? c = db.licensedStates? c
  | _ => True

structure LicenceSound : Prop where
  inventory : InventorySchema db
  settled : ∀ id r, db.request? id = some r → r.status ≠ .processing
  codes : ∀ id r, db.request? id = some r → ∀ s ∈ r.statesSnapshot, s ∈ usStates
  covered : ∀ id r, db.request? id = some r → Allocatable db r → Licensed db r

/-- Every event that the step commits is in a state that is licensed at the commit. -/
def CommitsLicensed (after : Db) : Prop :=
  ∃ kept new, after.events = kept ++ new ∧ kept.map DistributionEvent.id =
    db.events.map DistributionEvent.id ∧
    ∀ e ∈ new, ∃ states, e.customerId.bind after.licensedStates? = some states ∧ e.state ∈ states

theorem CommitsLicensed.of_events {db after : Db} (same : after.events = db.events) :
    CommitsLicensed db after :=
  ⟨db.events, [], by simp [same], rfl, by simp⟩

section
variable {db after : Db}

theorem LicenceFrame.sound (frame : LicenceFrame db after) (sound : LicenceSound db) :
    LicenceSound after where
  inventory := frame.inventory sound.inventory
  settled := fun id r' found => by
    obtain ⟨r, foundR, goesOn⟩ := frame.requests id r' found
    exact goesOn.settled (sound.settled id r foundR)
  codes := fun id r' found => by
    obtain ⟨r, foundR, goesOn⟩ := frame.requests id r' found
    rw [goesOn.states]
    exact sound.codes id r foundR
  covered := fun id r' found reachable => by
    obtain ⟨r, foundR, goesOn⟩ := frame.requests id r' found
    obtain ⟨states, saved, within⟩ : Licensed db r := by
      rcases goesOn.reaches reachable with before | licensed
      · exact sound.covered id r foundR before
      · exact licensed
    refine ⟨states, ?_, ?_⟩
    · rw [frame.licences, goesOn.customer]
      exact saved
    · rw [goesOn.states]
      exact within

theorem LicenceFrame.commits (frame : LicenceFrame db after) (issues : Issues db after)
    (sound : LicenceSound db) : CommitsLicensed db after := by
  obtain ⟨kept, new, grown, ids, granted⟩ := issues sound.inventory
  refine ⟨kept, new, grown, ids, fun e member => ?_⟩
  obtain ⟨r, found, fit, customer, state⟩ := granted e member
  obtain ⟨states, saved, within⟩ : Licensed db r := by
    rcases fit with reachable | licensed
    · exact sound.covered r.id r found reachable
    · exact licensed
  refine ⟨states, ?_, within _ state⟩
  rw [customer, bind_some, frame.licences]
  exact saved

theorem LicenceStep.safe (step : LicenceStep db after) (sound : LicenceSound db) :
    LicenceSound after ∧ CommitsLicensed db after :=
  ⟨step.toLicenceFrame.sound sound, step.toLicenceFrame.commits step.issues sound⟩

end

section
variable {casing : Casing} {db after : Db} {draft : LeadRequest} {expected : Option Int}
  {holdId : Uuid} {now : Instant} {profile : CustomerProfile}

theorem insertSubmission_safe (sound : LicenceSound db) (pending : draft.status = .pending)
    (codes : ∀ s ∈ draft.statesSnapshot, s ∈ usStates) (licensed : Licensed db draft)
    (done : insertSubmission db draft expected holdId now = .ok after) :
    LicenceSound after ∧ CommitsLicensed db after := by
  obtain ⟨inserted, places, last⟩ := bind_ok done
  cases last
  obtain ⟨absent, placed, hold, rfl, ⟨isBilled, _, _, _, terms⟩, _⟩ := billedSubmission_placed places
  have named : placed.id = draft.id := by rw [terms]
  have row :
    ∀ j r, (enqueueJob
    { db with requests := db.requests ++ [placed], holds := db.holds ++ hold.toList }
      .notifyRequest (some draft.id) .empty now).request? j = some r →
        r = placed ∨ db.request? j = some r := by
    intro j r found
    have requests : lookup LeadRequest.id j (db.requests ++ [placed]) = _ := lookup_append_new absent named j
    change lookup LeadRequest.id j (db.requests ++ [placed]) = some r at found
    rw [requests] at found
    split at found
    · exact .inl (some.inj found).symm
    · exact .inr found
  have schema := sound.inventory
  refine ⟨⟨{ schema with }, fun j r found => ?_, fun j r found => ?_, fun j r found reachable =>
    ?_⟩, .of_events rfl⟩
  · rcases row j r found with rfl | old
    · rw [terms]
      change draft.status ≠ .processing
      rw [pending]
      decide
    · exact sound.settled j r old
  · rcases row j r found with rfl | old
    · rw [terms]
      exact codes
    · exact sound.codes j r old
  rcases row j r found with rfl | old
  · rw [terms]
    exact licensed
  · exact sound.covered j r old ((allocatable_congr (by rfl) r).mp reachable)

theorem ReadCurrent.licensed {customer : Customer} {licensed states : List String}
    (current : ReadCurrent casing db profile) (mapped : profile.customerId.bind db.customer? = some customer)
    (normal : normalizeStates casing profile.licensedStates = .ok licensed)
    (within : ∀ s ∈ states, s ∈ licensed) :
    (∀ s ∈ states, s ∈ usStates) ∧
    ∃ saved, db.licensedStates? customer.id = some saved ∧ ∀ s ∈ states, s ∈ saved := by
  have stored : db.customer? customer.id = some customer := by
    obtain ⟨id, _, found⟩ := bind_eq_some_iff.mp mapped
    rw [(lookup_some found).2]
    exact found
  refine ⟨fun s member => normalizeStates_codes normal s (within s member), customer.licensedStates, ?_, ?_⟩
  · rw [Db.licensedStates?, stored]
    rfl
  intro s member
  have read : licensed ∈ (normalizeStates casing profile.licensedStates).toOption := by
    rw [normal]
    rfl
  exact current customer mapped licensed read s (within s member)

theorem submitRequest_safe {userId : Uuid} {payload : CustomerRequestCreate} {fresh : NewRequest}
    {result : Uuid × Bool} (sound : LicenceSound db) (current : ReadCurrent casing db profile)
    (done : submitRequest casing db userId profile payload fresh now = .ok (after, result)) :
    LicenceSound after ∧ CommitsLicensed db after := by
  rcases submitRequest_cases done with rfl | ⟨customer, licensed, states, _, _, mapped, normal,
    requested, inserts⟩
  · exact ⟨sound, .of_events rfl⟩
  have within : ∀ s ∈ states, s ∈ licensed := by
    rcases requestedStates_licensed requested with rfl | ⟨chosen, saved⟩
    · exact fun s member => member
    intro s member
    exact saved s (mem_of_normalizeStates chosen
      (fun v inStates => normalizeStates_codes normal v (saved v inStates)) member)
  obtain ⟨codes, isLicensed⟩ := current.licensed mapped normal within
  refine insertSubmission_safe sound rfl ?_ ?_ inserts
  · exact codes
  · exact isLicensed

end

section
variable {casing : Casing} {digests : ReviewDigests} {db after : Db} {now : Instant}
  {added removed : List String} {impacts : List LicensedStateImpact} {customerId : Nat}
  {proposed : List String}

theorem applyImpacts_cases (distinct : (impacts.map LicensedStateImpact.requestId).Nodup) :
    ReviewFrame db (impacts.foldl (applyRequestImpact added removed now) db) ∧
    ∀ id r', (impacts.foldl (applyRequestImpact added removed now) db).request? id = some r' →
    ∃ r, db.request? id = some r ∧ ((∀ impact ∈ impacts, impact.requestId ≠ id) ∧ r' = r ∨
    ∃ impact ∈ impacts, impact.requestId = id ∧ Reviewed impact r r') := by
  obtain ⟨frame, rows⟩ := applyImpacts_rows added removed now db distinct
  refine ⟨frame, fun id r' found => ?_⟩
  rw [Db.request?, rows, lookup_map fun _ => reviewedBy_owner.1] at found
  obtain ⟨r, stored, rfl⟩ := map_eq_some_iff.mp found
  obtain rfl := (lookup_some stored).2
  refine ⟨r, stored, ?_⟩
  rcases reviewedBy_cases removed now impacts r with untouched | ⟨impact, member, named, same⟩
  · exact .inl untouched
  · exact .inr ⟨impact, member, named, same ▸ reviewedRow_reviewed⟩

theorem setLicensedStates_licences {profile : CustomerProfile}
    (mapped : profile.customerId = some customerId) (proposed : List String) (db : Db) (c : Nat) :
    (setLicensedStates db profile proposed).licensedStates? c =
    if c = customerId then (db.licensedStates? c).map (fun _ => proposed) else db.licensedStates? c := by
  have looked : lookup Customer.id c (adjust Customer.id customerId
      (fun c => { c with licensedStates := proposed }) db.customers) = _ := lookup_adjust fun _ _ => rfl
  simp only [setLicensedStates, mapped, Db.licensedStates?, Db.customer?, Db.setCustomer,
    Db.setProfile, looked]
  split
  · simp only [Option.map_map]
    rfl
  · rfl

theorem resulting_within {impact : LicensedStateImpact}
    (affects : affectedRequests casing db customerId proposed = .ok impacts)
    (member : impact ∈ impacts) :
    (∀ s ∈ impact.resultingStates, s ∈ usStates) ∧ ∀ s ∈ impact.resultingStates, s ∈ proposed := by
  obtain ⟨item, _, here⟩ := mem_affectedRequests affects member
  obtain ⟨_, normal, resulting, _⟩ := impactOf_some here
  rw [resulting]
  constructor
  · intro s kept
    exact normalizeStates_codes normal s (mem_filter.mp kept).1
  · intro s kept
    simpa using (mem_filter.mp kept).2

/-- A request that can be allocated after the review could be before it. It is another Customer's
and as it was, or was left nothing but proposed states. -/
theorem reviewed_within {id : Uuid} {r r' : LeadRequest} (keyed : Keyed LeadRequest.id db.requests)
    (sound : LicenceSound db)
    (affects : affectedRequests casing db customerId proposed = .ok impacts)
    (found : db.request? id = some r)
    (fate : (∀ impact ∈ impacts, impact.requestId ≠ id) ∧ r' = r ∨
      ∃ impact ∈ impacts, impact.requestId = id ∧ Reviewed impact r r')
    (passed : r.customerId = customerId → r.status = .failed → db.artifact? r.id = none →
      ∀ s ∈ r.statesSnapshot, s ∈ proposed)
    (reachable : Allocatable db r') :
    Allocatable db r ∧ (r.customerId ≠ customerId ∧ r' = r ∨
    r.customerId = customerId ∧ r'.customerId = r.customerId ∧ ∀ s ∈ r'.statesSnapshot, s ∈ proposed) := by
  obtain ⟨stored, named⟩ := lookup_some found
  rcases fate with ⟨untouched, rfl⟩ | ⟨impact, member, own, reviewed⟩
  · refine ⟨reachable, ?_⟩
    by_cases owned : r'.customerId = customerId
    case neg => exact .inl ⟨owned, rfl⟩
    case pos =>
    refine .inr ⟨owned, rfl, ?_⟩
    rcases allocatable_iff.mp reachable with waits | ⟨failed, unfiled⟩
    · have cancelable : r'.status ∈ cancelableStatuses := by
        have settled := sound.settled id r' found
        revert waits settled
        cases r'.status <;> decide
      rcases affectedRequests_covers affects (mem_reviewedRequests.mpr ⟨stored, owned, cancelable⟩) with
        ⟨impact, member, own⟩ | ⟨current, normal, within⟩
      · exact absurd (own.trans named) (untouched impact member)
      · intro s asked
        exact within s (normalizeStates_keeps normal asked (sound.codes id r' found s asked))
    · exact passed owned failed unfiled
  obtain ⟨item, inReview, here⟩ := mem_affectedRequests affects member
  obtain ⟨inTable, owned, cancelable⟩ := mem_reviewedRequests.mp inReview
  have same : item = r :=
    eq_of_mem_of_key keyed inTable stored (((impactOf_some here).1.symm.trans own).trans named.symm)
  subst same
  refine ⟨.inl (open_of_cancelable cancelable), .inr ⟨owned, reviewed.customer, ?_⟩⟩
  rw [reviewed.states]
  exact (resulting_within affects member).2

/-- A review keeps every request that can be allocated within the new Licensed States, provided
the failed ones that it passes over already are. -/
theorem applyReview_safe {userId : Uuid} {claims : ReviewClaims}
    (keyed : Keyed LeadRequest.id db.requests) (sound : LicenceSound db)
    (passed : FailedCovered db userId claims.proposedStates)
    (done : applyReview casing digests db userId claims now = .ok after) :
    LicenceSound after ∧ CommitsLicensed db after := by
  obtain ⟨profile, customerId, impacts, added, removed, reads, mapped, affects, _, rfl⟩ :=
    applyReview_cases done
  have distinct := (affectedRequests_ids affects).nodup (reviewedRequests_nodup keyed customerId)
  obtain ⟨⟨requests, holds, jobs, jobSeq, framed⟩, fates⟩ :=
    @applyImpacts_cases db now added removed impacts distinct
  generalize impacts.foldl (applyRequestImpact added removed now) db = applied at framed fates ⊢
  have licences := setLicensedStates_licences mapped claims.proposedStates applied
  obtain ⟨profiles, customers, saved⟩ : ∃ profiles customers,
      setLicensedStates applied profile claims.proposedStates = { applied with profiles, customers } := by
    simp only [setLicensedStates, mapped]
    exact ⟨_, _, rfl⟩
  have others : ∀ c, applied.licensedStates? c = db.licensedStates? c := by
    intro c
    rw [framed]
    rfl
  have sameArtifacts : (setLicensedStates applied profile claims.proposedStates).artifacts =
    db.artifacts := by
    rw [saved, framed]
  have sameEvents : (setLicensedStates applied profile claims.proposedStates).events = db.events := by
    rw [saved, framed]
  have schema := sound.inventory
  refine ⟨⟨?_, fun id r' found => ?_, fun id r' found => ?_, fun id r' found reachable => ?_⟩,
    .of_events sameEvents⟩
  · rw [saved, framed]
    exact { schema with }
  · rw [saved] at found
    obtain ⟨r, foundR, fate⟩ := fates id r' found
    rcases fate with ⟨_, rfl⟩ | ⟨impact, _, _, reviewed⟩
    · exact sound.settled id r' foundR
    rcases reviewed.status with same | canceled
    · rw [same]
      exact sound.settled id r foundR
    · rw [canceled]
      decide
  · rw [saved] at found
    obtain ⟨r, foundR, fate⟩ := fates id r' found
    rcases fate with ⟨_, rfl⟩ | ⟨impact, member, _, reviewed⟩
    · exact sound.codes id r' foundR
    rw [reviewed.states]
    exact (resulting_within affects member).1
  rw [allocatable_congr sameArtifacts] at reachable
  rw [saved] at found
  obtain ⟨r, foundR, fate⟩ := fates id r' found
  obtain ⟨before, kept⟩ := reviewed_within keyed sound affects foundR fate
    (fun owned => passed profile reads r (lookup_some foundR).1
      (mapped.trans (congrArg some owned.symm))) reachable
  obtain ⟨states, has, within⟩ := sound.covered id r foundR before
  rcases kept with ⟨foreign, rfl⟩ | ⟨owned, same, narrow⟩
  · refine ⟨states, ?_, within⟩
    rw [licences, if_neg foreign, others]
    exact has
  refine ⟨claims.proposedStates, ?_, narrow⟩
  rw [licences, same, if_pos owned, others, has]
  rfl

end

section
variable {db after : Db} {op : LifecycleOp}

theorem failure_fit {id : Uuid} {r : LeadRequest} (lifecycle : LifecycleSound db)
    (found : db.request? id = some r)
    (withdrawn : r.status = .rejected ∨ r.status = .canceled → Licensed db r) :
    (db.artifact? r.id).isSome ∨ Allocatable db r ∨ Licensed db r := by
  cases filed : db.artifact? r.id with
  | some artifact => exact .inl rfl
  | none =>
  have stored := request_stored found
  obtain ⟨_, p, inPhase⟩ := (sound_of_order (record_order stored)).mp (lifecycle.records r.id)
  have status : r.status ∈ p.statuses := inPhase.status
  cases p with
  | reserved => exact .inr (.inl (.inl status))
  | withdrawn =>
    simp only [Phase.statuses, mem_cons, not_mem_nil, or_false] at status
    rcases status with rejected | canceled | failed
    · exact .inr (.inr (withdrawn (.inl rejected)))
    · exact .inr (.inr (withdrawn (.inr canceled)))
    · exact .inr (.inl (allocatable_iff.mpr (.inr ⟨failed, filed⟩)))
  | distributed =>
    have onFile : (db.artifact? r.id).isSome := inPhase.filed
    rw [filed] at onFile
    cases onFile

theorem lifecycleExec_safe (lifecycle : LifecycleSound db) (sound : LicenceSound db)
    (guard : LicenceGuard db op) (done : lifecycleExec db op = .ok after) :
    LicenceSound after ∧ CommitsLicensed db after := by
  cases op with
  | submit casing userId profile payload fresh now =>
    obtain ⟨result, submits⟩ := map_fst_ok done
    exact submitRequest_safe sound guard submits
  | create casing userId profile payload fresh now =>
    obtain ⟨result, creates⟩ := map_fst_ok done
    obtain ⟨p, customer, saved, states, rfl, _, mapped, normal, within, inserts⟩ :=
      createRequest_cases creates
    obtain ⟨codes, isLicensed⟩ := (guard p rfl).licensed mapped normal within
    refine insertSubmission_safe sound rfl ?_ ?_ inserts
    · exact codes
    · exact isLicensed
  | transition requestId action now =>
      exact ((transitionRequest_performs done).licence trivial trivial).safe sound
  | withdraw userId requestId message now =>
      exact ((cancelRequest_performs done).licence trivial trivial).safe sound
  | review casing digests userId claims now => exact applyReview_safe lifecycle.keyed sound guard done
  | process env jobId =>
    rcases processJob_cases done with rfl | ⟨job, worked, _, runs, rfl⟩
    · exact (LicenceStep.refl _).safe sound
    obtain ⟨frame, issues⟩ := runJob_issues lifecycle runs
    have framed : LicenceFrame db (worked.setJob jobId completed) :=
      frame.trans (LicenceStep.tables worked).toLicenceFrame
    exact ⟨framed.sound sound, framed.commits issues sound⟩
  | recordFailure jobId error retryAt now =>
    cases done
    refine ((handleFailure_performs lifecycle).2.1 fun job r queued allocates asked => ?_).safe sound
    obtain ⟨requestId, _, found⟩ := bind_eq_some_iff.mp asked
    exact failure_fit lifecycle found (guard job queued allocates r asked)
  | report eventKey event messageId now =>
    cases done
    obtain ⟨_, reports⟩ := resendWebhook_performs eventKey messageId event
    exact (reports.licence trivial trivial).safe sound
  | enqueue kind requestId payload now =>
    cases done
    split
    · exact (LicenceStep.refl _).safe sound
    · exact (enqueueJob_onlyJobs _ _ _ _ _).licenceStep.safe sound
  | elsewhere tables =>
    cases done
    obtain ⟨schema, licences⟩ := guard
    refine ⟨⟨{ schema with }, sound.settled, sound.codes, fun id r found reachable => ?_⟩, .of_events rfl⟩
    obtain ⟨states, saved, within⟩ := sound.covered id r found ((allocatable_congr (by rfl) r).mp reachable)
    exact ⟨states, (licences r.customerId).trans saved, within⟩

theorem lifecycleStep_safe (lifecycle : LifecycleSound db) (sound : LicenceSound db)
    (guard : LicenceGuard db op) :
    LicenceSound (lifecycleStep db op) ∧ CommitsLicensed db (lifecycleStep db op) :=
  commit_cases (P := fun after => LicenceSound after ∧ CommitsLicensed db after) ⟨sound, .of_events rfl⟩
    fun _ done => lifecycleExec_safe lifecycle sound guard done

theorem NoRequests.licenceSound (start : NoRequests db) (schema : InventorySchema db) : LicenceSound db := by
  have none : ∀ id, db.request? id = none := fun id => by
    simp [Db.request?, start.requests, lookup]
  refine ⟨schema, fun id r found => ?_, fun id r found => ?_, fun id r found => ?_⟩ <;>
    · rw [none id] at found
      cases found

end

/-- In a run that meets the guard, every Distribution Event is committed in a state that is
licensed at the commit, and every request that can still be allocated, by way of a retry if it
failed, asks only for states that are licensed now. -/
theorem licensed_run_safe {db : Db} (start : NoRequests db) (schema : InventorySchema db)
    (ops : List LifecycleOp) (guarded : Meets lifecycleStep LicenceGuard db ops) :
    Meets lifecycleStep (fun s op => CommitsLicensed s (lifecycleStep s op)) db ops ∧
      ∀ id r, (run lifecycleStep db ops).request? id = some r →
      Allocatable (run lifecycleStep db ops) r →
        Licensed (run lifecycleStep db ops) r := by
  have kept : ∀ s op, LicenceGuard s op → LifecycleSound s ∧ LicenceSound s →
      LifecycleSound (lifecycleStep s op) ∧ LicenceSound (lifecycleStep s op) := fun s op guard both =>
    ⟨lifecycleStep_sound s op both.1, (lifecycleStep_safe both.1 both.2 guard).1⟩
  have initially : LifecycleSound db ∧ LicenceSound db := ⟨start.sound, start.licenceSound schema⟩
  refine ⟨meets_of_invariant kept (fun s op guard both =>
    (lifecycleStep_safe both.1 both.2 guard).2) initially guarded, ?_⟩
  exact (run_invariant_of_meets kept initially guarded).2.covered

def pairShop : Db :=
  { customers := [{ id := 1, slug := "acme", licensedStates := ["CA", "TX"] }]
    profiles := [pairProfile]
    leads :=
      [{ id := 1, phone := "2025550101", state := "CA" },
      { id := 2, phone := "2025550102", state := "TX" }] }

def textDigests : ReviewDigests :=
  ⟨fun states => String.intercalate "," states,
    fun impacts => String.intercalate "," (impacts.map fun i => uuidText i.requestId)⟩

def leaveCalifornia (impacts : String) : LifecycleOp :=
  .review plainCasing textDigests 70
    { userId := 70, version := "CA,TX", proposedStates := ["TX"], impactChecksum := impacts } 15

def placePair : LifecycleOp :=
  .submit plainCasing 70 pairProfile
    { leadCount := 1, leadCountRange := by decide, idempotencyKey := "first" } ⟨7, 8⟩ 10

def work (jobId : Nat) : LifecycleOp := .process (quietWorker (days 30)) jobId

theorem pairShop_noRequests : NoRequests pairShop where
  requests := rfl
  holds := rfl
  ledger := by decide
  events := by decide
  artifacts := rfl
  deliveries := rfl

theorem pairShop_inventory : InventorySchema pairShop where
  leads := by decide
  observations := by decide
  mappings := by decide
  assignments := by decide
  memberships := by decide
  published := by decide

def narrowedRun : List LifecycleOp :=
  [placePair, leaveCalifornia "00000000-0000-0000-0000-000000000007", .transition 7 .approve 20, work 5]

theorem licensed_run_safe_narrowed :
    (run lifecycleStep pairShop narrowedRun).events.map DistributionEvent.state = ["TX"] ∧
      Meets lifecycleStep (fun s op => CommitsLicensed s (lifecycleStep s op)) pairShop narrowedRun := by
  have current : ReadCurrent plainCasing pairShop pairProfile := by decide +kernel
  have covered : FailedCovered (lifecycleStep pairShop placePair) 70 ["TX"] := by decide +kernel
  have guarded : Meets lifecycleStep LicenceGuard pairShop narrowedRun :=
    ⟨current, covered, trivial, trivial, trivial⟩
  exact ⟨by decide +kernel, (licensed_run_safe pairShop_noRequests pairShop_inventory narrowedRun guarded).1⟩

theorem not_commitsLicensed {db after : Db} (e : DistributionEvent) (states : List String)
    (empty : db.events = []) (member : e ∈ after.events)
    (saved : e.customerId.bind after.licensedStates? = some states) (outside : e.state ∉ states) :
    ¬CommitsLicensed db after := by
  rintro ⟨kept, new, grown, ids, licensed⟩
  rw [empty, List.map_nil, List.map_eq_nil_iff] at ids
  rw [grown, ids, List.nil_append] at member
  obtain ⟨current, same, inside⟩ := licensed e member
  rw [saved] at same
  cases same
  exact outside inside

/-- The submission read the profile before the review and commits after it. -/
def staleRun : List LifecycleOp := [leaveCalifornia "", placePair, .transition 7 .approve 20]

/-- The profile that is submitted with is the one that was stored, the review is applied, and
the Lead goes out in the state it removed. -/
theorem licensed_run_staleRead :
    let before := run lifecycleStep pairShop staleRun
    let after := lifecycleStep before (work 4)
    pairShop.profile? 70 = some pairProfile ∧ before.licensedStates? 1 = some ["TX"] ∧
      after.events.map DistributionEvent.state = ["CA"] ∧ ¬CommitsLicensed before after := by
  intro before after
  refine ⟨by decide +kernel, by decide +kernel, by decide +kernel, ?_⟩
  refine not_commitsLicensed (after.events.head (by decide +kernel)) ["TX"] (by decide +kernel)
    (List.head_mem _) ?_ ?_ <;> decide +kernel

end Jawnix
