import Jawnix.CustomerRequests

/-!
# The Licensed States review

`licensed_states.py`: a change of Licensed States is previewed, and applied only
while the previewed consequence still holds. Applying it narrows or cancels each
Batch Request that is still unallocated. The signed token is the claims it carries.
-/
namespace Jawnix

inductive ImpactAction where
  | narrowed | canceled
  deriving DecidableEq

def ImpactAction.value : ImpactAction → String
  | .narrowed => "narrowed"
  | .canceled => "canceled"

structure LicensedStateImpact where
  requestId : Uuid
  leadCount : Nat
  status : String
  currentStates : List String
  resultingStates : List String
  action : ImpactAction
  deriving DecidableEq

/-- SHA-256 of the canonical JSON of the states, and of the impacts. -/
structure ReviewDigests where
  version : List String → String
  impacts : List LicensedStateImpact → String

structure ReviewClaims where
  userId : Uuid
  version : String
  proposedStates : List String
  impactChecksum : String
  deriving DecidableEq

def customerRequestLabel : RequestStatus → String
  | .pending => "Submitted"
  | .approved => "Approved"
  | .processing => "Preparing Batch"
  | .waitingInventory => "Preparing Batch"
  | .generated => "Preparing Batch"
  | .delivered => "Delivered"
  | .rejected => "Not Approved"
  | .canceled => "Canceled"
  | .failed => "Needs Attention"

variable (casing : Casing) (digests : ReviewDigests) (removed resulting added : List String)

def profileVersion (profile : CustomerProfile) :
    Except Fault String := do
  let states ← normalizeStates casing profile.licensedStates
  .ok (digests.version states)

def impactOf (proposed : List String) (item : LeadRequest) :
    Except Fault (Option LicensedStateImpact) := do
  let currentStates ← normalizeStates casing item.statesSnapshot
  let resultingStates := currentStates.filter (fun s => s ∈ proposed)
  if resultingStates = currentStates then .ok none
  else
    .ok (some
      { requestId := item.id
        leadCount := item.leadCount
        status := customerRequestLabel item.status
        currentStates
        resultingStates
        action := if resultingStates ≠ [] then .narrowed else .canceled })

def reviewedRequests (db : Db) (customerId : Nat) : List LeadRequest :=
  (db.requests.filter fun r => r.customerId = customerId && r.status ∈ cancelableStatuses).insertionSort
    (fun a b => createdBefore a b)

def affectedRequests (db : Db) (customerId : Nat) (proposed : List String) :
    Except Fault (List LicensedStateImpact) := do
  let impacts ← (reviewedRequests db customerId).mapM (impactOf casing proposed)
  .ok (impacts.filterMap id)

def preview (db : Db) (userId : Uuid) (profile : CustomerProfile)
    (states : List String) (expectedVersion : String) : Except Fault ReviewClaims := do
  let current ← normalizeStates casing profile.licensedStates
  let version ← profileVersion casing digests profile
  if expectedVersion ≠ version then
    .error (.stale "Licensed States changed in another session. Review the latest impact before saving.")
  else if states = current then
    .error (.review "Choose a different set of Licensed States before reviewing.")
  else
    match profile.customerId with
    | none => .error (.review
        "Licensed States cannot change until this User Account is mapped to a Customer.")
    | some customerId => do
      let impacts ← affectedRequests casing db customerId states
      .ok { userId, version, proposedStates := states, impactChecksum := digests.impacts impacts }

def narrowedMessage : String :=
  "Licensed States changed. Removed " ++ String.intercalate ", " removed ++ "; request now covers " ++
    String.intercalate ", " resulting ++ ". Existing approval remains valid."

def narrowed (r : LeadRequest) : LeadRequest :=
  { r with statesSnapshot := resulting, statusMessage := narrowedMessage removed resulting }

def canceledByReview (now : Instant) (r : LeadRequest) : LeadRequest :=
  { r with
    statesSnapshot := resulting
    status := .canceled
    statusMessage := "Canceled because no requested states remain in the Customer's Licensed States."
    closedAt := some now }

def applyRequestImpact (removed : List String) (now : Instant) (db : Db)
    (impact : LicensedStateImpact) : Db :=
  match db.request? impact.requestId with
  | none => db
  | some item =>
    let payload := JobPayload.statesChanged added removed impact.action.value impact.resultingStates
    let applied :=
      match impact.action with
      | .narrowed => db.setRequest item.id (narrowed removed impact.resultingStates)
      | .canceled =>
        let close := canceledByReview impact.resultingStates now
        enqueueMilestoneEmail (releaseBatchHold (db.setRequest item.id close) item now) (close item) now
    enqueueJob applied .licensedStatesChanged (some item.id) payload now

def setLicensedStates (db : Db) (profile : CustomerProfile) (states : List String) : Db :=
  let saved := db.setProfile profile.userId (fun p => { p with licensedStates := states })
  match profile.customerId with
  | none => saved
  | some customerId => saved.setCustomer customerId fun c => { c with licensedStates := states }

def applyReview (db : Db) (userId : Uuid) (claims : ReviewClaims)
    (now : Instant) : Except Fault Db :=
  if claims.userId ≠ userId then .error (.review "This impact review belongs to another account.")
  else
    match db.profile? userId with
    | none => .error (.lookup "Profile was not found.")
    | some profile =>
      match profile.customerId with
      | none => .error (.review
          "Licensed States cannot change until this User Account is mapped to a Customer.")
      | some customerId => do
        let version ← profileVersion casing digests profile
        if version ≠ claims.version then
          .error (.stale
            "Licensed States changed in another session. Review the latest impact before saving.")
        else do
          let impacts ← affectedRequests casing db customerId claims.proposedStates
          if digests.impacts impacts ≠ claims.impactChecksum then
            .error (.stale
              "A Batch Request changed after this review. Review the latest impact before saving.")
          else do
            let current ← normalizeStates casing profile.licensedStates
            let added := sortedSet (claims.proposedStates.filter fun s => s ∉ current)
            let removed := sortedSet (current.filter fun s => s ∉ claims.proposedStates)
            let applied := impacts.foldl (applyRequestImpact added removed now) db
            .ok (setLicensedStates applied profile claims.proposedStates)

section
variable {casing : Casing} {digests : ReviewDigests} {db after : Db} {userId : Uuid}
  {claims : ReviewClaims} {now : Instant} {proposed : List String} {item : LeadRequest}
  {impacts : List LicensedStateImpact} {customerId : Nat}

theorem impactOf_some {impact : LicensedStateImpact}
    (done : impactOf casing proposed item = .ok (some impact)) :
    impact.requestId = item.id ∧ normalizeStates casing item.statesSnapshot = .ok impact.currentStates ∧
    impact.resultingStates = impact.currentStates.filter (fun s => s ∈ proposed) ∧
    (impact.action = .canceled ↔ impact.resultingStates = []) := by
  obtain ⟨current, normal, rest⟩ := bind_ok done
  simp only at rest
  split at rest
  · cases rest
  cases rest
  refine ⟨rfl, normal, rfl, ?_⟩
  by_cases empty : current.filter (fun s => s ∈ proposed) = [] <;> simp [empty]

section
variable (done : affectedRequests casing db customerId proposed = .ok impacts)
include done

theorem affectedRequests_forall₂ :
    ∃ found, List.Forall₂ (fun item impact => impactOf casing proposed item = .ok impact)
    (reviewedRequests db customerId) found ∧ impacts = found.filterMap id := by
  obtain ⟨found, maps, last⟩ := bind_ok done
  cases last
  exact ⟨found, Runs.mapM_ok maps, rfl⟩

theorem mem_affectedRequests {impact : LicensedStateImpact} (member : impact ∈ impacts) :
    ∃ item ∈ reviewedRequests db customerId, impactOf casing proposed item = .ok (some impact) := by
  obtain ⟨found, related, rfl⟩ := affectedRequests_forall₂ done
  obtain ⟨x, inFound, same⟩ := mem_filterMap.mp member
  obtain ⟨item, reviewed, here⟩ := Runs.forall₂_mem_right related inFound
  exact ⟨item, reviewed, here.trans (congrArg Except.ok same)⟩

theorem affectedRequests_covers (reviewed : item ∈ reviewedRequests db customerId) :
    (∃ impact ∈ impacts, impact.requestId = item.id) ∨
    ∃ current, normalizeStates casing item.statesSnapshot = .ok current ∧ ∀ s ∈ current, s ∈ proposed := by
  obtain ⟨found, related, rfl⟩ := affectedRequests_forall₂ done
  obtain ⟨impact, inFound, here⟩ := Runs.forall₂_mem_right related.flip reviewed
  cases impact with
  | none =>
    obtain ⟨current, normal, rest⟩ := bind_ok here
    simp only at rest
    split at rest
    case isTrue unchanged =>
      refine .inr ⟨current, normal, fun s member => ?_⟩
      rw [← unchanged] at member
      simpa using (mem_filter.mp member).2
    · cases rest
  | some impact =>
    exact .inl ⟨impact, mem_filterMap.mpr ⟨some impact, inFound, rfl⟩, (impactOf_some here).1⟩

theorem affectedRequests_ids :
    (impacts.map LicensedStateImpact.requestId).Sublist
    ((reviewedRequests db customerId).map LeadRequest.id) := by
  obtain ⟨found, related, rfl⟩ := affectedRequests_forall₂ done
  clear done
  generalize reviewedRequests db customerId = items at related ⊢
  induction related with
  | nil => exact .slnil
  | @cons item impact items rest here _ ih =>
  cases impact with
  | none => exact ih.cons _
  | some impact =>
    have named := (impactOf_some here).1
    simp only [List.filterMap_cons, id, map_cons, named]
    exact ih.cons_cons _

end

theorem mem_reviewedRequests : item ∈ reviewedRequests db customerId ↔
    item ∈ db.requests ∧ item.customerId = customerId ∧ item.status ∈ cancelableStatuses := by
  simp [reviewedRequests]

theorem reviewedRequests_nodup (keyed : Keyed LeadRequest.id db.requests) (customerId : Nat) :
    ((reviewedRequests db customerId).map LeadRequest.id).Nodup := by
  have kept : ((db.requests.filter (fun r => r.customerId = customerId &&
      r.status ∈ cancelableStatuses)).map LeadRequest.id).Nodup := (filter_sublist.map _).nodup keyed
  exact ((List.perm_insertionSort _ _).map _).nodup_iff.mpr kept

theorem applyReview_cases (done : applyReview casing digests db userId claims now = .ok after) :
    ∃ profile customerId impacts added removed, db.profile? userId = some profile ∧
    profile.customerId = some customerId ∧
    affectedRequests casing db customerId claims.proposedStates = .ok impacts ∧
    digests.impacts impacts = claims.impactChecksum ∧
    after = setLicensedStates (impacts.foldl (applyRequestImpact added removed now) db) profile
    claims.proposedStates := by
  unfold applyReview at done
  split at done
  · cases done
  split at done
  · cases done
  case h_2 profile found =>
  split at done
  · cases done
  case h_2 customerId mapped =>
  obtain ⟨version, _, rest⟩ := bind_ok done
  split at rest
  · cases rest
  obtain ⟨impacts, affects, rest⟩ := bind_ok rest
  obtain ⟨checked, rest⟩ := guard_ok rest
  obtain ⟨current, _, last⟩ := bind_ok rest
  cases last
  exact ⟨profile, customerId, impacts, _, _, found, mapped, affects, not_not.mp checked, rfl⟩

structure Reviewed (impact : LicensedStateImpact) (r r' : LeadRequest) : Prop where
  customer : r'.customerId = r.customerId
  states : r'.statesSnapshot = impact.resultingStates
  status : r'.status = r.status ∨ r'.status = .canceled

structure ReviewFrame (db after : Db) : Prop where
  tables : ∃ requests holds jobs jobSeq, after = { db with requests, holds, jobs, jobSeq }

theorem ReviewFrame.trans {a b c : Db} (first : ReviewFrame a b) (second : ReviewFrame b c) :
    ReviewFrame a c := by
  obtain ⟨_, _, _, _, rfl⟩ := first.tables
  obtain ⟨_, _, _, _, rfl⟩ := second.tables
  exact ⟨_, _, _, _, rfl⟩

def reviewedRow (now : Instant) (impact : LicensedStateImpact) : LeadRequest → LeadRequest :=
  match impact.action with
  | .narrowed => narrowed removed impact.resultingStates
  | .canceled => canceledByReview impact.resultingStates now

def reviewedBy (now : Instant) (impacts : List LicensedStateImpact) (r : LeadRequest) :
    LeadRequest :=
  ((lookup LicensedStateImpact.requestId r.id impacts).map (reviewedRow removed now · r)).getD r

section
variable {removed : List String} {impact : LicensedStateImpact} {r : LeadRequest}

theorem reviewedRow_owner : (reviewedRow removed now impact r).id = r.id ∧
    (reviewedRow removed now impact r).userId = r.userId := by
  unfold reviewedRow
  cases impact.action <;> exact ⟨rfl, rfl⟩

theorem reviewedRow_reviewed : Reviewed impact r (reviewedRow removed now impact r) := by
  unfold reviewedRow
  cases impact.action with
  | narrowed => exact ⟨rfl, rfl, .inl rfl⟩
  | canceled => exact ⟨rfl, rfl, .inr rfl⟩

theorem reviewedBy_cases (removed : List String) (now : Instant)
    (impacts : List LicensedStateImpact) (r : LeadRequest) :
    (∀ impact ∈ impacts, impact.requestId ≠ r.id) ∧ reviewedBy removed now impacts r = r ∨
    ∃ impact ∈ impacts, impact.requestId = r.id ∧
    reviewedBy removed now impacts r = reviewedRow removed now impact r := by
  unfold reviewedBy
  cases found : lookup LicensedStateImpact.requestId r.id impacts with
  | none => exact .inl ⟨lookup_none.mp found, rfl⟩
  | some impact => exact .inr ⟨impact, (lookup_some found).1, (lookup_some found).2, rfl⟩

theorem reviewedBy_owner : (reviewedBy removed now impacts r).id = r.id ∧
    (reviewedBy removed now impacts r).userId = r.userId ∧
    (reviewedBy removed now impacts r).customerId = r.customerId := by
  rcases reviewedBy_cases removed now impacts r with ⟨_, same⟩ | ⟨impact, _, _, same⟩
  · rw [same]
    exact ⟨rfl, rfl, rfl⟩
  · rw [same]
    exact ⟨reviewedRow_owner.1, reviewedRow_owner.2, reviewedRow_reviewed.customer⟩

end

theorem applyRequestImpact_rows (removed : List String) (now : Instant) (db : Db)
    (impact : LicensedStateImpact) :
    ReviewFrame db (applyRequestImpact added removed now db impact) ∧
    (applyRequestImpact added removed now db impact).requests =
    adjust LeadRequest.id impact.requestId (reviewedRow removed now impact) db.requests := by
  unfold applyRequestImpact reviewedRow
  split
  case h_1 absent => exact ⟨⟨_, _, _, _, rfl⟩, (Rows.adjust_of_lookup_none absent).symm⟩
  case h_2 item found =>
  have named : item.id = impact.requestId := (lookup_some found).2
  simp only [named]
  cases impact.action with
  | narrowed => exact ⟨⟨_, _, _, _, rfl⟩, rfl⟩
  | canceled =>
  obtain ⟨holds, released⟩ := releaseBatchHold_frame (db.setRequest impact.requestId
    (canceledByReview impact.resultingStates now)) item now
  obtain ⟨jobs, jobSeq, mailed⟩ := enqueueMilestoneEmail_onlyJobs (releaseBatchHold (db.setRequest
    impact.requestId (canceledByReview impact.resultingStates now)) item now)
      (canceledByReview impact.resultingStates now item) now
  rw [mailed, released]
  exact ⟨⟨_, _, _, _, rfl⟩, rfl⟩

theorem applyImpacts_rows (removed : List String) (now : Instant) (db : Db)
    (distinct : (impacts.map LicensedStateImpact.requestId).Nodup) :
    ReviewFrame db (impacts.foldl (applyRequestImpact added removed now) db) ∧
    (impacts.foldl (applyRequestImpact added removed now) db).requests =
    db.requests.map (reviewedBy removed now impacts) := by
  induction impacts generalizing db with
  | nil => exact ⟨⟨_, _, _, _, rfl⟩, (map_id _).symm⟩
  | cons impact rest ih =>
  obtain ⟨apart, later⟩ := nodup_cons.mp distinct
  obtain ⟨frame, rows⟩ := applyRequestImpact_rows added removed now db impact
  obtain ⟨frames, others⟩ := ih (applyRequestImpact added removed now db impact) later
  refine ⟨frame.trans frames, ?_⟩
  rw [foldl_cons, others, rows, adjust, map_map]
  refine map_congr_left fun r _ => ?_
  by_cases here : r.id = impact.requestId
  · -- the rest of the list names other requests
    have absent : lookup LicensedStateImpact.requestId impact.requestId rest = none :=
      lookup_none.mpr fun other member named => apart (mem_map.mpr ⟨other, member, named⟩)
    have named : (reviewedRow removed now impact r).id = impact.requestId := reviewedRow_owner.1.trans here
    have first : lookup LicensedStateImpact.requestId impact.requestId (impact :: rest) = some impact := by
      simp [lookup]
    rw [comp_apply, if_pos here]
    simp only [reviewedBy, named, absent, here, first]
    rfl
  · simp [reviewedBy, lookup, here, Ne.symm here]

/-- The profile is mapped, and its states and those of the Customer's open requests can be read. -/
def Reviewable (casing : Casing) (db : Db) (userId : Uuid) : Prop :=
  ∃ profile customerId, db.profile? userId = some profile ∧ profile.customerId = some customerId ∧
    (∃ states, normalizeStates casing profile.licensedStates = .ok states) ∧
    ∀ item ∈ reviewedRequests db customerId, ∃ states,
      normalizeStates casing item.statesSnapshot = .ok states

theorem affectedRequests_total
    (readable : ∀ item ∈ reviewedRequests db customerId, ∃ states,
      normalizeStates casing item.statesSnapshot = .ok states) :
    ∃ impacts, affectedRequests casing db customerId proposed = .ok impacts := by
  have each : ∀ item ∈ reviewedRequests db customerId, ∃ impact,
    impactOf casing proposed item = .ok impact := by
    intro item member
    obtain ⟨states, normal⟩ := readable item member
    unfold impactOf
    rw [normal]
    exact (apply_ite (∃ x, · = Except.ok x) _ _ _).mpr (by split <;> exact ⟨_, rfl⟩)
  obtain ⟨found, maps⟩ := Runs.mapM_total each
  exact ⟨found.filterMap id, by rw [affectedRequests, maps]; rfl⟩

theorem applyReview_fault {fault : Fault} (own : claims.userId = userId)
    (readable : Reviewable casing db userId)
    (refused : applyReview casing digests db userId claims now = .error fault) :
    ∃ message, fault = .stale message := by
  obtain ⟨profile, customerId, found, mapped, ⟨states, normal⟩, opens⟩ := readable
  obtain ⟨impacts, affects⟩ :
    ∃ impacts, affectedRequests casing db customerId claims.proposedStates = .ok impacts :=
    affectedRequests_total opens
  have version : profileVersion casing digests profile = .ok (digests.version states) := by
    rw [profileVersion, normal]
    rfl
  simp only [applyReview, own, ne_eq, not_true_eq_false, if_false, found, mapped, version, affects,
    normal, bind, Except.bind] at refused
  split at refused
  · cases refused
    exact ⟨_, rfl⟩
  split at refused
  · cases refused
    exact ⟨_, rfl⟩
  · cases refused

/-- Each impact is performed on the open request it names, no other request changes, and the
profile has the proposed states. -/
structure AppliesImpacts (casing : Casing) (userId : Uuid) (proposed : List String)
    (impacts : List LicensedStateImpact) (now : Instant) (db after : Db) : Prop where
  listed : ∀ impact ∈ impacts, ∃ r ∈ db.requests, r.id = impact.requestId ∧ r.status ∈ cancelableStatuses ∧
    normalizeStates casing r.statesSnapshot = .ok impact.currentStates ∧
    impact.resultingStates = impact.currentStates.filter (fun s => s ∈ proposed) ∧
    (impact.action = .canceled ↔ impact.resultingStates = [])
  rows : ∃ removed, after.requests = db.requests.map (reviewedBy removed now impacts)
  profile : ∃ profile, after.profile? userId = some profile ∧ profile.licensedStates = proposed

theorem applyReview_applies (keyed : Keyed LeadRequest.id db.requests)
    (unforged : ∀ other, digests.impacts other = claims.impactChecksum → other = impacts)
    (done : applyReview casing digests db userId claims now = .ok after) :
    AppliesImpacts casing userId claims.proposedStates impacts now db after := by
  obtain ⟨profile, customerId, found, added, removed, reads, mapped, affects, checked, rfl⟩ :=
    applyReview_cases done
  cases unforged found checked
  have distinct := (affectedRequests_ids affects).nodup (reviewedRequests_nodup keyed customerId)
  obtain ⟨⟨requests, holds, jobs, jobSeq, framed⟩, rows⟩ := applyImpacts_rows added removed now db distinct
  have named : profile.userId = userId := (lookup_some reads).2
  refine ⟨fun impact member => ?_, ⟨removed, ?_⟩,
    { profile with licensedStates := claims.proposedStates }, ?_, rfl⟩
  · obtain ⟨item, reviewed, here⟩ := mem_affectedRequests affects member
    obtain ⟨stored, _, cancelable⟩ := mem_reviewedRequests.mp reviewed
    obtain ⟨same, facts⟩ := impactOf_some here
    exact ⟨item, stored, same.symm, cancelable, facts⟩
  · rw [← rows]
    simp only [setLicensedStates, mapped]
    rfl
  have saved : (setLicensedStates (impacts.foldl (applyRequestImpact added removed now) db) profile
      claims.proposedStates).profiles =
      adjust CustomerProfile.userId userId
        (fun p => { p with licensedStates := claims.proposedStates }) db.profiles := by
    rw [framed]
    simp only [setLicensedStates, mapped, named]
    rfl
  rw [Db.profile?, saved]
  exact lookup_adjust_self (fun _ _ => rfl) reads

/-- A review is applied as it was previewed or is a conflict, whatever happened in between. The
digest is taken to have no second preimage of the impacts that were shown. -/
theorem review_applies_preview {profile : CustomerProfile} {expectedVersion : String}
    (mapped : profile.customerId = some customerId)
    (listed : affectedRequests casing db customerId proposed = .ok impacts)
    (previewed : preview casing digests db userId profile proposed expectedVersion = .ok claims)
    (unforged : ∀ other, digests.impacts other = digests.impacts impacts → other = impacts)
    (later : Db) (keyed : Keyed LeadRequest.id later.requests) (now : Instant) :
    (∀ after, applyReview casing digests later userId claims now = .ok after →
      AppliesImpacts casing userId proposed impacts now later after) ∧
    ∀ fault, applyReview casing digests later userId claims now = .error fault →
      commit later (applyReview casing digests later userId claims now) = later ∧
        (Reviewable casing later userId → ∃ message, fault = .stale message) := by
  obtain ⟨current, _, rest⟩ := bind_ok previewed
  obtain ⟨version, _, rest⟩ := bind_ok rest
  split at rest
  · cases rest
  split at rest
  · cases rest
  rw [mapped] at rest
  obtain ⟨found, affects, last⟩ := bind_ok rest
  cases listed.symm.trans affects
  cases last
  refine ⟨fun after done => applyReview_applies keyed unforged done, fun fault refused =>
    ⟨?_, fun readable =>
    applyReview_fault rfl readable refused⟩⟩
  rw [refused]
  rfl

end

def pairProfile : CustomerProfile :=
  { userId := 70, email := "a@acme.test", licensedStates := ["CA", "TX"], customerId := some 1,
    mappingConfirmedAt := some 0 }

def openRequest (id : Nat) (states : List String) : LeadRequest :=
  { id, userId := 70, customerId := 1, leadCount := 1, rowsPerFile := 1, statesSnapshot := states,
    createdAt := id }

def reviewShop (requests : List LeadRequest) : Db :=
  { customers := [{ id := 1, slug := "acme", licensedStates := ["CA", "TX"] }],
    profiles := [pairProfile], requests }

def shownDigests (shown : List LicensedStateImpact) : ReviewDigests :=
  ⟨fun states => String.intercalate "," states, fun impacts => if impacts = shown then "shown" else "other"⟩

theorem shownDigests_unforged (shown other : List LicensedStateImpact)
    (same : (shownDigests shown).impacts other = (shownDigests shown).impacts shown) : other = shown := by
  by_contra differs
  simp [shownDigests, differs] at same

def twoImpacts : List LicensedStateImpact :=
  [⟨7, 1, "Submitted", ["CA", "TX"], ["TX"], .narrowed⟩, ⟨8, 1, "Submitted", ["CA"], [], .canceled⟩]

def previewedOrders : List LeadRequest :=
  [openRequest 7 ["CA", "TX"], openRequest 8 ["CA"], openRequest 9 ["TX"]]

/-- One request is narrowed and one canceled; one that came after the preview stays. -/
theorem review_applies_preview_california :
    ∃ after, applyReview plainCasing (shownDigests twoImpacts)
    (reviewShop (previewedOrders ++ [openRequest 10 ["TX"]])) 70
        { userId := 70, version := "CA,TX", proposedStates := ["TX"], impactChecksum := "shown" }
        15 = .ok after ∧ after.requests.map (fun r => (r.status, r.statesSnapshot)) =
        [(.pending, ["TX"]), (.canceled, []), (.pending, ["TX"]), (.pending, ["TX"])] ∧
      AppliesImpacts plainCasing 70 ["TX"] twoImpacts 15
      (reviewShop (previewedOrders ++ [openRequest 10 ["TX"]])) after := by
  have listed : affectedRequests plainCasing (reviewShop previewedOrders) 1 ["TX"] = .ok twoImpacts := by
    decide +kernel
  have previewed : preview plainCasing (shownDigests twoImpacts)
    (reviewShop previewedOrders) 70 pairProfile ["TX"] "CA,TX" =
      .ok { userId := 70, version := "CA,TX", proposedStates := ["TX"], impactChecksum := "shown" } := by
    decide +kernel
  have applied := (review_applies_preview rfl listed previewed (shownDigests_unforged twoImpacts)
    (reviewShop (previewedOrders ++ [openRequest 10 ["TX"]])) (by decide) 15).1
  refine ⟨_, rfl, by decide +kernel, applied _ rfl⟩

end Jawnix
