import Jawnix.LifecycleSteps

/-!
# Licensed States and the requests they bound

A Batch Request freezes its states when it is submitted; the Customer's Licensed
States change later. A request that can still be allocated has to stay within them.
A `LicenceStep` freezes no new states, revives no request unless its states are
licensed, and commits events only for a request that could be allocated.
-/
namespace Jawnix

def Db.licensedStates? (db : Db) (customerId : Nat) : Option (List String) :=
  (db.customer? customerId).map Customer.licensedStates

variable (db after : Db)

/-- Allocation is still reachable: the request waits, or the table offers its retry. -/
def Allocatable (r : LeadRequest) : Prop :=
  r.status ∈ openStatuses ∨ RequestAction.retry ∈ availableActionNames (actionContext db r)

def Licensed (r : LeadRequest) : Prop :=
  ∃ states, db.licensedStates? r.customerId = some states ∧ ∀ s ∈ r.statesSnapshot, s ∈ states

theorem allocatable_iff {db : Db} {r : LeadRequest} :
    Allocatable db r ↔ r.status ∈ openStatuses ∨ r.status = .failed ∧ db.artifact? r.id = none := by
  unfold Allocatable
  rw [mem_availableActionNames]
  constructor
  · rintro (waits | ⟨waits | failed, unfiled⟩)
    · exact .inl waits
    · refine .inl ?_
      change r.status = .waitingInventory at waits
      rw [waits]
      decide
    · exact .inr ⟨failed, by simpa [actionContext] using unfiled⟩
  rintro (waits | ⟨failed, unfiled⟩)
  · exact .inl waits
  · exact .inr ⟨.inr failed, by simp [actionContext, unfiled]⟩

theorem allocatable_congr {db after : Db} (artifacts : after.artifacts = db.artifacts)
    (r : LeadRequest) : Allocatable after r ↔ Allocatable db r := by
  simp only [allocatable_iff, Db.artifact?, artifacts]

/-- Row `r` of `db` goes on as row `r'` of `after`. -/
structure Continues (r r' : LeadRequest) : Prop where
  customer : r'.customerId = r.customerId
  states : r'.statesSnapshot = r.statesSnapshot
  settled : r.status ≠ .processing → r'.status ≠ .processing
  reaches : Allocatable after r' → Allocatable db r ∨ Licensed db r

/-- The event is for a request of `db` that may be allocated, in one of its states. -/
def Grants (e : DistributionEvent) : Prop :=
  ∃ r, db.request? r.id = some r ∧ (Allocatable db r ∨ Licensed db r) ∧
    e.customerId = some r.customerId ∧ e.state ∈ r.statesSnapshot

structure LicenceFrame : Prop where
  licences : ∀ c, after.licensedStates? c = db.licensedStates? c
  inventory : InventorySchema db → InventorySchema after
  requests : ∀ id r', after.request? id = some r' → ∃ r, db.request? id = some r ∧ Continues db after r r'

structure LicenceStep : Prop extends LicenceFrame db after where
  commits : InventorySchema db → ∃ new, after.events = db.events ++ new ∧ ∀ e ∈ new, Grants db e

section
variable {a b c db after : Db}

theorem Licensed.back (frame : LicenceFrame a b) {r r' : LeadRequest} (goesOn : Continues a b r r')
    (licensed : Licensed b r') : Licensed a r := by
  obtain ⟨states, saved, within⟩ := licensed
  rw [frame.licences, goesOn.customer] at saved
  rw [goesOn.states] at within
  exact ⟨states, saved, within⟩

theorem Continues.back (frame : LicenceFrame a b) {r r' : LeadRequest} (goesOn : Continues a b r r')
    (fit : Allocatable b r' ∨ Licensed b r') : Allocatable a r ∨ Licensed a r := by
  rcases fit with reachable | licensed
  · exact goesOn.reaches reachable
  · exact .inr (licensed.back frame goesOn)

theorem LicenceFrame.trans (first : LicenceFrame a b) (second : LicenceFrame b c) : LicenceFrame a c where
  licences := fun id => (second.licences id).trans (first.licences id)
  inventory := fun schema => second.inventory (first.inventory schema)
  requests := fun id r' found => by
    obtain ⟨m, foundM, later⟩ := second.requests id r' found
    obtain ⟨r, foundR, earlier⟩ := first.requests id m foundM
    exact ⟨r, foundR, later.customer.trans earlier.customer, later.states.trans earlier.states,
      fun settled => later.settled (earlier.settled settled),
      fun reachable => earlier.back first (later.reaches reachable)⟩

theorem Grants.back (frame : LicenceFrame a b) {e : DistributionEvent} (grants : Grants b e) :
    Grants a e := by
  obtain ⟨r', found, fit, customer, state⟩ := grants
  obtain ⟨r, foundR, goesOn⟩ := frame.requests _ _ found
  refine ⟨r, request_stored foundR, goesOn.back frame fit, ?_, ?_⟩
  · rw [customer, goesOn.customer]
  · rw [← goesOn.states]
    exact state

theorem LicenceStep.trans (first : LicenceStep a b) (second : LicenceStep b c) : LicenceStep a c where
  toLicenceFrame := first.toLicenceFrame.trans second.toLicenceFrame
  commits := fun schema => by
    obtain ⟨new, grown, granted⟩ := first.commits schema
    obtain ⟨newer, grownMore, grantedMore⟩ := second.commits (first.inventory schema)
    refine ⟨new ++ newer, by rw [grownMore, grown, append_assoc], fun e member => ?_⟩
    rcases mem_append.mp member with early | late
    · exact granted e early
    · exact (grantedMore e late).back first.toLicenceFrame

theorem LicenceFrame.step (frame : LicenceFrame db after) (events : after.events = db.events) :
    LicenceStep db after :=
  ⟨frame, fun _ => ⟨[], by simp [events], by simp⟩⟩

theorem LicenceStep.tables (db : Db) {agencies : List Agency} {profiles : List CustomerProfile}
    {ledger : List CreditLedgerEntry} {holds : List BatchHold} {receipts : List WebhookReceipt}
    {files : List StoredFile} {jobs : List Job} {jobSeq : Nat}
    {conflicts : List InventoryConflict} : LicenceStep db
      { db with agencies, profiles, ledger, holds, receipts, files, jobs, jobSeq, conflicts } :=
  LicenceFrame.step
    ⟨fun _ => rfl, fun schema => { schema with }, fun _ r found => ⟨r, found, rfl, rfl, id, .inl⟩⟩ rfl

theorem LicenceStep.refl (db : Db) : LicenceStep db db := .tables db

theorem Db.OnlyJobs.licenceStep (queued : db.OnlyJobs after) : LicenceStep db after := by
  obtain ⟨jobs, jobSeq, rfl⟩ := queued
  exact .tables db

def Issues (db after : Db) : Prop :=
  InventorySchema db → ∃ kept new, after.events = kept ++ new ∧
    kept.map DistributionEvent.id = db.events.map DistributionEvent.id ∧ ∀ e ∈ new, Grants db e

theorem LicenceStep.issues (step : LicenceStep db after) : Issues db after := by
  intro schema
  obtain ⟨new, grown, granted⟩ := step.commits schema
  exact ⟨db.events, new, grown, rfl, granted⟩

end

section
variable {db : Db} {id : Uuid} {f : LeadRequest → LeadRequest} {s : RequestStatus}

/-- An update of the request row that moves its status and progresses. -/
structure Edge (f : LeadRequest → LeadRequest) (s : RequestStatus) : Prop extends Marks f s where
  progress : ∀ r : LeadRequest, r.Progresses (f r)
  settled : s ≠ .processing

theorem Marks.status (marks : Marks f s) (r : LeadRequest) : (f r).status = s :=
  congrArg Order.status (marks.order r)

theorem setRequest_licence (edge : Edge f s)
    (reaches : ∀ r, db.request? id = some r → Allocatable db (f r) → Allocatable db r ∨ Licensed db r) :
    LicenceStep db (db.setRequest id f) := by
  refine LicenceFrame.step ⟨fun _ => rfl, fun schema => { schema with }, fun j r' found => ?_⟩ rfl
  have looked : lookup LeadRequest.id j (adjust LeadRequest.id id f db.requests) = _ :=
    lookup_adjust fun r _ => edge.id r
  change lookup LeadRequest.id j (adjust LeadRequest.id id f db.requests) = some r' at found
  rw [looked] at found
  split at found
  case isTrue here =>
    subst here
    obtain ⟨r, stored, rfl⟩ := map_eq_some_iff.mp found
    refine ⟨r, stored, ?_, ?_, fun _ => ?_, fun reachable => ?_⟩
    · obtain ⟨_, _, _, _, _, _, _, moved⟩ := edge.progress r
      rw [moved]
    · obtain ⟨_, _, _, _, _, _, _, moved⟩ := edge.progress r
      rw [moved]
    · rw [edge.status r]
      exact edge.settled
    · exact reaches r stored ((allocatable_congr (by rfl) _).mp reachable)
  case isFalse => exact ⟨r', found, rfl, rfl, fun settled => settled, .inl⟩

def closedStatuses : List RequestStatus := [.generated, .delivered, .rejected, .canceled]

theorem not_allocatable_of_closed {r : LeadRequest} (closed : r.status ∈ closedStatuses) :
    ¬Allocatable db r := by
  rw [allocatable_iff]
  rintro (waits | ⟨failed, _⟩)
  · revert waits closed
    cases r.status <;> decide
  rw [failed] at closed
  revert closed
  decide

theorem closing_licence (edge : Edge f s) (closed : s ∈ closedStatuses) (db : Db) (id : Uuid) :
    LicenceStep db (db.setRequest id f) :=
  setRequest_licence edge fun r _ reachable =>
    absurd reachable (not_allocatable_of_closed ((edge.status r).symm ▸ closed))

theorem filed_licence (edge : Edge f s) (shut : s ∉ openStatuses)
    (filed : (db.artifact? id).isSome) : LicenceStep db (db.setRequest id f) := by
  refine setRequest_licence edge fun r found reachable => ?_
  have same : (f r).id = id := (edge.id r).trans (lookup_some found).2
  rcases allocatable_iff.mp reachable with waits | ⟨_, unfiled⟩
  · rw [edge.status r] at waits
    exact absurd waits shut
  rw [same] at unfiled
  rw [unfiled] at filed
  cases filed

end

section
variable {db after : Db} {request : LeadRequest} {now : Instant}

theorem artifacts_licence {artifacts : List BatchArtifact} {artifactSeq : Nat} {files : List StoredFile}
    (kept : ∀ j, lookup BatchArtifact.requestId j artifacts = none → db.artifact? j = none) :
    LicenceStep db { db with artifacts, artifactSeq, files } := by
  refine LicenceFrame.step ⟨fun _ => rfl, fun schema => { schema with },
    fun j r found => ⟨r, found, rfl, rfl, id, fun reachable => .inl ?_⟩⟩ rfl
  rw [allocatable_iff] at reachable ⊢
  exact reachable.imp_right fun ⟨failed, unfiled⟩ => ⟨failed, kept _ unfiled⟩

theorem setArtifact_licence {f : BatchArtifact → BatchArtifact}
    (same : ∀ a, (f a).requestId = a.requestId) (db : Db) (requestId : Uuid) :
    LicenceStep db (db.setArtifact requestId f) := by
  refine artifacts_licence fun j absent => ?_
  have looked : lookup BatchArtifact.requestId j
      (adjust BatchArtifact.requestId requestId f db.artifacts) = _ := lookup_adjust fun a _ => same a
  rw [looked] at absent
  split at absent
  · exact Option.map_eq_none_iff.mp absent
  · exact absent

theorem generateArtifact_licence {platform : Platform} {filed : Db} {customer : Customer}
    {rows : List (String × String)} {artifact : BatchArtifact}
    (done : generateArtifact platform db request customer rows now = .ok (filed, artifact)) :
    LicenceStep db filed := by
  have filing := generateArtifact_filed done
  obtain ⟨artifacts, artifactSeq, files, rfl⟩ := filing.frame
  refine artifacts_licence fun j absent => ?_
  by_cases here : j = request.id
  · subst here
    cases absent.symm.trans filing.recorded
  · exact (filing.others j here).symm.trans absent

theorem stampLeads_inventory (schema : InventorySchema db) (leadIds : List Nat) (at_ : Instant) :
    InventorySchema (stampLeads db leadIds at_) := by
  refine ⟨?_, schema.observations, schema.mappings, schema.assignments, schema.memberships, schema.published⟩
  have ids : (stampLeads db leadIds at_).leads.map Lead.id = db.leads.map Lead.id := by
    simp only [stampLeads, map_map]
    refine map_congr_left fun lead _ => ?_
    simp only [comp_apply]
    split <;> rfl
  unfold Keyed
  rw [ids]
  exact schema.leads

theorem insertEvents_licence {leadIds : List Nat} {at_ : Instant} {drafts : List DistributionEvent}
    {inserted : Db} (granted : InventorySchema db → ∀ draft ∈ drafts, Grants db draft)
    (done : insertEvents (stampLeads db leadIds at_) drafts = .ok inserted) :
    LicenceStep db inserted := by
  rw [insertEvents_ok done]
  refine ⟨⟨fun _ => rfl, fun schema => ?_, fun j r found => ⟨r, found, rfl, rfl, id,
    fun reachable => .inl ((allocatable_congr (by rfl) r).mp reachable)⟩⟩,
    fun schema => ⟨_, rfl, fun e member => ?_⟩⟩
  · have stamped := stampLeads_inventory schema leadIds at_
    exact ⟨stamped.leads, schema.observations, schema.mappings, schema.assignments,
      schema.memberships, schema.published⟩
  · obtain ⟨draft, inDrafts, n, rfl⟩ := mem_numberEvents member
    exact granted schema draft inDrafts

end

end Jawnix
