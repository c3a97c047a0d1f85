import Jawnix.Artifact
import Jawnix.Billing
import Jawnix.Eligibility
import Jawnix.Jobs
import Jawnix.Provenance

/-!
# Allocation of one Batch Request

`allocate_request` of `allocation.py`, one transaction under the locks of the
request and of its Customer: it rebuilds the artifact of a request whose
Distribution Events are committed, leaves a request alone that is not approved, and
otherwise distributes the whole quantity or reports a shortage. Leads locked by
other transactions are skipped.
-/
namespace Jawnix

/-- What one run reads from outside the database: the row locks of other transactions, its clock and
new identifiers. -/
structure AllocationEnv where
  lockedElsewhere : Nat → Bool
  eligibleAt : Instant
  countedAt : Instant
  distributedAt : Instant
  filedAt : Instant
  queuedAt : Instant
  capturedAt : Instant
  chargeId : Uuid

structure AllocationResult where
  status : RequestStatus
  allocated : Nat
  available : Nat
  artifactId : Option Nat := none

def agencyName (db : Db) (customer : Customer) : String :=
  match customer.agencyId.bind db.agency? with
  | some agency => agency.name
  | none => ""

variable (platform : Platform) (env : AllocationEnv) (db : Db) (request : LeadRequest)
  (customer : Customer) (requestId : Uuid) (candidates : List InventoryRow)

/-- Title, state and provenance of a delivered Lead, from the database it is drawn from. -/
def deliveredListing (db : Db) (database : LeadDatabase)
    (sources : List (Nat × SourceListing)) (lookups : Option ListingLookups) (lead : Lead) :
    Except Fault (String × String × ListingSnapshot) :=
  match database with
  | .db1 => .ok (lead.title, lead.state, listingSnapshot platform.casing db lead lookups)
  | .db2 =>
    match get? lead.id sources with
    | none => .error (.lookup "The selected Lead has no DB2 listing.")
    | some listing =>
      if listing.phone ≠ lead.phone then
        .error (.runtime "DB2 phone identity does not match its canonical endpoint.")
      else
        let corrected := lead.activeCorrectionId.isSome
        .ok (if corrected then lead.title else listing.title,
          if corrected then lead.state else listing.state,
          { provenance := .csvUpload listing.uploadId listing.ownerId listing.rowNumber lead.activeCorrectionId
            sourceKind := listing.sourceKind
            segmentKey := listing.segmentKey
            niche := listing.niche })

def distributionEvent (sources : List (Nat × SourceListing)) (lookups : Option ListingLookups)
    (row : InventoryRow) : Except Fault DistributionEvent :=
  match deliveredListing platform db (inventoryDatabase customer) sources lookups row.lead with
  | .error fault => .error fault
  | .ok (title, state, snapshot) =>
    .ok
      { id := 0
        inventoryDatabase := inventoryDatabase customer
        leadId := row.lead.id
        customerId := some request.customerId
        customerName := customer.name
        agencyId := customer.agencyId
        agencyName := agencyName db customer
        requestId := some request.id
        phone := row.lead.phone
        title
        state
        listingProvenance := snapshot.provenance
        sourceKind := snapshot.sourceKind
        sourceSegmentKey := snapshot.segmentKey
        sourceNiche := snapshot.niche
        distributionPeriod := yearMonth env.distributedAt
        deliveredAt := env.distributedAt
        source := "request" }

/-- `uq_request_lead` or `uq_legacy_distribution_event`. -/
def eventClash (a b : DistributionEvent) : Bool :=
  (a.requestId.isSome && a.requestId = b.requestId && a.leadId = b.leadId) ||
    (a.customerId.isSome && a.leadId = b.leadId && a.customerId = b.customerId &&
      a.deliveredAt = b.deliveredAt && a.source = b.source)

def insertEvents (db : Db) : List DistributionEvent → Except Fault Db
  | [] => .ok db
  | event :: rest =>
    if db.events.any (eventClash event) then .error (.integrity "distribution_events")
    else insertEvents
      { db with
        events := db.events ++ [{ event with id := db.eventSeq + 1 }]
        eventSeq := db.eventSeq + 1 } rest

def stampLeads (leadIds : List Nat) (at_ : Instant) : Db :=
  { db with leads := db.leads.map (fun lead =>
      if lead.id ∈ leadIds then { lead with lastDistributedAt := some at_ } else lead) }

def queueDelivery (now : Instant) : Db :=
  enqueueJob (enqueueJob (enqueueJob db .deliverRequest (some requestId) .empty now)
    .emitLeadAssigned (some requestId) .empty now) .updateNotification (some requestId) .empty now

def generatedMessage : String := "Batch generated; portal notification is queued."

/-- Listing fields of an event that was written before events carried them. -/
def legacyEvent (event : DistributionEvent) : DistributionEvent :=
  match lookup Lead.id event.leadId db.leads with
  | none => event
  | some lead =>
    { event with
      phone := lead.phone
      title := lead.title
      state := lead.state
      listingProvenance := .legacy lead.sourceFlow }

def restoreEvents : Except Fault Db :=
  if (db.eventsOf requestId).any (fun e => e.phone = "") = false then .ok db
  else if (db.eventsOf requestId).any (fun e => (lookup Lead.id e.leadId db.leads).isNone) then
    .error (.lookup "A Distribution Event names an unknown Lead.")
  else
    .ok { db with events := db.events.map (fun e =>
            if e.requestId = some requestId then legacyEvent db e else e) }

def eventRows (events : List DistributionEvent) : List (String × String) :=
  events.map fun e => (e.phone, e.title)

def generated (r : LeadRequest) : LeadRequest :=
  { r with status := .generated, statusMessage := generatedMessage }

def replayAllocation : Except Fault (Db × AllocationResult) :=
  let count := (db.eventsOf request.id).length
  if count ≠ request.leadCount then .error (.runtime "Existing allocation has an unexpected row count.")
  else do
    let restored ← restoreEvents db request.id
    let (filed, artifact) ←
      generateArtifact platform restored request customer
        (eventRows (restored.eventsOf request.id)) env.filedAt
    let queued := queueDelivery (filed.setRequest request.id generated) request.id env.queuedAt
    let captured ← captureBatchHold queued request env.chargeId env.capturedAt
    .ok (captured,
      { status := .generated, allocated := count, available := count, artifactId := some artifact.id })

def shortageMessage (requested available : Nat) : String :=
  s!"Inventory shortage: requested {Text.thousands requested}; available {Text.thousands available}." ++
    " No rows were allocated."

def waiting (requested available : Nat) (r : LeadRequest) : LeadRequest :=
  { r with
    status := .waitingInventory
    availableCount := some available
    statusMessage := shortageMessage requested available }

/-- Nothing is allocated when the whole quantity is not at hand. -/
def reportShortage (available : Nat) : Db × AllocationResult :=
  let parked := waiting request.leadCount available
  let noted := enqueueMilestoneEmail (db.setRequest request.id parked) (parked request) env.queuedAt
  (enqueueJob noted .updateNotification (some request.id) .empty env.queuedAt,
    { status := .waitingInventory, allocated := 0, available })

def processed (allocated : Nat) (now : Instant) (r : LeadRequest) : LeadRequest :=
  { generated r with availableCount := some allocated, processedAt := some now }

def sourceKeys : List (Nat × Uuid) :=
  candidates.filterMap fun row => row.membership.map (fun m => (row.lead.id, m.uploadId))

def candidateSources : List (Nat × SourceListing) :=
  if inventoryDatabase customer = .db2 then db2Listings db (sourceKeys candidates) else []

def candidateLookups : Option ListingLookups :=
  if inventoryDatabase customer = .db1 then listingLookups db (candidates.map InventoryRow.lead) else none

def distribute : Except Fault (Db × AllocationResult) :=
  let sources := candidateSources db customer candidates
  if inventoryDatabase customer = .db2 ∧ sources.length ≠ candidates.length then
    .error (.runtime "The selected DB2 inventory version is unavailable.")
  else do
    let deliveredRows ← candidates.mapM
      (distributionEvent platform env db request customer sources (candidateLookups db customer candidates))
    let stamped := stampLeads db (candidates.map fun row => row.lead.id) env.distributedAt
    let distributed ← insertEvents stamped deliveredRows
    let (filed, artifact) ←
      generateArtifact platform distributed request customer (eventRows deliveredRows) env.filedAt
    let closed := filed.setRequest request.id (processed candidates.length env.distributedAt)
    let captured ← captureBatchHold
      (queueDelivery closed request.id env.queuedAt) request env.chargeId env.capturedAt
    .ok (captured,
      { status := .generated, allocated := candidates.length, available := candidates.length,
        artifactId := some artifact.id })

def selectCandidates : List InventoryRow :=
  ((eligibleQuery platform.casing db request customer env.eligibleAt).filter
    (fun row => !env.lockedElsewhere row.lead.id)).take request.leadCount

def allocateRequest : Except Fault (Db × AllocationResult) :=
  match db.request? requestId with
  | none => .error (.lookup s!"Request {uuidText requestId} was not found.")
  | some request =>
    match db.customer? request.customerId with
    | none => .error (.integrity "lead_requests_agent_id_fkey")
    | some customer =>
      if db.eventsOf request.id ≠ [] then replayAllocation platform env db request customer
      else if request.status ≠ .approved ∧ request.status ≠ .processing then
        .ok (db, { status := request.status, allocated := 0, available := request.availableCount.getD 0 })
      else
        -- the intermediate status "processing" is overwritten before the transaction ends
        let candidates := selectCandidates platform env db request customer
        if candidates.length < request.leadCount then
          .ok (reportShortage env db request
            (inventoryCount platform.casing db request customer env.countedAt))
        else distribute platform env db request customer candidates

end Jawnix
