import Mathlib.Tactic.MkIffOfInductiveProp
import Jawnix.Library.Chunks
import Jawnix.Library.Dict
import Jawnix.Library.Runs
import Jawnix.Text

/-!
# Persisted rows

The tables of `models.py` that the modelled services read or write, one structure
per table and one field per column used. Column checks are proof fields, so a row
that the database would refuse cannot be built. Uniqueness is checked on insertion.
-/
namespace Jawnix

export Text (strip Casing plainCasing)
export Rows
  (Keyed lookup adjust lookup_some lookup_none lookup_of_mem eq_of_mem_of_key mem_adjust
    keyed_append keyed_adjust
    lookup_append_new lookup_adjust lookup_adjust_self lookup_adjust_of_ne map_adjust_of_preserves
    upsert share latest keyed_nil sumWhere lookup_map)
export Dict (get? groupBy get?_erase_cases get?_set_cases mem_of_get? mem_groupBy_iff)
export Chunks (chunks flatten_chunks)
export Runs
  (run commit bind_ok guard_ok Meets commit_cases map_fst_ok run_invariant run_invariant_of_meets
    run_concat meets_of_invariant)
export List
  (mem_map mem_filter mem_singleton mem_append mem_append_left mem_append_right not_mem_nil
    mem_cons_self
    mem_map_of_mem mem_filterMap mem_cons_of_mem mem_cons append_nil foldl_cons map_append
    append_assoc filter_eq_nil_iff
    map_congr_left forall_mem_cons find?_some map_cons foldl_append find?_eq_none length_append
    filter_append filter_sublist
    mem_of_find?_eq_some mem_singleton_self length_map forall_mem_nil any_eq_false map_map nodup_nil
    ne_nil_of_mem reverseRecOn nodup_cons pairwise_append pairwise_map map_id foldl_nil any_eq_true)
export Option
  (map_some map_eq_some_iff bind_eq_some_iff bind_some some_ne_none mem_def any_some
    isSome_iff_exists getD_some
    mem_toList not_isSome_iff_eq_none map_none getD_none some.inj some.injEq)
export Function (comp_def comp_apply)
export Except (ok.inj)
export String (ofList)
export Bool (and_eq_true false_ne_true and_eq_true_iff or_eq_true eq_false_iff)

abbrev Uuid := Nat

/-- Microseconds since the epoch. -/
abbrev Instant := Int

inductive RequestStatus where
  | pending | approved | processing | waitingInventory | generated | delivered | rejected | canceled | failed
  deriving DecidableEq

def RequestStatus.value : RequestStatus → String
  | .pending => "pending"
  | .approved => "approved"
  | .processing => "processing"
  | .waitingInventory => "waiting_inventory"
  | .generated => "generated"
  | .delivered => "delivered"
  | .rejected => "rejected"
  | .canceled => "canceled"
  | .failed => "failed"

inductive HoldStatus where
  | active | captured | released
  deriving DecidableEq

inductive PurchaseStatus where
  | processing | completed | failed | expired
  deriving DecidableEq

def PurchaseStatus.value : PurchaseStatus → String
  | .processing => "processing"
  | .completed => "completed"
  | .failed => "failed"
  | .expired => "expired"

inductive LedgerKind where
  | purchase | batchCharge | adminAdjustment
  deriving DecidableEq

inductive LeadDatabase where
  | db1 | db2
  deriving DecidableEq

inductive JobStatus where
  | queued | running | complete | failed
  deriving DecidableEq

inductive JobKind where
  | notifyRequest | updateNotification | fulfillRoundRobin | allocateRequest | deliverRequest
  | milestoneEmail | emitLeadAssigned | notifyInventoryConflict | updateInventoryConflictNotification
  | telegramAction | licensedStatesChanged | importLeadUpload
  | other (name : String)
  deriving DecidableEq

inductive DeliveryStatus where
  | pending | sent | delivered | failed
  deriving DecidableEq

inductive UploadStatus where
  | uploading | queued | processing | complete | failed
  deriving DecidableEq

inductive SyncStatus where
  | pending | complete | failed
  deriving DecidableEq

inductive ScrapeStatus where
  | running | heldAnomaly | published | skippedDuplicate | failed | complete | syncFailed |
      superseded | denied
  deriving DecidableEq

inductive CorrectionAction where
  | applied | removed
  deriving DecidableEq

inductive EvidenceKind where
  | currentListing | legacySnapshot | priorCorrection | noEvidence | csvUpload | unknown
  deriving DecidableEq

inductive ReportStatus where
  | opened | dismissed | corrected | suppressed
  deriving DecidableEq

inductive ReportReason where
  | invalidPhone | wrongBusinessOrTitle | wrongState | duplicate | doNotContactOrLegal | other
  deriving DecidableEq

inductive Disposition where
  | noContact | notInterested | positiveResponse | appointmentBooked | appointmentCanceled |
      appointmentNoShow
  | invalidPhone | wrongBusiness | doNotContact | other
  deriving DecidableEq

inductive OutcomeKind where
  | good | poor | positiveResponse | appointmentBooked | appointmentCanceled | appointmentNoShow
  deriving DecidableEq

inductive OutcomeMetric where
  | quality | positiveResponse | appointmentBooked | appointmentCanceled | appointmentNoShow
  deriving DecidableEq

inductive InvitationStatus where
  | pending | accepted | canceled
  deriving DecidableEq

inductive RegistrationStatus where
  | awaitingReview | active | rejected
  deriving DecidableEq

inductive ConflictStatus where
  | pending | confirmed | denied | consumed
  deriving DecidableEq

inductive PolicyMode where
  | exclude | only
  deriving DecidableEq

inductive ConfigurationStatus where
  | draft | scheduled | scheduleReplaced | active | superseded
  deriving DecidableEq

inductive RecommendationAction where
  | expand | reduce | pause
  deriving DecidableEq

inductive RecommendationStatus where
  | pending | stale | denied | approvedShadow | approved
  deriving DecidableEq

inductive StateMode where
  | allSaved | selected
  deriving DecidableEq

inductive RequestAction where
  | approve | retry | retryDelivery | regenerate | reject | cancel
  deriving DecidableEq

def RequestAction.name : RequestAction → String
  | .approve => "approve"
  | .retry => "retry"
  | .retryDelivery => "retry_delivery"
  | .regenerate => "regenerate"
  | .reject => "reject"
  | .cancel => "cancel"

inductive Milestone where
  | approval | waitingInventory | rejection | failure | canceled
  deriving DecidableEq

structure Agency where
  id : Nat
  slug : String := ""
  name : String := ""
  active : Bool := true
  permanentHistoryKey : String := ""
  lastFulfilledAt : Option Instant := none
  deletedAt : Option Instant := none
  deriving DecidableEq

-- The constraints on billing, where nothing is billed.
theorem unbilled_rateRequired : false → (none : Option Int).isSome := by decide

theorem unset_rateRange : ∀ rate ∈ (none : Option Int), 100 ≤ rate ∧ rate ≤ 2000 := by decide

theorem unbilled_frozenBilling : false → (none : Option Int).isSome ∧
    ∃ amount ∈ (none : Option Int), 0 ≤ amount := by simp

/-- `Agent`, whose canonical domain name is Customer. -/
structure Customer where
  id : Nat
  slug : String := ""
  name : String := ""
  licensedStates : List String := []
  agencyId : Option Nat := none
  active : Bool := true
  leadDatabase : LeadDatabase := .db1
  billingEnabled : Bool := false
  leadRateCentsPerThousand : Option Int := none
  cooldownWindowDays : Int := 7
  permanentHistoryKey : String := ""
  lastFulfilledAt : Option Instant := none
  deletedAt : Option Instant := none
  /-- `ck_agent_billing_rate_required` -/
  rateRequired : billingEnabled → leadRateCentsPerThousand.isSome := by
    first | exact unbilled_rateRequired | decide
  /-- `ck_agent_lead_rate_range` -/
  rateRange : ∀ rate ∈ leadRateCentsPerThousand, 100 ≤ rate ∧ rate ≤ 2000 := by
    first | exact unset_rateRange | decide
  deriving DecidableEq

/-- One period of Agency membership, retained after every reassignment. -/
structure AgencyMembershipHistory where
  id : Nat
  customerId : Nat
  agencyId : Nat
  startedAt : Instant
  endedAt : Option Instant := none
  assignedBy : String
  reason : String
  deriving DecidableEq

structure CustomerProfile where
  userId : Uuid
  email : String := ""
  firstName : String := ""
  lastName : String := ""
  phone : String := ""
  licensedStates : List String := []
  customerId : Option Nat := none
  mappingConfirmedAt : Option Instant := none
  deriving DecidableEq

/-- A login, which is replaceable, of a Customer, who is not. -/
structure UserAccount where
  authUserId : Uuid
  customerId : Option Nat := none
  email : String := ""
  active : Bool := true
  createdAt : Instant := 0
  replacedAt : Option Instant := none
  replacedByAuthUserId : Option Uuid := none
  deriving DecidableEq

structure UserAccountInvitation where
  id : Uuid
  customerId : Nat
  authUserId : Uuid
  email : String := ""
  status : InvitationStatus := .pending
  replacesAuthUserId : Option Uuid := none
  invitedBy : String := ""
  reason : String := ""
  acceptedAt : Option Instant := none
  canceledAt : Option Instant := none
  deriving DecidableEq

structure CustomerRegistration where
  authUserId : Uuid
  email : String := ""
  firstName : String := ""
  lastName : String := ""
  phone : String := ""
  licensedStates : List String := []
  status : RegistrationStatus
  customerId : Option Nat := none
  decidedAt : Option Instant := none
  decidedBy : Option String := none
  deriving DecidableEq

structure CustomerHistoryIdentity where
  customerId : Nat
  firstName : String
  lastName : String
  deriving DecidableEq

structure CustomerTombstone where
  formerCustomerId : Nat
  opaqueKey : String
  deriving DecidableEq

structure LeadRequest where
  id : Uuid
  userId : Uuid
  customerId : Nat
  leadCount : Nat
  rowsPerFile : Nat
  stateMode : StateMode := .allSaved
  statesSnapshot : List String
  deliveryEmail : String := ""
  status : RequestStatus := .pending
  availableCount : Option Nat := none
  statusMessage : String := ""
  createdAt : Instant
  approvedAt : Option Instant := none
  processedAt : Option Instant := none
  deliveredAt : Option Instant := none
  closedAt : Option Instant := none
  idempotencyKey : Option String := none
  isBilled : Bool := false
  leadRateCentsPerThousand : Option Int := none
  billingAmountCents : Option Int := none
  /-- `ck_lead_request_frozen_billing` -/
  frozenBilling : isBilled →
    leadRateCentsPerThousand.isSome ∧ ∃ amount ∈ billingAmountCents, 0 ≤ amount := by
    first | exact unbilled_frozenBilling | simp
  deriving DecidableEq

/-- `ORDER BY created_at, id`. -/
def createdBefore (a b : LeadRequest) : Bool :=
  decide (a.createdAt < b.createdAt) || (a.createdAt = b.createdAt && a.id ≤ b.id)

/-- The same order at another point of its life: only the columns that record progress differ. -/
def LeadRequest.Progresses (a b : LeadRequest) : Prop :=
  ∃ status availableCount statusMessage approvedAt processedAt deliveredAt closedAt,
    b = { a with
      status, availableCount, statusMessage, approvedAt, processedAt, deliveredAt, closedAt }

def LedgerChecks (kind : LedgerKind) (amountCents : Int) (reason : String)
    (batchRequestId : Option Uuid) : Prop :=
  match kind with
  | .purchase => 0 < amountCents
  | .batchCharge => amountCents ≤ 0 ∧ batchRequestId.isSome
  | .adminAdjustment => amountCents ≠ 0 ∧ Text.sqlTrim reason ≠ ""

structure CreditLedgerEntry where
  id : Uuid
  customerId : Nat
  kind : LedgerKind
  amountCents : Int
  reason : String
  actorUserId : String
  batchRequestId : Option Uuid := none
  createdAt : Instant
  checks : LedgerChecks kind amountCents reason batchRequestId
  deriving DecidableEq

/-- A Stripe Checkout top-up that stays processing until the webhook lands. -/
structure CreditPurchase where
  id : Uuid
  customerId : Nat
  amountCents : Int
  status : PurchaseStatus := .processing
  stripeCheckoutSessionId : String
  ledgerEntryId : Option Uuid := none
  createdAt : Instant
  completedAt : Option Instant := none
  /-- `ck_credit_purchase_whole_dollars` -/
  wholeDollars : 100 ≤ amountCents ∧ amountCents % 100 = 0
  deriving DecidableEq

structure BatchHold where
  id : Uuid
  requestId : Uuid
  customerId : Nat
  amountCents : Int
  status : HoldStatus := .active
  createdAt : Instant
  capturedAt : Option Instant := none
  releasedAt : Option Instant := none
  /-- `ck_batch_hold_amount_nonnegative` -/
  nonnegative : 0 ≤ amountCents
  deriving DecidableEq

/-- A webhook already received, unique on provider and event key. -/
structure WebhookReceipt where
  provider : String
  eventKey : String
  receivedAt : Instant
  deriving DecidableEq

structure Lead where
  id : Nat
  phone : String
  inDb1 : Bool := true
  title : String := ""
  state : String
  sourceFlow : String := ""
  legacyTitle : String := ""
  legacyState : String := ""
  currentListingObservationId : Option Nat := none
  activeCorrectionId : Option Uuid := none
  suppressed : Bool := false
  suppressionReason : String := ""
  lastDistributedAt : Option Instant := none
  deriving DecidableEq

structure ListingObservation where
  id : Nat
  leadId : Option Nat := none
  datasetChecksum : String
  rowNumber : Nat := 0
  normalizedPhone : String := ""
  title : String := ""
  state : String := ""
  source : String := ""
  niche : String := ""
  valid : Bool := true
  observedAt : Instant := 0
  deriving DecidableEq

structure DatasetPublication where
  id : Nat
  version : Nat
  checksum : String
  scraperRunId : Nat
  configurationId : Uuid
  syncStatus : SyncStatus := .pending
  storagePath : String := ""
  deriving DecidableEq

inductive ScrapeDetails where
  | none
  | error (message : String)
  | anomalous (segments : List String) (stagedChecksum : String)
  | duplicate (reason : String) (existingDatasetVersion : Nat)
  deriving DecidableEq

structure ScraperRun where
  id : Nat
  sourceVersion : String := ""
  configurationId : Option Uuid := none
  datasetVersion : Option Nat := none
  stagedPath : String := ""
  manual : Bool := false
  checksum : String := ""
  status : ScrapeStatus := .running
  details : ScrapeDetails := .none
  finishedAt : Option Instant := none
  deriving DecidableEq

/-- A JSON value of a Source Segment's parameters; numbers are counted in hundredths. -/
inductive ParameterValue where
  | text (value : String) | number (hundredths : Int) | flag (value : Bool) | json (encoded : String)
  deriving DecidableEq

structure SourceSegment where
  key : String
  niche : String := ""
  query : String := ""
  geography : String := ""
  parameters : List (String × ParameterValue) := []
  deriving DecidableEq

structure ScraperConfiguration where
  id : Uuid
  version : Nat
  checksum : String := ""
  status : ConfigurationStatus := .draft
  anomalyThresholds : String := ""
  createdBy : Uuid := 0
  reason : String := ""
  scheduledAt : Option Instant := none
  activatedAt : Option Instant := none
  basedOnConfigurationId : Option Uuid := none
  segments : List SourceSegment := []
  deriving DecidableEq

/-- What the nightly review found about a Source Segment, as far as a decision reads it. -/
structure RecommendationEvidence where
  state : Option String := none
  adjacentKeywords : List String := []
  deriving DecidableEq

structure SourceRecommendation where
  id : Uuid
  niche : String := ""
  segmentKey : String
  action : RecommendationAction
  evidence : RecommendationEvidence := {}
  evidenceChecksum : String
  status : RecommendationStatus := .pending
  decisionBy : String := ""
  decisionReason : String := ""
  decidedAt : Option Instant := none
  resultingConfigurationId : Option Uuid := none
  nightlyReviewId : Option Uuid := none
  configurationVersion : Option Nat := none
  deriving DecidableEq

/-- An audited override of a Lead's delivered title or state, with the evidence it was made
against. -/
structure LeadCorrectionEvent where
  id : Uuid
  leadId : Nat
  action : CorrectionAction := .applied
  title : String := ""
  state : String := ""
  actorId : String := ""
  reason : String := ""
  supersedesCorrectionId : Option Uuid := none
  basedOnKind : EvidenceKind := .unknown
  basedOnObservationId : Option Nat := none
  basedOnUploadId : Option Uuid := none
  basedOnTitle : String := ""
  basedOnState : String := ""
  createdAt : Instant := 0
  deriving DecidableEq

structure MigrationAudit where
  sourcePath : String
  checksum : String
  sourceRows : Nat := 0
  importedRows : Nat := 0
  quarantinedRows : Nat := 0
  deriving DecidableEq

structure SourceNicheMapping where
  id : Uuid
  segmentKey : String
  state : String := ""
  niche : String
  confirmed : Bool := false
  deniedAt : Option Instant := none
  deriving DecidableEq

structure NicheAssignment where
  phone : String
  niche : String
  deriving DecidableEq

structure NichePolicyRow where
  customerId : Nat
  state : Option String
  mode : PolicyMode
  niche : String
  deriving DecidableEq

structure EligibilityHold where
  id : Uuid
  leadId : Nat
  distributionEventId : Option Nat := none
  reportId : Option Uuid := none
  reason : Disposition := .invalidPhone
  active : Bool := true
  deriving DecidableEq

structure LeadReport where
  id : Uuid
  distributionEventId : Nat
  customerId : Nat := 0
  sourceTransitionId : Option Uuid := none
  reason : ReportReason := .other
  details : String := ""
  status : ReportStatus := .opened
  createdAt : Instant := 0
  deriving DecidableEq

structure LeadDispositionTransition where
  id : Uuid
  distributionEventId : Nat
  customerId : Nat
  actorUserId : Uuid
  disposition : Disposition
  note : String := ""
  previousTransitionId : Option Uuid := none
  createdAt : Instant
  deriving DecidableEq

structure LeadDispositionState where
  distributionEventId : Nat
  currentTransitionId : Uuid
  currentDisposition : Disposition
  updatedAt : Instant
  deriving DecidableEq

structure LeadOutcome where
  id : Uuid
  distributionEventId : Nat
  customerId : Nat
  actorUserId : Option Uuid
  kind : OutcomeKind
  metric : OutcomeMetric
  appointmentAt : Option Instant := none
  note : String := ""
  supersedesOutcomeId : Option Uuid := none
  createdAt : Instant
  deriving DecidableEq

structure ExclusionList where
  id : Uuid
  customerId : Option Nat
  globalEffective : Bool := false
  deriving DecidableEq

structure ExclusionPhone where
  exclusionListId : Uuid
  phone : String
  deriving DecidableEq

/-- DB2 eligibility index; the listing itself stays in the physical DB2. -/
structure LeadDatabaseMembership where
  leadId : Nat
  uploadId : Uuid
  state : String
  deriving DecidableEq

structure LeadUpload where
  id : Uuid
  uploaderId : Uuid
  state : String
  status : UploadStatus := .uploading
  path : String
  sha256 : String := ""
  processedRows : Nat := 0
  validRows : Nat := 0
  rejectedRows : Nat := 0
  importedRows : Nat := 0
  updatedRows : Nat := 0
  duplicateRows : Nat := 0
  error : String := ""
  completedAt : Option Instant := none
  deriving DecidableEq

structure Db2InventoryRow where
  leadId : Nat
  uploadId : Uuid
  phone : String
  title : String
  state : String
  rowNumber : Nat
  ownerId : Uuid
  deriving DecidableEq

structure AcquisitionProvenance where
  datasetVersion : Option Nat
  scrapeRunId : Option Nat
  configurationId : Option Uuid
  configurationVersion : Option Nat
  deriving DecidableEq

inductive Provenance where
  | legacy (source : String)
  | leadCorrection (correctionId : Uuid) (underlying : Option (Nat × AcquisitionProvenance))
  | currentListing (observationId : Nat) (datasetChecksum source niche : String)
      (acquisition : AcquisitionProvenance)
  | csvUpload (uploadId ownerId : Uuid) (rowNumber : Nat) (correctionId : Option Uuid)
  deriving DecidableEq

structure DistributionEvent where
  id : Nat
  inventoryDatabase : LeadDatabase := .db1
  leadId : Nat
  customerId : Option Nat
  customerName : String := ""
  agencyId : Option Nat
  agencyName : String := ""
  requestId : Option Uuid
  phone : String := ""
  title : String := ""
  state : String := ""
  listingProvenance : Provenance := .legacy ""
  sourceKind : String := "legacy"
  sourceSegmentKey : String := ""
  sourceNiche : String := ""
  distributionPeriod : String := ""
  deliveredAt : Instant
  source : String := "request"
  deriving DecidableEq

structure ArtifactPart where
  filename : String
  rowCount : Nat
  deriving DecidableEq

structure BatchArtifact where
  id : Nat
  requestId : Uuid
  path : String
  filename : String
  rowCount : Nat
  parts : List ArtifactPart
  byteCount : Nat
  sha256 : String
  deliveryStatus : DeliveryStatus := .pending
  deliveryAttempts : Nat := 0
  resendMessageId : String := ""
  lastError : String := ""
  createdAt : Instant
  expiresAt : Option Instant
  sentAt : Option Instant := none
  deriving DecidableEq

/-- A generated file on disk: its parts by name, each with its `phone` and `title` rows. -/
structure StoredFile where
  path : String
  parts : List (String × List (String × String))
  deriving DecidableEq

inductive JobPayload where
  | empty
  | milestone (milestone : Milestone)
  | conflict (conflictId : Uuid)
  | action (action : RequestAction) (approverUserId : String)
  | statesChanged (added removed : List String) (requestAction : String) (states : List String)
  | upload (uploadId : Uuid)
  | cursor (afterId : Nat)
  | dataset (version : Nat)
  | review (reviewId : Uuid)
  | anomaly (anomalyId : Uuid)
  deriving DecidableEq

structure Job where
  id : Nat
  kind : JobKind
  requestId : Option Uuid := none
  payload : JobPayload := .empty
  status : JobStatus := .queued
  attempts : Nat := 0
  runAfter : Instant
  lockedAt : Option Instant := none
  lockedBy : String := ""
  lastError : String := ""
  failureNotificationJobId : Option Nat := none
  deriving DecidableEq

structure InventorySnapshot where
  olderRequestId : Uuid
  newerRequestId : Uuid
  olderLeadCount : Nat
  newerLeadCount : Nat
  olderStates : List String
  newerStates : List String
  olderEligibleCount : Nat
  newerEligibleCount : Nat
  sharedLeadIds : List Nat
  deriving DecidableEq

structure InventoryConflict where
  id : Uuid
  olderRequestId : Uuid
  newerRequestId : Uuid
  inventorySnapshot : InventorySnapshot
  snapshotChecksum : String
  status : ConflictStatus := .pending
  decisionBy : String := ""
  decisionReason : String := ""
  decidedAt : Option Instant := none
  consumedAt : Option Instant := none
  deriving DecidableEq

/-- The exceptions a service raises; the enclosing transaction is rolled back. -/
inductive Fault where
  | billing (detail : String) (statusCode : Nat)
  | transition (detail : String) (statusCode : Nat)
  | submission (detail : String) (statusCode : Nat)
  | runtime (message : String)
  | lookup (message : String)
  | value (message : String)
  | type (message : String)
  | review (message : String)
  | stale (message : String)
  | assignment (message : String)
  | integrity (constraint : String)
  | control (message : String)
  | access (message guard : String)
  | http (statusCode : Nat) (detail : String)
  deriving DecidableEq

/-- The database, one list of rows per table in insertion order. A `Seq` field
is the last value an identity column handed out. -/
structure Db where
  customers : List Customer := []
  agencies : List Agency := []
  profiles : List CustomerProfile := []
  userAccounts : List UserAccount := []
  invitations : List UserAccountInvitation := []
  registrations : List CustomerRegistration := []
  historyIdentities : List CustomerHistoryIdentity := []
  tombstones : List CustomerTombstone := []
  requests : List LeadRequest := []
  ledger : List CreditLedgerEntry := []
  purchases : List CreditPurchase := []
  holds : List BatchHold := []
  receipts : List WebhookReceipt := []
  leads : List Lead := []
  leadSeq : Nat := 0
  observations : List ListingObservation := []
  observationSeq : Nat := 0
  publications : List DatasetPublication := []
  scraperRuns : List ScraperRun := []
  configurations : List ScraperConfiguration := []
  recommendations : List SourceRecommendation := []
  corrections : List LeadCorrectionEvent := []
  audits : List MigrationAudit := []
  nicheMappings : List SourceNicheMapping := []
  nicheAssignments : List NicheAssignment := []
  nichePolicies : List NichePolicyRow := []
  eligibilityHolds : List EligibilityHold := []
  reports : List LeadReport := []
  transitions : List LeadDispositionTransition := []
  dispositionStates : List LeadDispositionState := []
  outcomes : List LeadOutcome := []
  exclusionLists : List ExclusionList := []
  exclusionPhones : List ExclusionPhone := []
  memberships : List LeadDatabaseMembership := []
  uploads : List LeadUpload := []
  db2Rows : List Db2InventoryRow := []
  events : List DistributionEvent := []
  eventSeq : Nat := 0
  artifacts : List BatchArtifact := []
  artifactSeq : Nat := 0
  files : List StoredFile := []
  jobs : List Job := []
  jobSeq : Nat := 0
  conflicts : List InventoryConflict := []
  agencyMemberships : List AgencyMembershipHistory := []
  agencyMembershipSeq : Nat := 0
  deriving DecidableEq

namespace Db

variable (db : Db) (authUserId requestId : Uuid)

def customer? (id : Nat) : Option Customer := lookup Customer.id id db.customers

def agency? (id : Nat) : Option Agency := lookup Agency.id id db.agencies

def profile? (userId : Uuid) : Option CustomerProfile :=
  lookup CustomerProfile.userId userId db.profiles

def userAccount? : Option UserAccount :=
  lookup UserAccount.authUserId authUserId db.userAccounts

def registration? : Option CustomerRegistration :=
  lookup CustomerRegistration.authUserId authUserId db.registrations

def request? (id : Uuid) : Option LeadRequest := lookup LeadRequest.id id db.requests

def hold? : Option BatchHold :=
  lookup BatchHold.requestId requestId db.holds

def charge? : Option CreditLedgerEntry :=
  lookup CreditLedgerEntry.batchRequestId (some requestId) db.ledger

def purchaseForSession? (session : String) : Option CreditPurchase :=
  lookup CreditPurchase.stripeCheckoutSessionId session db.purchases

def receipt? (provider eventKey : String) : Option WebhookReceipt :=
  lookup (fun r => (r.provider, r.eventKey)) (provider, eventKey) db.receipts

def artifact? : Option BatchArtifact :=
  lookup BatchArtifact.requestId requestId db.artifacts

def upload? (id : Uuid) : Option LeadUpload := lookup LeadUpload.id id db.uploads

def lead? (id : Nat) : Option Lead := lookup Lead.id id db.leads

def leadOfPhone? (phone : String) : Option Lead := lookup Lead.phone phone db.leads

def observation? (id : Nat) : Option ListingObservation := lookup ListingObservation.id id db.observations

def correction? (id : Uuid) : Option LeadCorrectionEvent := lookup LeadCorrectionEvent.id id db.corrections

def publication? (version : Nat) : Option DatasetPublication :=
  lookup DatasetPublication.version version db.publications

def recommendation? (id : Uuid) : Option SourceRecommendation :=
  lookup SourceRecommendation.id id db.recommendations

def report? (id : Uuid) : Option LeadReport := lookup LeadReport.id id db.reports

def transition? (id : Uuid) : Option LeadDispositionTransition :=
  lookup LeadDispositionTransition.id id db.transitions

def event? (id : Nat) : Option DistributionEvent := lookup DistributionEvent.id id db.events

def membership? (leadId : Nat) : Option LeadDatabaseMembership :=
  lookup LeadDatabaseMembership.leadId leadId db.memberships

/-- The Distribution Events of a request in identity order, which is insertion order. -/
def eventsOf : List DistributionEvent :=
  db.events.filter fun e => e.requestId = some requestId

/-- The Customer, and its Agency if it has one, is active and not deleted. -/
def mayDistribute (customer : Customer) : Bool :=
  customer.active && customer.deletedAt.isNone &&
    match customer.agencyId.bind db.agency? with
    | none => true
    | some agency => agency.active && agency.deletedAt.isNone

def setHold (f : BatchHold → BatchHold) : Db :=
  { db with holds := adjust BatchHold.requestId requestId f db.holds }

def setRequest (id : Uuid) (f : LeadRequest → LeadRequest) : Db :=
  { db with requests := adjust LeadRequest.id id f db.requests }

def setProfile (userId : Uuid) (f : CustomerProfile → CustomerProfile) : Db :=
  { db with profiles := adjust CustomerProfile.userId userId f db.profiles }

def setUserAccount (f : UserAccount → UserAccount) : Db :=
  { db with userAccounts := adjust UserAccount.authUserId authUserId f db.userAccounts }

def setInvitation (id : Uuid) (f : UserAccountInvitation → UserAccountInvitation) : Db :=
  { db with invitations := adjust UserAccountInvitation.id id f db.invitations }

def setArtifact (f : BatchArtifact → BatchArtifact) : Db :=
  { db with artifacts := adjust BatchArtifact.requestId requestId f db.artifacts }

def setJob (id : Nat) (f : Job → Job) : Db :=
  { db with jobs := adjust Job.id id f db.jobs }

def setUpload (id : Uuid) (f : LeadUpload → LeadUpload) : Db :=
  { db with uploads := adjust LeadUpload.id id f db.uploads }

/-- A change to the Lead of a phone, which is unique. -/
def editLead (phone : String) (f : Lead → Lead) : Db :=
  { db with leads := adjust Lead.phone phone f db.leads }

def setReport (id : Uuid) (f : LeadReport → LeadReport) : Db :=
  { db with reports := adjust LeadReport.id id f db.reports }

def setPublication (version : Nat) (f : DatasetPublication → DatasetPublication) : Db :=
  { db with publications := adjust DatasetPublication.version version f db.publications }

def setPurchase (session : String) (f : CreditPurchase → CreditPurchase) : Db :=
  { db with purchases := adjust CreditPurchase.stripeCheckoutSessionId session f db.purchases }

def setAgency (id : Nat) (f : Agency → Agency) : Db :=
  { db with agencies := adjust Agency.id id f db.agencies }

def setCustomer (id : Nat) (f : Customer → Customer) : Db :=
  { db with customers := adjust Customer.id id f db.customers }

end Db

end Jawnix
