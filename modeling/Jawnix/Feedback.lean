import Jawnix.CustomerAccess
import Mathlib.Data.List.Sort

/-!
# Customer feedback

`create_feedback` and the deprecated `create_outcome` of `api.py` with the controls
of `feedback.py`. A disposition extends the history of its Distribution Event; three
file a Lead Report and two of those hold the Lead back. A quality rating and the
milestones are outcomes, each of which replaces the active outcome of its metric.
-/
namespace Jawnix

inductive QualityRating where
  | good | poor

def QualityRating.kind : QualityRating → OutcomeKind
  | .good => .good
  | .poor => .poor

structure FeedbackCreate where
  distributionEventId : Nat
  disposition : Disposition
  note : String := ""
  qualityRating : Option QualityRating := none
  qualityNote : String := ""
  otherRequiresNote : disposition = .other → strip note ≠ "" := by decide

structure OutcomeCreate where
  kind : OutcomeKind
  appointmentAt : Option Instant := none
  note : String := ""
  supersedesOutcomeId : Option Uuid := none
  validAppointment : appointmentAt.isSome = decide (kind = .appointmentBooked) := by decide

structure FeedbackIds where
  transition : Uuid
  outcome : Uuid
  report : Uuid
  hold : Uuid

/-- `_OUTCOME_METRICS` -/
def OutcomeKind.metric : OutcomeKind → OutcomeMetric
  | .good | .poor => .quality
  | .positiveResponse => .positiveResponse
  | .appointmentBooked => .appointmentBooked
  | .appointmentCanceled => .appointmentCanceled
  | .appointmentNoShow => .appointmentNoShow

def recordedBefore (a b : LeadOutcome) : Prop :=
    a.createdAt < b.createdAt ∨ (a.createdAt = b.createdAt ∧ a.id ≤ b.id)
  deriving Decidable

variable (outcomes history : List LeadOutcome) (db : Db) (eventId : Nat) (event : DistributionEvent)
  (transition : LeadDispositionTransition)

def outcomeHistory (eventId : Nat) : List LeadOutcome :=
  (outcomes.filter fun o => o.distributionEventId = eventId).insertionSort recordedBefore

def ratingHistory (eventId : Nat) : List LeadOutcome :=
  (outcomes.filter fun o => o.distributionEventId = eventId && o.metric = .quality).insertionSort
    recordedBefore

def supersededIds : List Uuid := history.filterMap LeadOutcome.supersedesOutcomeId

def activeRating : Option LeadOutcome :=
  history.reverse.find? fun o => o.id ∉ supersededIds history

/-- The entry of `active_by_metric`, where a later outcome of a metric replaces an earlier one. -/
def activeByMetric (metric : OutcomeMetric) : Option LeadOutcome :=
  history.reverse.find? fun o => o.metric = metric && o.id ∉ supersededIds history

def ratingOutcome (eventId customerId : Nat) (userId : Uuid) (payload : FeedbackCreate) (id : Uuid)
    (now : Instant) : Option LeadOutcome :=
  payload.qualityRating.map (fun rating =>
    { id, distributionEventId := eventId, customerId, actorUserId := some userId,
      kind := rating.kind, metric := .quality
      note := strip payload.qualityNote
      supersedesOutcomeId := (activeRating (ratingHistory outcomes eventId)).map LeadOutcome.id,
        createdAt := now })

def bookFirst : String := "Book an appointment before reporting its later status."
def cannotSupersede : String := "The selected outcome cannot be superseded."

/-- `create_outcome` from the history it read. -/
def milestoneOutcome (eventId customerId : Nat) (userId : Uuid) (payload : OutcomeCreate)
    (id : Uuid) (now : Instant) : Except Fault LeadOutcome :=
  let outcome : LeadOutcome :=
    { id, distributionEventId := eventId, customerId, actorUserId := some userId, kind := payload.kind
      metric := payload.kind.metric, appointmentAt := payload.appointmentAt, note := strip payload.note
      supersedesOutcomeId := payload.supersedesOutcomeId, createdAt := now }
  if (payload.kind = .appointmentCanceled ∨ payload.kind = .appointmentNoShow) ∧
      activeByMetric history .appointmentBooked = none then .error (.http 409 bookFirst)
  else
    match payload.supersedesOutcomeId with
    | some superseded =>
      match history.find? (fun o => o.id = superseded) with
      | none => .error (.http 409 cannotSupersede)
      | some previous =>
        if previous.metric ≠ payload.kind.metric ∨ previous.id ∈ supersededIds history then
          .error (.http 409 cannotSupersede)
        else .ok outcome
    | none =>
      if (activeByMetric history payload.kind.metric).isSome then
        .error (.http 409 "This milestone is already recorded; submit a correction instead.")
      else .ok outcome

def insertOutcome (outcome : LeadOutcome) : Except Fault Db :=
  if outcome.id ∈ db.outcomes.map LeadOutcome.id then .error (.integrity "lead_outcomes_pkey")
  else .ok { db with outcomes := db.outcomes ++ [outcome] }

def insertRating : Option LeadOutcome → Except Fault Db
  | none => .ok db
  | some outcome => insertOutcome db outcome

theorem insertOutcome_frame {db after : Db} {outcome : LeadOutcome}
    (done : insertOutcome db outcome = .ok after) : ∃ outcomes, after = { db with outcomes } := by
  unfold insertOutcome at done
  split at done
  · cases done
  cases done
  exact ⟨_, rfl⟩

theorem insertRating_frame {db rated : Db} {outcome : Option LeadOutcome}
    (done : insertRating db outcome = .ok rated) : ∃ outcomes, rated = { db with outcomes } := by
  cases outcome with
  | none =>
    cases done
    exact ⟨_, rfl⟩
  | some outcome => exact insertOutcome_frame done

def createOutcome (userId : Uuid) (eventId : Nat) (payload : OutcomeCreate) (id : Uuid)
    (now : Instant) : Except Fault Db := do
  let (customerId, event) ← customerDistribution db userId eventId
  let outcome ← milestoneOutcome (outcomeHistory db.outcomes event.id) event.id customerId userId
    payload id now
  insertOutcome db outcome

/-- `REPORT_DISPOSITIONS` -/
def Disposition.reportReason : Disposition → Option ReportReason
  | .invalidPhone => some .invalidPhone
  | .wrongBusiness => some .wrongBusinessOrTitle
  | .doNotContact => some .doNotContactOrLegal
  | _ => none

/-- `HOLD_DISPOSITIONS` -/
def Disposition.holds (disposition : Disposition) : Bool :=
  decide (disposition ∈ [.invalidPhone, .doNotContact])

def latestTransition : Option LeadDispositionTransition :=
  ((db.transitions.filter fun t => t.distributionEventId = eventId).insertionSort (fun a b =>
    b.createdAt < a.createdAt ∨ (b.createdAt = a.createdAt ∧ b.id ≤ a.id))).head?

def insertTransition (transition : LeadDispositionTransition) : Except Fault Db :=
  if transition.id ∈ db.transitions.map LeadDispositionTransition.id then
    .error (.integrity "lead_disposition_transitions_pkey")
  else if transition.previousTransitionId.isSome ∧
      transition.previousTransitionId ∈
        db.transitions.map LeadDispositionTransition.previousTransitionId then
    .error (.integrity "lead_disposition_transitions_previous_transition_id_key")
  else .ok { db with transitions := db.transitions ++ [transition] }

def insertReport (report : LeadReport) : Except Fault Db :=
  if (db.report? report.id).isSome then .error (.integrity "lead_reports_pkey")
  else .ok { db with reports := db.reports ++ [report] }

def insertEligibilityHold (hold : EligibilityHold) : Except Fault Db :=
  if hold.id ∈ db.eligibilityHolds.map EligibilityHold.id then .error (.integrity "eligibility_holds_pkey")
  else .ok { db with eligibilityHolds := db.eligibilityHolds ++ [hold] }

def dispositionReport (reason : ReportReason) (id : Uuid) : LeadReport :=
  { id, distributionEventId := event.id, customerId := transition.customerId,
    sourceTransitionId := some transition.id
    reason, details := transition.note, createdAt := transition.createdAt }

def dispositionHold (reportId id : Uuid) : EligibilityHold :=
  { id, leadId := event.leadId, distributionEventId := some event.id, reportId := some reportId
    reason := transition.disposition }

/-- The Lead Report of a transition, which is looked up before it is made. -/
def reportFor (reason : ReportReason) (id : Uuid) : Except Fault (Db × LeadReport) :=
  match db.reports.find? (fun r => r.sourceTransitionId = some transition.id) with
  | some report => .ok (db, report)
  | none => do
    let inserted ← insertReport db (dispositionReport event transition reason id)
    .ok (inserted, dispositionReport event transition reason id)

def holdFor (report : LeadReport) (id : Uuid) : Except Fault Db :=
  match db.eligibilityHolds.find? (fun h => h.reportId = some report.id) with
  | some _ => .ok db
  | none => insertEligibilityHold db (dispositionHold event transition report.id id)

def applyDispositionControls (ids : FeedbackIds) : Except Fault Db :=
  match transition.disposition.reportReason with
  | none => .ok db
  | some reason => do
    let (filed, report) ← reportFor db event transition reason ids.report
    if transition.disposition.holds then holdFor filed event transition report ids.hold else .ok filed

def setDisposition : Db :=
  let state : LeadDispositionState :=
    { distributionEventId := transition.distributionEventId, currentTransitionId := transition.id
      currentDisposition := transition.disposition, updatedAt := transition.createdAt }
  if transition.distributionEventId ∈ db.dispositionStates.map LeadDispositionState.distributionEventId then
    { db with
      dispositionStates := adjust LeadDispositionState.distributionEventId transition.distributionEventId
        (fun _ => state) db.dispositionStates }
  else { db with dispositionStates := db.dispositionStates ++ [state] }

theorem setDisposition_frame :
    ∃ dispositionStates, setDisposition db transition = { db with dispositionStates } := by
  unfold setDisposition
  split <;> exact ⟨_, rfl⟩

def hasBooked : Bool :=
  db.transitions.any fun t => t.distributionEventId = eventId && t.disposition = .appointmentBooked

def feedbackTransition (customerId : Nat) (userId : Uuid) (payload : FeedbackCreate) (id : Uuid)
    (now : Instant) : LeadDispositionTransition :=
  { id, distributionEventId := eventId, customerId, actorUserId := userId, disposition := payload.disposition
    note := strip payload.note
    previousTransitionId := (latestTransition db eventId).map LeadDispositionTransition.id,
      createdAt := now }

def createFeedback (userId : Uuid) (payload : FeedbackCreate) (ids : FeedbackIds) (now : Instant) :
    Except Fault Db := do
  let (customerId, event) ← customerFeedbackDistribution db userId payload.distributionEventId
  if (payload.disposition = .appointmentCanceled ∨ payload.disposition = .appointmentNoShow) ∧
      hasBooked db event.id = false then .error (.http 409 bookFirst)
  else
    let transition := feedbackTransition db event.id customerId userId payload ids.transition now
    let recorded ← insertTransition db transition
    let rated ← insertRating recorded
      (ratingOutcome db.outcomes event.id customerId userId payload ids.outcome now)
    let controlled ← applyDispositionControls rated event transition ids
    .ok (setDisposition controlled transition)

section
variable {db after : Db} {report : LeadReport} {event : DistributionEvent}
  {transition : LeadDispositionTransition}

theorem insertReport_frame (done : insertReport db report = .ok after) :
    ∃ reports, after = { db with reports } := by
  unfold insertReport at done
  split at done
  · cases done
  cases done
  exact ⟨_, rfl⟩

theorem applyDispositionControls_frame {ids : FeedbackIds}
    (done : applyDispositionControls db event transition ids = .ok after) :
    ∃ reports eligibilityHolds, after = { db with reports, eligibilityHolds } := by
  unfold applyDispositionControls at done
  split at done
  · cases done
    exact ⟨_, _, rfl⟩
  obtain ⟨⟨filed, report⟩, files, rest⟩ := bind_ok done
  obtain ⟨reports, rfl⟩ : ∃ reports, filed = { db with reports } := by
    unfold reportFor at files
    split at files
    · cases files
      exact ⟨_, rfl⟩
    obtain ⟨inserted, inserts, last⟩ := bind_ok files
    cases last
    exact insertReport_frame inserts
  dsimp only at rest
  split at rest
  · unfold holdFor insertEligibilityHold at rest
    split at rest
    · cases rest
      exact ⟨_, _, rfl⟩
    split at rest
    · cases rest
    cases rest
    exact ⟨_, _, rfl⟩
  · cases rest
    exact ⟨_, _, rfl⟩

theorem createFeedback_frame {userId : Uuid} {payload : FeedbackCreate} {ids : FeedbackIds}
    {now : Instant} (done : createFeedback db userId payload ids now = .ok after) :
    ∃ transitions outcomes reports eligibilityHolds dispositionStates,
      after = { db with transitions, outcomes, reports, eligibilityHolds, dispositionStates } := by
  obtain ⟨⟨customerId, event⟩, _, rest⟩ := bind_ok done
  dsimp only at rest
  split at rest
  · cases rest
  obtain ⟨recorded, inserts, rest⟩ := bind_ok rest
  obtain ⟨rated, rates, rest⟩ := bind_ok rest
  obtain ⟨controlled, controls, last⟩ := bind_ok rest
  cases last
  unfold insertTransition at inserts
  split at inserts
  · cases inserts
  split at inserts
  · cases inserts
  cases inserts
  obtain ⟨outcomes, rfl⟩ := insertRating_frame rates
  obtain ⟨reports, holds, rfl⟩ := applyDispositionControls_frame controls
  obtain ⟨states, same⟩ := setDisposition_frame
    { db with
      transitions :=
        db.transitions ++
        [feedbackTransition db event.id customerId userId payload ids.transition now]
      outcomes, reports, eligibilityHolds := holds }
    (feedbackTransition db event.id customerId userId payload ids.transition now)
  exact ⟨_, _, _, _, _, same⟩

end

end Jawnix
