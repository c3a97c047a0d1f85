import Jawnix.CustomerEndpoints
import Jawnix.Eligibility
import Jawnix.ReportResolutions

/-!
# Eligibility Holds along runs

A Customer's feedback files Lead Reports and holds Leads back, a report of its own
holds nothing, and only an administrator's resolution releases a hold. A hold is active for exactly the open
reports that came from a disposition which holds.
-/
namespace Jawnix

inductive FeedbackOp where
  | feedback (userId : Uuid) (payload : FeedbackCreate) (ids : FeedbackIds) (now : Instant)
  | report (userId : Uuid) (eventId : Nat) (reason : ReportReason) (details : String) (id : Uuid)
      (now : Instant)
  | resolve (reportId : Uuid) (resolution : Resolution)

def feedbackStep (db : Db) : FeedbackOp → Db
  | .feedback userId payload ids now => commit db (createFeedback db userId payload ids now)
  | .report userId eventId reason details id now =>
    commit db ((createLeadReport db userId eventId reason details id now).map Prod.fst)
  | .resolve reportId resolution => (resolveLeadReport db reportId resolution).1

/-- The report came from a disposition that holds its Lead. -/
def Db.holding (db : Db) (report : LeadReport) : Bool :=
  (report.sourceTransitionId.bind db.transition?).any fun t => t.disposition.holds

def Db.HeldFor (db : Db) (leadId : Nat) (report : LeadReport) : Prop :=
  ∃ hold ∈ db.eligibilityHolds, hold.leadId = leadId ∧ hold.reportId = some report.id ∧ hold.active
  deriving Decidable

structure Tracked (db : Db) : Prop where
  events : Keyed DistributionEvent.id db.events
  reports : Keyed LeadReport.id db.reports
  holds : Keyed EligibilityHold.id db.eligibilityHolds
  single : ∀ a ∈ db.eligibilityHolds, ∀ b ∈ db.eligibilityHolds, ∀ id, a.reportId = some id →
    b.reportId = some id → a = b
  sources : ∀ report ∈ db.reports, ∀ id, report.sourceTransitionId = some id →
    ∃ t, db.transition? id = some t
  owners : ∀ hold ∈ db.eligibilityHolds, ∀ id, hold.reportId = some id →
    ∃ report, db.report? id = some report ∧
      ∃ event, db.event? report.distributionEventId = some event ∧ hold.leadId = event.leadId
  active : ∀ hold ∈ db.eligibilityHolds, ∀ id report, hold.reportId = some id →
    db.report? id = some report → hold.active → report.status = .opened ∧ db.holding report
  held : ∀ id report, db.report? id = some report → report.status = .opened → db.holding report →
    ∃ hold ∈ db.eligibilityHolds, hold.reportId = some id ∧ hold.active

section
variable {db : Db} {report : LeadReport} {action : ReportStatus} {after : Db}
  {event : DistributionEvent} {ids : FeedbackIds} {reportId : Uuid} {hold : EligibilityHold}

theorem Tracked.aside (tracked : Tracked db) (leads : List Lead) (corrections : List LeadCorrectionEvent)
    (outcomes : List LeadOutcome) (dispositionStates : List LeadDispositionState) :
    Tracked { db with leads, corrections, outcomes, dispositionStates } :=
  { tracked with }

theorem mem_released (tracked : Tracked db)
    (member : hold ∈ (releaseReportHold db reportId).eligibilityHolds) :
    ∃ before ∈ db.eligibilityHolds, hold.id = before.id ∧ hold.leadId = before.leadId ∧
    hold.reportId = before.reportId ∧
    (hold.active → hold = before ∧ before.reportId ≠ some reportId) := by
  unfold releaseReportHold at member
  split at member
  case h_1 none =>
    refine ⟨hold, member, rfl, rfl, rfl, fun active => ⟨rfl, fun named => ?_⟩⟩
    have inactive := find?_eq_none.mp none hold member
    exact inactive (and_eq_true_iff.mpr ⟨decide_eq_true named, active⟩)
  case h_2 released found =>
  have stored := mem_of_find?_eq_some found
  have named := find?_some found
  rw [and_eq_true, decide_eq_true_eq] at named
  rcases mem_adjust.mp member with ⟨before, inside, _, rfl⟩ | ⟨inside, other⟩
  · exact ⟨before, inside, rfl, rfl, rfl, nofun⟩
  refine ⟨hold, inside, rfl, rfl, rfl, fun _ => ⟨rfl, fun same => other ?_⟩⟩
  rw [tracked.single hold inside released stored reportId same named.1]

theorem released_mem (tracked : Tracked db) (member : hold ∈ db.eligibilityHolds)
    (other : hold.reportId ≠ some reportId) : hold ∈ (releaseReportHold db reportId).eligibilityHolds := by
  unfold releaseReportHold
  split
  · exact member
  case h_2 released found =>
  have named := find?_some found
  rw [and_eq_true, decide_eq_true_eq] at named
  refine mem_adjust.mpr (.inr ⟨member, fun same => other ?_⟩)
  rw [eq_of_mem_of_key tracked.holds member (mem_of_find?_eq_some found) same]
  exact named.1

theorem releaseReportHold_keyed (keyed : Keyed EligibilityHold.id db.eligibilityHolds) (reportId : Uuid) :
    Keyed EligibilityHold.id (releaseReportHold db reportId).eligibilityHolds := by
  unfold releaseReportHold
  split
  · exact keyed
  · exact keyed_adjust (fun _ _ => rfl) keyed

def LeadReport.closed (action : ReportStatus) (report : LeadReport) : LeadReport :=
  { report with status := action }

theorem closeReport_eq (db : Db) (reportId : Uuid) (action : ReportStatus) :
    closeReport db reportId action = { db with
      eligibilityHolds := (releaseReportHold db reportId).eligibilityHolds
      reports := adjust LeadReport.id reportId (LeadReport.closed action) db.reports } := by
  obtain ⟨eligibilityHolds, released⟩ := releaseReportHold_frame db reportId
  unfold closeReport
  rw [released]
  rfl

theorem report?_closeReport (db : Db) (reportId id : Uuid) (action : ReportStatus) :
    (closeReport db reportId action).report? id =
    if id = reportId then (db.report? id).map (LeadReport.closed action) else db.report? id := by
  rw [closeReport_eq]
  exact lookup_adjust fun _ _ => rfl

theorem report?_closed_some {id : Uuid} {r : LeadReport}
    (found : (closeReport db reportId action).report? id = some r) :
    (id = reportId ∧ r.status = action) ∨ (id ≠ reportId ∧ db.report? id = some r) := by
  rw [report?_closeReport] at found
  split at found
  case isTrue here =>
    obtain ⟨before, _, rfl⟩ := map_eq_some_iff.mp found
    exact .inl ⟨here, rfl⟩
  case isFalse other => exact .inr ⟨other, found⟩

theorem Tracked.close (tracked : Tracked db) (reportId : Uuid) (closes : action ≠ .opened) :
    Tracked (closeReport db reportId action) := by
  have tables := closeReport_eq db reportId action
  have lookups := fun {id r} => @report?_closed_some db action reportId id r
  have transitions : ∀ id, (closeReport db reportId action).transition? id = db.transition? id :=
    fun id => by rw [tables]; rfl
  have holding : ∀ r, (closeReport db reportId action).holding r = db.holding r :=
    fun r => by rw [tables]; rfl
  have holds : (closeReport db reportId action).eligibilityHolds =
    (releaseReportHold db reportId).eligibilityHolds := by
    rw [tables]
  refine ⟨?_, ?_, ?_, ?_, ?_, ?_, ?_, ?_⟩
  · rw [tables]
    exact tracked.events
  · rw [tables]
    exact keyed_adjust (fun _ _ => rfl) tracked.reports
  · rw [holds]
    exact releaseReportHold_keyed tracked.holds reportId
  · rw [holds]
    intro a inA b inB id namesA namesB
    obtain ⟨beforeA, insideA, sameA, _, reportA, _⟩ := mem_released tracked inA
    obtain ⟨beforeB, insideB, sameB, _, reportB, _⟩ := mem_released tracked inB
    have same := tracked.single beforeA insideA beforeB insideB id (reportA ▸ namesA) (reportB ▸ namesB)
    refine eq_of_mem_of_key (releaseReportHold_keyed tracked.holds reportId) inA inB ?_
    rw [sameA, sameB, same]
  · intro r member id named
    rw [tables] at member
    rw [transitions]
    rcases mem_adjust.mp member with ⟨before, inside, _, rfl⟩ | ⟨inside, _⟩
    · exact tracked.sources before inside id named
    · exact tracked.sources r inside id named
  · rw [holds]
    intro hold member id named
    obtain ⟨before, inside, _, lead, report, _⟩ := mem_released tracked member
    obtain ⟨r, found, event, delivered, same⟩ := tracked.owners before inside id (report ▸ named)
    have events : ∀ n, (closeReport db reportId action).event? n = db.event? n :=
      fun n => by rw [tables]; rfl
    rw [report?_closeReport, lead]
    split
    · exact ⟨r.closed action, by rw [found]; rfl, event, (events _).trans delivered, same⟩
    · exact ⟨r, found, event, (events _).trans delivered, same⟩
  · rw [holds]
    intro hold member id r named found active
    obtain ⟨before, inside, _, _, _, kept⟩ := mem_released tracked member
    obtain ⟨rfl, other⟩ := kept active
    rcases lookups found with ⟨rfl, _⟩ | ⟨_, found⟩
    · exact absurd named other
    rw [holding]
    exact tracked.active hold inside id r named found active
  intro id r found isOpen held
  rcases lookups found with ⟨_, status⟩ | ⟨other, found⟩
  · exact absurd (status.symm.trans isOpen) closes
  rw [holding] at held
  obtain ⟨hold, inside, named, active⟩ := tracked.held id r found isOpen held
  rw [holds]
  refine ⟨hold, released_mem tracked inside fun same => other ?_, named, active⟩
  exact some.inj (named.symm.trans same)

end

section
variable {db : Db} {t : LeadDispositionTransition} {userId : Uuid} {payload : FeedbackCreate}
  {now : Instant}

theorem holding_append (tracked : Tracked db) {report : LeadReport} (member : report ∈ db.reports) :
    ({ db with transitions := db.transitions ++ [t] } : Db).holding report = db.holding report := by
  unfold Db.holding
  cases source : report.sourceTransitionId with
  | none => rfl
  | some id =>
    obtain ⟨s, found⟩ := tracked.sources report member id source
    have still : ({ db with transitions := db.transitions ++ [t] } : Db).transition? id = some s :=
      Rows.lookup_append_some found t
    rw [bind_some, bind_some, found, still]

theorem Tracked.transition (tracked : Tracked db) (t : LeadDispositionTransition) :
    Tracked { db with transitions := db.transitions ++ [t] } := by
  refine ⟨tracked.events, tracked.reports, tracked.holds, tracked.single,
    fun report member id named => ?_, tracked.owners,
    fun hold member id report named found active => ?_, fun id report found isOpen held => ?_⟩
  · obtain ⟨s, found⟩ := tracked.sources report member id named
    exact ⟨s, Rows.lookup_append_some found t⟩
  · rw [holding_append tracked (lookup_some found).1]
    exact tracked.active hold member id report named found active
  · rw [holding_append tracked (lookup_some found).1] at held
    exact tracked.held id report found isOpen held

theorem mem_if_singleton {α : Type} {b : Bool} {x y : α} : x ∈ (if b then [y] else []) ↔ b ∧ x = y := by
  cases b <;> simp

theorem Tracked.file (tracked : Tracked db) (report : LeadReport) (hold : EligibilityHold)
    (sourced : ∀ id, report.sourceTransitionId = some id → ∃ t, db.transition? id = some t)
    (absent : db.report? report.id = none) (delivered : db.event? report.distributionEventId = some event)
    (isOpen : report.status = .opened) (leadId : hold.leadId = event.leadId)
    (reportId : hold.reportId = some report.id) (active : hold.active)
    (new : db.holding report → ∀ h ∈ db.eligibilityHolds, h.id ≠ hold.id) :
    Tracked { db with
      reports := db.reports ++ [report]
      eligibilityHolds := db.eligibilityHolds ++ if db.holding report then [hold] else [] } := by
  have looked : ∀ id, lookup LeadReport.id id (db.reports ++ [report]) =
      if report.id = id then some report else db.report? id := lookup_append_new absent rfl
  have unowned : ∀ h ∈ db.eligibilityHolds, h.reportId ≠ some report.id := by
    intro h member named
    obtain ⟨r, found, _⟩ := tracked.owners h member report.id named
    rw [absent] at found
    cases found
  refine ⟨tracked.events, keyed_append.mpr ⟨tracked.reports, lookup_none.mp absent⟩, ?_, ?_, ?_, ?_, ?_, ?_⟩
  · cases held : db.holding report with
    | false => simpa using tracked.holds
    | true => exact keyed_append.mpr ⟨tracked.holds, new held⟩
  · intro a inA b inB id namesA namesB
    rcases mem_append.mp inA with oldA | newA <;> rcases mem_append.mp inB with oldB | newB
    · exact tracked.single a oldA b oldB id namesA namesB
    · obtain ⟨_, rfl⟩ := mem_if_singleton.mp newB
      exact absurd (namesA.trans (namesB.symm.trans reportId)) (unowned a oldA)
    · obtain ⟨_, rfl⟩ := mem_if_singleton.mp newA
      exact absurd (namesB.trans (namesA.symm.trans reportId)) (unowned b oldB)
    · rw [(mem_if_singleton.mp newA).2, (mem_if_singleton.mp newB).2]
  · intro r member id named
    rcases mem_append.mp member with old | here
    · exact tracked.sources r old id named
    rw [mem_singleton.mp here] at named
    exact sourced id named
  · intro h member id named
    change ∃ r, lookup LeadReport.id id (db.reports ++ [report]) = some r ∧ _
    rw [looked]
    rcases mem_append.mp member with old | here
    · have other : report.id ≠ id := fun same => unowned h old (same ▸ named)
      rw [if_neg other]
      exact tracked.owners h old id named
    obtain ⟨_, rfl⟩ := mem_if_singleton.mp here
    rw [reportId] at named
    cases named
    exact ⟨report, if_pos rfl, event, delivered, leadId⟩
  · intro h member id r named found held
    change lookup LeadReport.id id (db.reports ++ [report]) = some r at found
    rw [looked] at found
    rcases mem_append.mp member with old | here
    · have other : report.id ≠ id := fun same => unowned h old (same ▸ named)
      rw [if_neg other] at found
      exact tracked.active h old id r named found held
    obtain ⟨holding, rfl⟩ := mem_if_singleton.mp here
    rw [reportId] at named
    cases named
    rw [if_pos rfl] at found
    cases found
    exact ⟨isOpen, holding⟩
  intro id r found opened held
  change lookup LeadReport.id id (db.reports ++ [report]) = some r at found
  rw [looked] at found
  split at found
  case isTrue here =>
    cases found
    exact ⟨hold, mem_append_right _ (mem_if_singleton.mpr ⟨held, rfl⟩), here ▸ reportId, active⟩
  case isFalse other =>
  obtain ⟨h, inside, named, still⟩ := tracked.held id r found opened held
  exact ⟨h, mem_append_left _ inside, named, still⟩

theorem customerDistribution_stored {eventId customerId : Nat}
    (done : customerDistribution db userId eventId = .ok (customerId, event)) : event ∈ db.events := by
  obtain ⟨profile, _, rest⟩ := bind_ok done
  split at rest
  · cases rest
  split at rest
  · cases rest
  case h_2 stored =>
  cases rest
  exact mem_of_find?_eq_some stored

theorem customerFeedbackDistribution_stored {eventId customerId : Nat}
    (done : customerFeedbackDistribution db userId eventId = .ok (customerId, event)) :
    event ∈ db.events := by
  unfold customerFeedbackDistribution at done
  split at done
  · cases done
  exact customerDistribution_stored done

theorem Tracked.report (tracked : Tracked db) {eventId : Nat} {reason : ReportReason}
    {details : String} {id : Uuid} {answer : Disclosure}
    (done : createLeadReport db userId eventId reason details id now = .ok (after, answer)) :
    Tracked after := by
  obtain ⟨⟨customerId, event⟩, own, rest⟩ := bind_ok done
  obtain ⟨filed, files, last⟩ := bind_ok rest
  cases last
  obtain ⟨absent, files⟩ := guard_ok files
  cases files
  -- without a transition nothing is held, so any hold will do
  have file := tracked.file
    { id, distributionEventId := event.id, customerId, reason, details := strip details, createdAt := now }
    { id := 0, leadId := event.leadId, reportId := some id } (by simp) (not_isSome_iff_eq_none.mp absent)
    (lookup_of_mem tracked.events (customerDistribution_stored own)) rfl rfl rfl rfl
    (by simp [Db.holding])
  simpa [Db.holding] using file

theorem createFeedback_ok (done : createFeedback db userId payload ids now = .ok after) :
    ∃ event ∈ db.events, ∃ t outcomes controlled dispositionStates,
    t.distributionEventId = event.id ∧ db.transition? t.id = none ∧
      applyDispositionControls { db with transitions := db.transitions ++ [t], outcomes } event t
      ids = .ok controlled ∧
      after = { controlled with dispositionStates } := by
  obtain ⟨⟨customerId, event⟩, delivered, rest⟩ := bind_ok done
  dsimp only at rest
  split at rest
  · cases rest
  obtain ⟨recorded, inserts, rest⟩ := bind_ok rest
  obtain ⟨rated, rates, rest⟩ := bind_ok rest
  obtain ⟨controlled, controls, last⟩ := bind_ok rest
  cases last
  obtain ⟨new, inserts⟩ := guard_ok inserts
  split at inserts
  · cases inserts
  cases inserts
  obtain ⟨outcomes, rfl⟩ := insertRating_frame rates
  obtain ⟨dispositionStates, placed⟩ := setDisposition_frame controlled
    (feedbackTransition db event.id customerId userId payload ids.transition now)
  refine ⟨event, customerFeedbackDistribution_stored delivered, _, outcomes, controlled,
    dispositionStates, rfl, lookup_none.mpr fun x inside same => new ?_, controls, placed⟩
  exact same ▸ mem_map_of_mem inside

theorem Tracked.controls (tracked : Tracked db) (stored : event ∈ db.events)
    (new : db.transition? t.id = none)
    (done : applyDispositionControls { db with transitions := db.transitions ++ [t] } event t ids =
      .ok after) :
    Tracked after := by
  have mid := tracked.transition t
  have source : ({ db with transitions := db.transitions ++ [t] } : Db).transition? t.id = some t :=
    (lookup_append_new new rfl t.id).trans (if_pos rfl)
  have unfiled : db.reports.find? (fun r => r.sourceTransitionId = some t.id) = none := by
    refine find?_eq_none.mpr fun r member named => ?_
    obtain ⟨s, found⟩ := tracked.sources r member t.id (of_decide_eq_true named)
    rw [new] at found
    cases found
  unfold applyDispositionControls at done
  split at done
  · cases done
    exact mid
  case h_2 reason _ =>
  obtain ⟨⟨filed, report⟩, files, rest⟩ := bind_ok done
  unfold reportFor at files
  rw [unfiled] at files
  obtain ⟨inserted, inserts, last⟩ := bind_ok files
  cases last
  obtain ⟨absent, inserts⟩ := guard_ok inserts
  cases inserts
  have holding : ({ db with transitions := db.transitions ++ [t] } : Db).holding
      (dispositionReport event t reason ids.report) = t.disposition.holds := by
    change (Option.any _ (Db.transition? _ t.id)) = _
    rw [source]
    rfl
  have file := mid.file (dispositionReport event t reason ids.report)
    (dispositionHold event t ids.report ids.hold) (fun _ named => ⟨t, some.inj named ▸ source⟩)
    (not_isSome_iff_eq_none.mp absent) (lookup_of_mem tracked.events stored) rfl rfl rfl rfl
  rw [holding] at file
  dsimp only at rest
  split at rest
  case isTrue holds =>
    rw [if_pos holds] at file
    unfold holdFor at rest
    split at rest
    case h_1 hold found =>
      -- the identity of the new report is not in use
      have named := find?_some found
      obtain ⟨r, isReport, _⟩ :=
        tracked.owners hold (mem_of_find?_eq_some found) ids.report (of_decide_eq_true named)
      exact absurd (Option.isSome_of_eq_some isReport) absent
    · unfold insertEligibilityHold at rest
      obtain ⟨new, rest⟩ := guard_ok rest
      cases rest
      exact file fun _ h inside same => new (same ▸ mem_map_of_mem inside)
  case isFalse holds =>
  cases rest
  rw [if_neg holds, append_nil] at file
  exact file fun held => absurd held holds

theorem Tracked.feedback (tracked : Tracked db)
    (done : createFeedback db userId payload ids now = .ok after) : Tracked after := by
  obtain ⟨event, stored, t, outcomes, controlled, dispositionStates, _, new, controls, rfl⟩ :=
    createFeedback_ok done
  have aside := tracked.aside db.leads db.corrections outcomes db.dispositionStates
  exact (aside.controls stored new controls).aside controlled.leads controlled.corrections
    controlled.outcomes dispositionStates

theorem applyDispositionControls_reports {id : Uuid} {report : LeadReport}
    (done : applyDispositionControls db event t ids = .ok after)
    (found : db.report? id = some report) : after.report? id = some report := by
  unfold applyDispositionControls at done
  split at done
  · cases done
    exact found
  obtain ⟨⟨filed, filedReport⟩, files, rest⟩ := bind_ok done
  have kept : filed.report? id = some report := by
    unfold reportFor at files
    split at files
    · cases files
      exact found
    obtain ⟨inserted, inserts, last⟩ := bind_ok files
    cases last
    unfold insertReport at inserts
    split at inserts
    · cases inserts
    cases inserts
    exact Rows.lookup_append_some found _
  dsimp only at rest
  split at rest
  · unfold holdFor at rest
    split at rest
    · cases rest
      exact kept
    unfold insertEligibilityHold at rest
    split at rest
    · cases rest
    cases rest
    exact kept
  · cases rest
    exact kept

end

section
variable {db : Db}

theorem Tracked.step (db : Db) (op : FeedbackOp) (tracked : Tracked db) : Tracked (feedbackStep db op) := by
  cases op with
  | feedback userId payload ids now => exact commit_cases tracked fun _ done => tracked.feedback done
  | report userId eventId reason details id now =>
    refine commit_cases tracked fun after done => ?_
    obtain ⟨answer, done⟩ := map_fst_ok done
    exact tracked.report done
  | resolve reportId resolution =>
  rcases resolveLeadReport_cases db reportId resolution with
    ⟨fault, refused⟩ | ⟨report, leads, corrections, _, _, done⟩
  · rw [feedbackStep, refused]
    exact tracked
  rw [feedbackStep, done]
  have closed := tracked.close report.id (resolution_action_closes resolution)
  exact closed.aside leads corrections _ _

theorem feedbackStep_resolved {op : FeedbackOp} {id : Uuid} {report : LeadReport}
    (found : db.report? id = some report) (resolved : report.status ≠ .opened) :
    (feedbackStep db op).report? id = some report := by
  cases op with
  | feedback userId payload ids now =>
    refine commit_cases (P := fun d : Db => d.report? id = some report) found fun after done => ?_
    obtain ⟨event, _, t, outcomes, controlled, dispositionStates, _, _, controls, rfl⟩ :=
      createFeedback_ok done
    have kept := applyDispositionControls_reports controls found
    exact kept
  | report userId eventId reason details newId now =>
    refine commit_cases (P := fun d : Db => d.report? id = some report) found fun after done => ?_
    obtain ⟨answer, done⟩ := map_fst_ok done
    obtain ⟨_, _, rest⟩ := bind_ok done
    obtain ⟨filed, files, last⟩ := bind_ok rest
    cases last
    obtain ⟨_, files⟩ := guard_ok files
    cases files
    exact Rows.lookup_append_some found _
  | resolve reportId resolution =>
  rcases resolveLeadReport_cases db reportId resolution with
    ⟨fault, refused⟩ | ⟨other, leads, corrections, stored, isOpen, done⟩
  · rw [feedbackStep, refused]
    exact found
  rw [feedbackStep, done]
  change (closeReport db other.id resolution.action).report? id = some report
  rw [report?_closeReport, if_neg, found]
  rintro rfl
  have same : other.id = reportId := (lookup_some stored).2
  rw [same, stored] at found
  exact resolved (some.inj found ▸ isOpen)

/-- A hold is active for a report, on the Lead of the reported delivery, exactly while the report is
open and holds. -/
theorem Tracked.heldFor_iff (tracked : Tracked db) {report : LeadReport}
    (stored : report ∈ db.reports) (delivered : db.event? report.distributionEventId = some event) :
    db.HeldFor event.leadId report ↔ report.status = .opened ∧ db.holding report := by
  have found : db.report? report.id = some report := lookup_of_mem tracked.reports stored
  constructor
  · rintro ⟨hold, member, _, named, active⟩
    exact tracked.active hold member report.id report named found active
  rintro ⟨isOpen, holding⟩
  obtain ⟨hold, member, named, active⟩ := tracked.held report.id report found isOpen holding
  obtain ⟨r, isReport, e, isEvent, lead⟩ := tracked.owners hold member report.id named
  cases found.symm.trans isReport
  cases delivered.symm.trans isEvent
  exact ⟨hold, member, lead, named, active⟩

end

theorem Tracked.of_unreported {db : Db} (events : Keyed DistributionEvent.id db.events)
    (reports : db.reports = []) (holds : db.eligibilityHolds = []) : Tracked db := by
  refine ⟨events, ?_, ?_, ?_, ?_, ?_, ?_, fun id report found => ?_⟩
  · rw [reports]
    exact keyed_nil _
  · rw [holds]
    exact keyed_nil _
  · rw [holds]
    exact fun a inA => (nomatch inA)
  · rw [reports]
    exact fun r member => (nomatch member)
  · rw [holds]
    exact fun hold member => (nomatch member)
  · rw [holds]
    exact fun hold member => (nomatch member)
  · rw [Db.report?, reports] at found
    cases found

def feedbackRun (db : Db) (ops : List FeedbackOp) : Db := run feedbackStep db ops

/-- Whatever Customers report and administrators decide: a Lead is held for a
report exactly while the report is open and came from a disposition that holds, a
resolved report holds nothing ever after, no eligible Lead is held, and a refused
resolution changes nothing. -/
theorem holds_track_open_reports {db : Db} (start : Tracked db) (ops : List FeedbackOp) :
    let s := feedbackRun db ops
    (∀ report ∈ s.reports, ∀ event, s.event? report.distributionEventId = some event →
        (s.HeldFor event.leadId report ↔ report.status = .opened ∧ s.holding report = true)) ∧
      (∀ report ∈ s.reports, report.status ≠ .opened → ∀ later leadId,
        (feedbackRun s later).report? report.id = some report ∧
          ¬(feedbackRun s later).HeldFor leadId report) ∧
      (∀ casing request customer instant, ∀ row ∈ eligibleQuery casing s request customer instant,
        ∀ hold ∈ s.eligibilityHolds, hold.leadId = row.lead.id → hold.active = false) ∧
      ∀ reportId resolution fault, (resolveLeadReport s reportId resolution).2 = .error fault →
        (resolveLeadReport s reportId resolution).1 = s := by
  intro s
  have tracked : Tracked s := run_invariant Tracked.step start ops
  refine ⟨fun report stored event delivered => tracked.heldFor_iff stored delivered,
    fun report stored resolved later leadId => ?_,
    fun casing request customer instant row admitted hold member same => by
      simpa [same] using any_eq_false.mp (eligibleQuery_clear admitted).2.2 hold member,
    fun reportId resolution fault refused => ?_⟩
  rotate_left
  · rcases resolveLeadReport_cases s reportId resolution with ⟨_, answer⟩ | ⟨_, _, _, _, _, answer⟩
    · rw [answer]
    · cases answer ▸ refused
  have found : s.report? report.id = some report := lookup_of_mem tracked.reports stored
  -- both the report and the invariant survive whatever follows
  have kept := run_invariant (I := fun d : Db => Tracked d ∧ d.report? report.id = some report)
    (fun d op both => ⟨Tracked.step d op both.1, feedbackStep_resolved both.2 resolved⟩)
      ⟨tracked, found⟩ later
  refine ⟨kept.2, ?_⟩
  rintro ⟨hold, member, _, named, active⟩
  exact resolved (kept.1.active hold member report.id report named kept.2 active).1

def deliveredTwice : Db :=
  { customers := [{ id := 1 }, { id := 2 }]
    profiles := [{ userId := 8, customerId := some 1 }, { userId := 9, customerId := some 2 }]
    leads := [{ id := 3, phone := "5125550100", state := "TX" }]
    events :=
      [{ id := 5, leadId := 3, customerId := some 1, agencyId := none, requestId := none, deliveredAt := 0 },
      { id := 6, leadId := 3, customerId := some 2, agencyId := none, requestId := none,
        deliveredAt := 0 }] }

def reportedTwice : List FeedbackOp :=
  [.feedback 8 { distributionEventId := 5, disposition := .invalidPhone } ⟨11, 12, 13, 14⟩ 1,
    .feedback 9 { distributionEventId := 6, disposition := .doNotContact } ⟨21, 22, 23, 24⟩ 2,
    .feedback 8 { distributionEventId := 5, disposition := .positiveResponse } ⟨31, 32, 33, 34⟩ 3,
    .report 8 5 .other "Closed for good" 43 4, .resolve 13 .dismiss]

theorem holds_track_open_reports_twice :
    let s := feedbackRun deliveredTwice reportedTwice
    s.reports.map (fun r => (r.id, r.status)) = [(13, .dismissed), (23, .opened), (43, .opened)] ∧
      s.eligibilityHolds.map (fun h => (h.reportId, h.active)) = [(some 13, false), (some 23, true)] ∧
      ∀ casing request customer instant, ∀ row ∈ eligibleQuery casing s request customer instant,
        ∀ hold ∈ s.eligibilityHolds, hold.leadId = row.lead.id → hold.active = false :=
  ⟨by decide +kernel, by decide +kernel,
    (holds_track_open_reports (Tracked.of_unreported (by decide) rfl rfl) reportedTwice).2.2.1⟩

/-- A wrong business is reported, and the Lead stays eligible. -/
theorem wrong_business_reports_without_holding :
    let db :=
      feedbackRun deliveredTwice
      [.feedback 8 { distributionEventId := 5, disposition := .wrongBusiness } ⟨11, 12, 13, 14⟩ 1]
    db.reports.map (fun r => (r.id, r.distributionEventId, r.status)) = [(13, 5, .opened)] ∧
      ∀ report ∈ db.reports, ¬db.HeldFor 3 report := by
  decide +kernel

end Jawnix
