import Jawnix.Recommendations

/-!
# One decision, two channels

The browser passes the evidence checksum it showed to `decide_recommendation`; the
Telegram job compares the configuration version it was rendered with and drops the
checksum, and its actor is no UUID.
-/
namespace Jawnix

def ScraperConfiguration.content (configuration : ScraperConfiguration) : ScraperConfiguration :=
  { configuration with createdBy := 0, reason := "" }

def Db.decisionView (db : Db) (id : Uuid) : Option RecommendationStatus × List ScraperConfiguration :=
  ((db.recommendation? id).map SourceRecommendation.status,
    db.configurations.map ScraperConfiguration.content)

structure Awaits (db : Db) (id : Uuid) (action : String) (recommendation : SourceRecommendation) : Prop where
  action : action ∈ ["approve", "deny"]
  found : db.recommendation? id = some recommendation
  pending : recommendation.status = .pending

variable (settings : RecommendationSettings) (platform : SegmentPlatform)

/-- The decision finds the recommendation stale, denies it, approves it in the shadow, or is refused
after it has replaced a schedule. -/
def Effective (db : Db) (recommendation : SourceRecommendation) (action : String) : Prop :=
  recommendation.isStale db.latestConfiguration? ∨ action = "deny" ∨ settings.shadowMode ∨
    settings.applyEnabled = false ∨
    Unfounded db recommendation ∧ ∃ configuration ∈ db.configurations, configuration.status = .scheduled

def Creates (db : Db) (recommendation : SourceRecommendation) : Prop :=
  ∃ latest ∈ db.latestConfiguration?, ∃ segments, nextSegments platform latest recommendation = .ok segments

def effectView (db : Db) (recommendation : SourceRecommendation) (action : String) :
    Option RecommendationStatus × List ScraperConfiguration :=
  if recommendation.isStale db.latestConfiguration? then
    (some .stale, db.configurations.map ScraperConfiguration.content)
  else if action = "deny" then (some .denied, db.configurations.map ScraperConfiguration.content)
  else if settings.shadowMode || !settings.applyEnabled then
    (some .approvedShadow, db.configurations.map ScraperConfiguration.content)
  else (some .pending, db.replaceScheduled.configurations.map ScraperConfiguration.content)

section
variable {platform : SegmentPlatform} {settings : RecommendationSettings} {db : Db} {id : Uuid}
  {decision : Decision}
  {recommendation : SourceRecommendation}

theorem decisionView_set (found : db.recommendation? id = some recommendation)
    (revised : SourceRecommendation) (same : revised.id = recommendation.id) :
    (db.setRecommendation revised).decisionView id =
    (some revised.status, (db.decisionView id).2) := by
  unfold Db.decisionView
  rw [recommendation?_set found revised same, if_pos rfl]
  rfl

theorem Awaits.view {action : String} (awaits : Awaits db id action recommendation) :
    db.decisionView id = (some .pending, db.configurations.map ScraperConfiguration.content) := by
  unfold Db.decisionView
  rw [awaits.found, map_some, awaits.pending]

theorem commitDecision_unawaited
    (unawaited : ∀ recommendation, ¬Awaits db id decision.action recommendation) :
    (commitDecision db (decideRecommendation platform settings db id decision)).1 = db := by
  unfold decideRecommendation
  split
  · rfl
  case isFalse known =>
  split
  · rfl
  case h_2 recommendation found =>
  split
  · rfl
  split
  · rfl
  case isFalse pending =>
    exact absurd ⟨Decidable.not_not.mp known, found, Decidable.not_not.mp pending⟩ (unawaited recommendation)

theorem Awaits.opens (awaits : Awaits db id decision.action recommendation)
    (shown : evidenceMatches recommendation decision.expectedEvidenceChecksum)
    (current : recommendation.isStale db.latestConfiguration? = false) :
    Opens db id decision recommendation :=
  ⟨awaits.action, awaits.found, shown, awaits.pending, current⟩

theorem commitDecision_effective (platform : SegmentPlatform)
    (awaits : Awaits db id decision.action recommendation)
    (shown : evidenceMatches recommendation decision.expectedEvidenceChecksum)
    (effective : Effective settings db recommendation decision.action) :
    (commitDecision db (decideRecommendation platform settings db id decision)).1.decisionView id =
    effectView settings db recommendation decision.action := by
  unfold effectView
  by_cases stale : recommendation.isStale db.latestConfiguration?
  · unfold decideRecommendation
    simp only [awaits.action, awaits.found, awaits.pending, shown, stale, if_true]
    exact decisionView_set awaits.found _ rfl
  have current : recommendation.isStale db.latestConfiguration? = false := by simpa using stale
  rw [decideRecommendation_opens (awaits.opens shown current), if_neg stale]
  by_cases denied : decision.action = "deny"
  · rw [settleRecommendation, if_pos denied, if_pos denied]
    exact decisionView_set awaits.found _ rfl
  rw [if_neg denied]
  by_cases shadow : (settings.shadowMode || !settings.applyEnabled)
  · rw [settleRecommendation, if_neg denied, if_pos shadow, if_pos shadow]
    exact decisionView_set awaits.found _ rfl
  rw [if_neg shadow]
  have live : settings.shadowMode = false ∧ settings.applyEnabled := by simpa using shadow
  -- what is left is the refusal that has replaced a schedule
  have unfounded : Unfounded db recommendation := by
    rcases effective with isStale | isDenied | isShadow | isOff | ⟨unfounded, _⟩
    · exact absurd isStale stale
    · exact absurd isDenied denied
    · exact nomatch live.1.symm.trans isShadow
    · exact nomatch live.2.symm.trans isOff
    · exact unfounded
  obtain ⟨_, raised⟩ := approveRecommendation_unfounded platform decision unfounded
  rw [settleRecommendation_applied ⟨denied, live⟩, raised]
  have written := decisionView_set awaits.found (recommendation.decided decision) rfl
  exact Prod.ext ((congrArg Prod.fst written).trans (congrArg some awaits.pending)) rfl

theorem commitDecision_ineffective (platform : SegmentPlatform)
    (awaits : Awaits db id decision.action recommendation)
    (shown : evidenceMatches recommendation decision.expectedEvidenceChecksum)
    (ineffective : ¬Effective settings db recommendation decision.action) :
    (commitDecision db (decideRecommendation platform settings db id decision)).1.decisionView id =
    db.decisionView id ∧ (Creates platform db recommendation → decision.actor.uuid? = none) ∨
    ((commitDecision db (decideRecommendation platform settings db id decision)).1.decisionView
      id).1 = some .approved ∧
    Creates platform db recommendation ∧ decision.actor.uuid? ≠ none := by
  simp only [Effective, not_or, not_and] at ineffective
  obtain ⟨current, approved, shadow, enabled, unscheduled⟩ := ineffective
  have current : recommendation.isStale db.latestConfiguration? = false := by simpa using current
  have applied : Applied settings decision := ⟨approved, by simpa using shadow, by simpa using enabled⟩
  have kept := decisionView_set awaits.found (recommendation.decided decision) rfl
  have pending : (db.setRecommendation (recommendation.decided decision)).decisionView id =
    db.decisionView id := by
    rw [kept, awaits.view]
    exact Prod.ext (congrArg some awaits.pending) rfl
  rw [decideRecommendation_opens (awaits.opens shown current), settleRecommendation_applied applied]
  by_cases unfounded : Unfounded db recommendation
  · obtain ⟨_, raised⟩ := approveRecommendation_unfounded platform decision unfounded
    have unreplaced : db.replaceScheduled.configurations = db.configurations :=
      (replaceScheduled_configurations db).mpr fun c member scheduled =>
        unscheduled unfounded ⟨c, member, scheduled⟩
    rw [raised]
    refine .inl ⟨?_, fun ⟨latest, isLatest, segments, made⟩ => ?_⟩
    · rw [← pending]
      exact Prod.ext rfl (congrArg (List.map ScraperConfiguration.content) unreplaced)
    · rw [nextSegments_missing (unfounded latest isLatest)] at made
      cases made
  obtain ⟨latest, isLatest, held⟩ : ∃ latest, db.latestConfiguration? = some latest ∧
      recommendation.segmentKey ∈ latest.segments.map SourceSegment.key := by
    simpa [Unfounded] using unfounded
  unfold approveRecommendation
  rw [isLatest]
  dsimp only
  cases made : nextSegments platform latest recommendation with
  | error fault =>
    have value : ∀ message, fault ≠ .refused message := fun message same =>
      nextSegments_refused (same ▸ made) held
    have uncreated : ¬Creates platform db recommendation := by
      rintro ⟨other, isOther, segments, created⟩
      rw [mem_def, isLatest] at isOther
      cases isOther
      exact nomatch created.symm.trans made
    refine .inl ⟨?_, fun creates => absurd creates uncreated⟩
    cases fault with
    | refused message => exact absurd rfl (value message)
    | lookup message => rfl
    | value message => rfl
  | ok segments =>
  have creates : Creates platform db recommendation := ⟨latest, isLatest, segments, made⟩
  cases decision.actor.uuid? with
  | none => exact .inl ⟨rfl, fun _ => rfl⟩
  | some createdBy =>
    have found := (recommendation?_set awaits.found (recommendation.decided decision) rfl id).trans
      (if_pos rfl)
    have approved := decisionView_set found { recommendation.decided decision with
      status := .approved, resultingConfigurationId := some decision.newId } rfl
    exact .inr ⟨congrArg Prod.fst approved, creates, some_ne_none _⟩

theorem effectView_ne {action : String} (awaits : Awaits db id action recommendation)
    (effective : Effective settings db recommendation action) :
    effectView settings db recommendation action ≠ db.decisionView id := by
  rw [awaits.view]
  unfold effectView
  split
  · exact fun same => nomatch congrArg Prod.fst same
  case isFalse current =>
  split
  · exact fun same => nomatch congrArg Prod.fst same
  case isFalse approved =>
  split
  · exact fun same => nomatch congrArg Prod.fst same
  case isFalse live =>
  have live : settings.shadowMode = false ∧ settings.applyEnabled := by simpa using live
  rcases effective with stale | denied | shadow | off | ⟨_, c, member, scheduled⟩
  · exact absurd stale current
  · exact absurd denied approved
  · exact nomatch live.1.symm.trans shadow
  · exact nomatch live.2.symm.trans off
  intro same
  have statuses := congrArg (fun view => view.2.map ScraperConfiguration.status) same
  simp only [Db.replaceScheduled, map_map] at statuses
  have here := List.map_inj_left.mp statuses c member
  simp [ScraperConfiguration.content, ScraperConfiguration.replaceSchedule, scheduled] at here

end

/-- What an approver or administrator saw, and the action they took on it. -/
structure ShownDecision where
  action : String
  evidenceChecksum : Option String
  configurationVersion : Option Nat

def ShownDecision.call (shown : ShownDecision) (userId : Uuid) (reason : String) : BrowserDecision :=
  { action := shown.action, userId, reason, evidenceChecksum := shown.evidenceChecksum }

/-- Telegram's callback data carries eight characters of the checksum. -/
def ShownDecision.job (shown : ShownDecision) (approverUserId : String) : TelegramDecision :=
  { action := shown.action, approverUserId, configurationVersion := shown.configurationVersion
    evidenceChecksum := ofList ((shown.evidenceChecksum.getD "").toList.take 8) }

/-- The decision shows in the browser, on the evidence that was shown, exactly if it shows through
Telegram, on the configuration version that was shown. -/
def Concordant (settings : RecommendationSettings) (db : Db) (id : Uuid)
    (shown : ShownDecision) : Prop :=
  ∀ recommendation, Awaits db id shown.action recommendation →
    (evidenceMatches recommendation shown.evidenceChecksum ∧
        (Effective settings db recommendation shown.action ∨ Creates platform db recommendation) ↔
      shown.configurationVersion = recommendation.configurationVersion ∧
        Effective settings db recommendation shown.action)

section
variable {platform : SegmentPlatform} {settings : RecommendationSettings} {db : Db} {id : Uuid}
  {shown : ShownDecision}
  {recommendation : SourceRecommendation} {now : Instant} {newId : Uuid}

theorem telegram_committed (found : db.recommendation? id = some recommendation)
    (same : shown.configurationVersion = recommendation.configurationVersion) (approver : String) :
    (telegramRecommendationAction platform settings db id (shown.job approver) now newId).1.decisionView id =
    (commitDecision db (decideRecommendation platform settings db id
      ((shown.job approver).decision now newId))).1.decisionView
    id := by
  have bound : ¬(shown.job approver).configurationVersion ≠ recommendation.configurationVersion :=
    not_not.mpr same
  unfold telegramRecommendationAction
  rw [found]
  dsimp only
  rw [if_neg bound]
  split
  case h_1 after decided committed =>
    rw [committed]
    split <;> rfl
  · rfl

theorem telegram_unbound (found : db.recommendation? id = some recommendation)
    (differ : shown.configurationVersion ≠ recommendation.configurationVersion) (approver : String) :
    (telegramRecommendationAction platform settings db id (shown.job approver) now newId).1 = db := by
  unfold telegramRecommendationAction
  rw [found]
  exact congrArg Prod.fst (if_pos differ)

theorem browser_view (platform : SegmentPlatform) (settings : RecommendationSettings)
    (awaits : Awaits db id shown.action recommendation) (userId : Uuid) (reason : String)
    (now : Instant) (newId : Uuid) :
    let after :=
      (decideSourceRecommendation platform settings db id
        (shown.call userId reason) now newId).1.decisionView id
    (evidenceMatches recommendation shown.evidenceChecksum ∧
      Effective settings db recommendation shown.action →
        after = effectView settings db recommendation shown.action) ∧
      (after = db.decisionView id ↔ ¬(evidenceMatches recommendation shown.evidenceChecksum ∧
        (Effective settings db recommendation shown.action ∨ Creates platform db recommendation))) := by
  have known : (shown.call userId reason).action ∈ ["approve", "deny"] := awaits.action
  rw [decideSourceRecommendation, if_neg (not_not.mpr known)]
  have awaits' : Awaits db id ((shown.call userId reason).decision now newId).action recommendation := awaits
  cases matched : evidenceMatches recommendation shown.evidenceChecksum with
  | false =>
    have unshown : evidenceMatches recommendation
      ((shown.call userId reason).decision now newId).expectedEvidenceChecksum =
        false := matched
    have refused : (commitDecision db (decideRecommendation platform settings db id
        ((shown.call userId reason).decision now newId))).1 = db := by
      unfold decideRecommendation
      simp [awaits'.action, awaits'.found, unshown, commitDecision]
    rw [refused]
    exact ⟨fun other => (nomatch other.1), fun _ other => (nomatch other.1), fun _ => rfl⟩
  | true =>
  by_cases effective : Effective settings db recommendation shown.action
  · have view := commitDecision_effective platform awaits' matched effective
    exact ⟨fun _ => view, fun same => absurd (view.symm.trans same) (effectView_ne awaits effective),
      fun ineffective => absurd ⟨rfl, .inl effective⟩ ineffective⟩
  refine ⟨fun other => absurd other.2 effective, ?_⟩
  rcases commitDecision_ineffective platform awaits' matched effective with
    ⟨same, uncreated⟩ | ⟨approved, creates, _⟩
  · exact ⟨fun _ other => other.2.elim effective fun creates => (nomatch uncreated creates), fun _ => same⟩
  refine ⟨fun same => ?_, fun ineffective => absurd ⟨rfl, .inr creates⟩ ineffective⟩
  rw [same, awaits.view] at approved
  exact nomatch approved

theorem telegram_view (platform : SegmentPlatform) (settings : RecommendationSettings)
    (awaits : Awaits db id shown.action recommendation) (approver : String) (now : Instant)
    (newId : Uuid) : let after :=
      (telegramRecommendationAction platform settings db id
        (shown.job approver) now newId).1.decisionView id
    (shown.configurationVersion = recommendation.configurationVersion ∧
      Effective settings db recommendation shown.action →
        after = effectView settings db recommendation shown.action) ∧
      (after = db.decisionView id ↔ ¬(shown.configurationVersion = recommendation.configurationVersion ∧
        Effective settings db recommendation shown.action)) := by
  have awaits' : Awaits db id ((shown.job approver).decision now newId).action recommendation := awaits
  by_cases bound : shown.configurationVersion = recommendation.configurationVersion
  · rw [telegram_committed awaits.found bound]
    by_cases effective : Effective settings db recommendation shown.action
    · have view := commitDecision_effective platform awaits' rfl effective
      exact ⟨fun _ => view, fun same => absurd (view.symm.trans same) (effectView_ne awaits effective),
        fun ineffective => absurd ⟨bound, effective⟩ ineffective⟩
    refine ⟨fun other => absurd other.2 effective, fun _ other => effective other.2, fun _ => ?_⟩
    rcases commitDecision_ineffective platform awaits' rfl effective with ⟨same, _⟩ | ⟨_, _, named⟩
    · exact same
    · exact absurd rfl named
  · rw [telegram_unbound awaits.found bound]
    exact ⟨fun other => absurd other.1 bound, fun _ other => bound other.1, fun _ => rfl⟩

end

/-- The two channels leave the same status and the same configurations exactly
if the decision shows in both or in neither. -/
theorem decision_channels_agree (platform : SegmentPlatform) (settings : RecommendationSettings)
    (db : Db) (id : Uuid) (shown : ShownDecision) (userId : Uuid) (reason approver : String)
    (now : Instant) (newId : Uuid) :
    (decideSourceRecommendation platform settings db id
      (shown.call userId reason) now newId).1.decisionView id =
        (telegramRecommendationAction platform settings db id
          (shown.job approver) now newId).1.decisionView id ↔
      Concordant platform settings db id shown := by
  by_cases awaited : ∃ recommendation, Awaits db id shown.action recommendation
  · obtain ⟨recommendation, awaits⟩ := awaited
    have concordant : Concordant platform settings db id shown ↔
      (evidenceMatches recommendation shown.evidenceChecksum = true ∧
            (Effective settings db recommendation shown.action ∨ Creates platform db recommendation) ↔
          shown.configurationVersion = recommendation.configurationVersion ∧
            Effective settings db recommendation shown.action) := by
      refine ⟨fun all => all recommendation awaits, fun here other again => ?_⟩
      cases some.inj (again.found.symm.trans awaits.found)
      exact here
    obtain ⟨browserShows, browserKeeps⟩ := browser_view platform settings awaits userId reason now newId
    obtain ⟨telegramShows, telegramKeeps⟩ := telegram_view platform settings awaits approver now newId
    rw [concordant]
    constructor
    · intro same
      rw [← not_iff_not, ← browserKeeps, ← telegramKeeps, same]
    intro both
    by_cases shows : shown.configurationVersion = recommendation.configurationVersion ∧
        Effective settings db recommendation shown.action
    · rw [telegramShows shows, browserShows ⟨(both.mpr shows).1, shows.2⟩]
    · rw [telegramKeeps.mpr shows, browserKeeps.mpr (mt both.mp shows)]
  have unawaited : ∀ recommendation, ¬Awaits db id shown.action recommendation := not_exists.mp awaited
  refine ⟨fun _ recommendation awaits => absurd awaits (unawaited recommendation), fun _ => ?_⟩
  have browser :
    (decideSourceRecommendation platform settings db id (shown.call userId reason) now newId).1 =
    db := by
    unfold decideSourceRecommendation
    split
    · rfl
    · exact commitDecision_unawaited unawaited
  rw [browser]
  cases found : db.recommendation? id with
  | none =>
    unfold telegramRecommendationAction
    rw [found]
  | some recommendation =>
    by_cases bound : shown.configurationVersion = recommendation.configurationVersion
    · rw [telegram_committed found bound, commitDecision_unawaited unawaited]
    · rw [telegram_unbound found bound]

/-- An approval that schedules the next configuration in the browser fails
through Telegram, and a denial on evidence that has changed since is refused in
the browser and taken through Telegram. -/
theorem telegram_departs_from_browser :
    let db := acquisitionDb "TX::roofing" (some 2)
    let approval : ShownDecision :=
      { action := "approve", evidenceChecksum := some "01234567", configurationVersion := some 2 }
    let outdated : ShownDecision :=
      { action := "deny", evidenceChecksum := some "fedcba98", configurationVersion := some 2 }
    let browser := fun shown : ShownDecision =>
      decideSourceRecommendation plainSegments applying db 7 (shown.call 5 "Weak segment") (days 1) 3
    let telegram := fun shown : ShownDecision =>
      telegramRecommendationAction plainSegments applying db 7 (shown.job "42") (days 1) 3
    ((browser approval).1.decisionView 7).1 = some .approved ∧
      ((browser approval).1.configurations.map ScraperConfiguration.status) =
      [.active, .scheduleReplaced, .scheduled] ∧
      telegram approval = (db, .failed "badly formed hexadecimal UUID string") ∧
      browser outdated =
      (db, .refused "The evidence changed since it was shown; production was not changed.") ∧
      ((telegram outdated).1.decisionView 7).1 = some .denied := by
  decide +kernel

end Jawnix
