import Mathlib.Data.List.MinMax
import Jawnix.Clock
import Jawnix.Jobs

/-!
# Source Recommendations

`recommendations.py` and its two callers. `decide_recommendation` raises after
it has already changed rows of its session, and both callers commit after a
refusal, so a call is modelled by the rows it leaves together with what it
returned or raised.
-/
namespace Jawnix

/-- Case folding of the interpreter, and the SHA-256 of a configuration's canonical JSON. -/
structure SegmentPlatform extends Casing where
  casefold : String → String
  checksum : List SourceSegment → String → String

/-- Who decides: an administrator of the browser or an approver of the Telegram chat. -/
inductive Actor where
  | administrator (userId : Uuid)
  | telegram (userId : String)

def Actor.text : Actor → String
  | .administrator userId => uuidText userId
  | .telegram userId => "telegram:" ++ userId

/-- `uuid.UUID(actor_id)`, which accepts the text of a UUID and refuses a Telegram actor. -/
def Actor.uuid? : Actor → Option Uuid
  | .administrator userId => some userId
  | .telegram _ => none

/-- `RecommendationDecisionError`, `LookupError` and any other `ValueError`. -/
inductive DecisionError where
  | refused (message : String)
  | lookup (message : String)
  | value (message : String)
  deriving DecidableEq

structure Decision where
  action : String
  actor : Actor
  reason : String
  now : Instant
  expectedEvidenceChecksum : Option String := none
  newId : Uuid

structure RecommendationSettings where
  applyEnabled : Bool
  shadowMode : Bool

/-! ## The next segments -/

def RecommendationAction.text : RecommendationAction → String
  | .expand => "expand"
  | .reduce => "reduce"
  | .pause => "pause"

def RecommendationAction.segmentStatus : RecommendationAction → String
  | .expand => "active"
  | .reduce => "reduced"
  | .pause => "paused"

def RecommendationAction.cadenceMultiplier : RecommendationAction → Int
  | .expand => 100
  | .reduce => 50
  | .pause => 0

def RecommendationAction.relativeWeight : RecommendationAction → Int
  | .expand => 125
  | .reduce => 50
  | .pause => 0

def retune (action : RecommendationAction) (parameters : List (String × ParameterValue)) :
    List (String × ParameterValue) :=
  Dict.update Prod.fst Prod.snd parameters
    [("recommendation_action", .text action.text), ("status", .text action.segmentStatus),
      ("cadence_multiplier", .number action.cadenceMultiplier),
        ("relative_weight", .number action.relativeWeight),
      ("enabled", .flag (decide (action ≠ .pause))),
        ("adjacent_generation_enabled", .flag (decide (action = .expand)))]

/-- `re.sub(r"\s+", " ", text)`. -/
def collapseSpaces : List Char → List Char
  | [] => []
  | c :: cs =>
    if Text.isSpace c then
      match cs with
      | [] => [' ']
      | d :: _ => if Text.isSpace d then collapseSpaces cs else ' ' :: collapseSpaces cs
    else c :: collapseSpaces cs

/-- `text.partition("::")[0]`. -/
def beforeColons : List Char → List Char
  | ':' :: ':' :: _ => []
  | c :: cs => c :: beforeColons cs
  | [] => []

variable (platform : SegmentPlatform) (settings : RecommendationSettings)

def materializeSourceIdentity (keyword state : String) : Except DecisionError String :=
  let normalizedKeyword := platform.casefold (ofList (collapseSpaces (strip keyword).toList))
  let normalizedState := platform.upper (strip state)
  if normalizedKeyword = "" then .error (.value "Source Segment keyword is required.")
  else if normalizedState.length = 2 ∧ normalizedState.toList.all Char.isUpper then
    .ok (normalizedState ++ "::" ++ normalizedKeyword)
  else .error (.value "Source Segment state must be a two-letter code.")

def adjacentState (recommendation : SourceRecommendation) : String :=
  let named := recommendation.evidence.state.getD ""
  platform.upper (if named = "" then ofList (beforeColons recommendation.segmentKey.toList) else named)

def addAdjacent (recommendation : SourceRecommendation) (segments : List SourceSegment)
    (keyword : String) : Except DecisionError (List SourceSegment) := do
  let state := adjacentState platform recommendation
  let key ← materializeSourceIdentity platform keyword state
  if key ∈ segments.map SourceSegment.key then return segments
  else
    return segments ++ [{ key, niche := recommendation.niche, query := strip keyword, geography := state
                          parameters := [("status", .text "active"),
                            ("cadence_multiplier", .number 100), ("niche_confirmed", .flag true),
                              ("seed_segment_key", .text recommendation.segmentKey),
                            ("performance_state", .text "insufficient_data")] }]

def nextSegments (latest : ScraperConfiguration) (recommendation : SourceRecommendation) :
    Except DecisionError (List SourceSegment) :=
  let segments := latest.segments.map (fun segment =>
    if segment.key = recommendation.segmentKey then
      { segment with parameters := retune recommendation.action segment.parameters }
    else segment)
  if recommendation.segmentKey ∉ latest.segments.map SourceSegment.key then
    .error (.refused "The recommended Source Segment is not in the current configuration.")
  else if recommendation.action = .expand then
    recommendation.evidence.adjacentKeywords.foldlM (addAdjacent platform recommendation) segments
  else .ok segments

/-! ## The decision -/

/-- A prefix, because Telegram's callback data carries only eight characters; nothing shown binds to
nothing. -/
def evidenceMatches (recommendation : SourceRecommendation) (checksum : Option String) : Bool :=
  let shown := (checksum.getD "").toList
  shown.isPrefixOf recommendation.evidenceChecksum.toList

def scheduledAcquisition (now : Instant) : Instant :=
  let next := now + days 1
  next - next % microsecondsPerDay + 8 * 3600000000

def Db.latestConfiguration? (db : Db) : Option ScraperConfiguration :=
  db.configurations.argmax ScraperConfiguration.version

def ScraperConfiguration.replaceSchedule (configuration : ScraperConfiguration) : ScraperConfiguration :=
  if configuration.status = .scheduled then { configuration with status := .scheduleReplaced } else
    configuration

def Db.replaceScheduled (db : Db) : Db :=
  { db with configurations := db.configurations.map ScraperConfiguration.replaceSchedule }

def Db.setRecommendation (db : Db) (recommendation : SourceRecommendation) : Db :=
  { db with
    recommendations := adjust SourceRecommendation.id recommendation.id
      (fun _ => recommendation) db.recommendations }

def SourceRecommendation.decided (recommendation : SourceRecommendation) (decision : Decision) :
    SourceRecommendation :=
  { recommendation with
    decisionBy := decision.actor.text, decisionReason := decision.reason, decidedAt := some decision.now }

/-- The configuration has moved on since the evidence was collected. -/
def SourceRecommendation.isStale (recommendation : SourceRecommendation)
    (latest : Option ScraperConfiguration) : Bool :=
  recommendation.configurationVersion.any fun version => latest.all (fun l => l.version ≠ version)

def approveRecommendation (db : Db) (recommendation : SourceRecommendation)
    (decision : Decision) : Db × Except DecisionError SourceRecommendation :=
  let db' := db.setRecommendation (recommendation.decided decision)
  match db.latestConfiguration? with
  | none => (db', .error (.refused "Create a Scraper Configuration first."))
  | some latest =>
    let db' := db'.replaceScheduled
    match nextSegments platform latest recommendation with
    | .error fault => (db', .error fault)
    | .ok segments =>
      match decision.actor.uuid? with
      | none => (db', .error (.value "badly formed hexadecimal UUID string"))
      | some createdBy =>
        let next : ScraperConfiguration :=
          { id := decision.newId, version := latest.version + 1
            checksum := platform.checksum segments latest.anomalyThresholds, status := .scheduled
            anomalyThresholds := latest.anomalyThresholds, createdBy, reason := decision.reason
            scheduledAt := some (scheduledAcquisition decision.now),
              basedOnConfigurationId := some latest.id, segments }
        let approved :=
          { recommendation.decided decision with
            status := .approved, resultingConfigurationId := some next.id }
        ({ db' with configurations := db'.configurations ++ [next] }.setRecommendation approved,
          .ok approved)

def settleRecommendation (settings : RecommendationSettings) (db : Db)
    (recommendation : SourceRecommendation) (decision : Decision) :
    Db × Except DecisionError SourceRecommendation :=
  if decision.action = "deny" then
    let denied := { recommendation.decided decision with status := .denied }
    (db.setRecommendation denied, .ok denied)
  else if settings.shadowMode || !settings.applyEnabled then
    let shadowed := { recommendation.decided decision with status := .approvedShadow }
    (db.setRecommendation shadowed, .ok shadowed)
  else approveRecommendation platform db recommendation decision

def decideRecommendation (settings : RecommendationSettings) (db : Db) (id : Uuid)
    (decision : Decision) : Db × Except DecisionError SourceRecommendation :=
  if decision.action ∉ ["approve", "deny"] then (db, .error (.refused "Unknown decision action."))
  else
    match db.recommendation? id with
    | none => (db, .error (.lookup "Source Recommendation was not found."))
    | some recommendation =>
      if evidenceMatches recommendation decision.expectedEvidenceChecksum = false then
        (db, .error (.refused "The evidence changed since it was shown; production was not changed."))
      else if recommendation.status ≠ .pending then
        (db, .error (.refused "Source Recommendation was already decided."))
      else if recommendation.isStale db.latestConfiguration? then
        (db.setRecommendation { recommendation.decided decision with status := .stale },
          .error (.refused "Source Recommendation is stale; production was not changed."))
      else settleRecommendation platform settings db recommendation decision

/-! ## The callers -/

/-- What a caller makes of the call: it answers, it logs a refusal or answers 409, it answers 404,
or it fails. -/
inductive CallOutcome where
  | decided (recommendation : SourceRecommendation)
  | refused (message : String)
  | notFound (message : String)
  | failed (message : String)
  deriving DecidableEq

/-- A refusal is committed like a decision; any other exception rolls the session back. -/
def commitDecision (db : Db) : Db × Except DecisionError SourceRecommendation → Db × CallOutcome
  | (after, .ok recommendation) => (after, .decided recommendation)
  | (after, .error (.refused message)) => (after, .refused message)
  | (_, .error (.lookup message)) => (db, .notFound message)
  | (_, .error (.value message)) => (db, .failed message)

structure BrowserDecision where
  action : String
  userId : Uuid
  reason : String
  evidenceChecksum : Option String := none

def BrowserDecision.decision (call : BrowserDecision) (now : Instant) (newId : Uuid) : Decision :=
  { action := call.action, actor := .administrator call.userId, reason := strip call.reason, now
    expectedEvidenceChecksum := call.evidenceChecksum, newId }

def decideSourceRecommendation (settings : RecommendationSettings) (db : Db) (id : Uuid)
    (call : BrowserDecision) (now : Instant) (newId : Uuid) : Db × CallOutcome :=
  if call.action ∉ ["approve", "deny"] then (db, .notFound "Unknown action.")
  else commitDecision db (decideRecommendation platform settings db id (call.decision now newId))

structure TelegramDecision where
  action : String
  approverUserId : String
  configurationVersion : Option Nat
  evidenceChecksum : String

/-- The job's evidence checksum is not passed on. -/
def TelegramDecision.decision (job : TelegramDecision) (now : Instant) (newId : Uuid) : Decision :=
  { action := job.action, actor := .telegram job.approverUserId,
    reason := "Telegram recommendation decision", now, newId }

def telegramRecommendationAction (settings : RecommendationSettings) (db : Db) (id : Uuid)
    (job : TelegramDecision) (now : Instant) (newId : Uuid) : Db × CallOutcome :=
  match db.recommendation? id with
  | none => (db, .refused "Source Recommendation was not found.")
  | some bound =>
    if job.configurationVersion ≠ bound.configurationVersion then
      (db, .refused "Telegram callback evidence is stale.")
    else
      match commitDecision db (decideRecommendation platform settings db id (job.decision now newId)) with
      | (after, .decided recommendation) =>
        match recommendation.nightlyReviewId with
        | none => (after, .decided recommendation)
        | some reviewId =>
          (enqueueJob after (.other "update_nightly_review_notification") none
            (.review reviewId) now, .decided recommendation)
      | result => result

/-! ## What a decision can do -/

/-- The decision is taken about the recommendation: it is pending, on the evidence that was shown,
and not stale. -/
structure Opens (db : Db) (id : Uuid) (decision : Decision)
    (recommendation : SourceRecommendation) : Prop where
  action : decision.action ∈ ["approve", "deny"]
  found : db.recommendation? id = some recommendation
  evidence : evidenceMatches recommendation decision.expectedEvidenceChecksum
  pending : recommendation.status = .pending
  current : recommendation.isStale db.latestConfiguration? = false

def Applied (decision : Decision) : Prop :=
  decision.action ≠ "deny" ∧ settings.shadowMode = false ∧ settings.applyEnabled
  deriving Decidable

def Unfounded (db : Db) (recommendation : SourceRecommendation) : Prop :=
  ∀ latest ∈ db.latestConfiguration?, recommendation.segmentKey ∉ latest.segments.map SourceSegment.key

section
variable {platform : SegmentPlatform} {settings : RecommendationSettings} {db : Db} {id : Uuid}
  {decision : Decision} {recommendation : SourceRecommendation} {latest : ScraperConfiguration}
  {message : String}

theorem addAdjacent_error {segments : List SourceSegment} {keyword : String} {fault : DecisionError}
    (failed : addAdjacent platform recommendation segments keyword = .error fault) :
    ∃ message, fault = .value message := by
  rw [addAdjacent] at failed
  cases named : materializeSourceIdentity platform keyword (adjacentState platform recommendation) with
  | ok key =>
    rw [named] at failed
    dsimp only [Bind.bind, Except.bind] at failed
    split at failed <;> cases failed
  | error other =>
  rw [named] at failed
  cases failed
  rw [materializeSourceIdentity] at named
  split at named
  · cases named
    exact ⟨_, rfl⟩
  split at named
  · cases named
  cases named
  exact ⟨_, rfl⟩

theorem nextSegments_refused
    (refused : nextSegments platform latest recommendation = .error (.refused message)) :
    recommendation.segmentKey ∉ latest.segments.map SourceSegment.key := by
  unfold nextSegments at refused
  split at refused
  case isTrue missing => exact missing
  · split at refused
    · obtain ⟨_, _, _, raised⟩ := Runs.foldlM_error refused
      obtain ⟨_, other⟩ := addAdjacent_error raised
      cases other
    · cases refused

theorem nextSegments_missing (missing : recommendation.segmentKey ∉ latest.segments.map SourceSegment.key) :
    nextSegments platform latest recommendation =
      .error (.refused "The recommended Source Segment is not in the current configuration.") :=
      if_pos missing

theorem latestConfiguration?_none (none : db.latestConfiguration? = none) :
    db.configurations = [] := List.argmax_eq_none.mp none

/-- An unfounded approval is refused with the schedule already replaced. -/
theorem approveRecommendation_unfounded (platform : SegmentPlatform) (decision : Decision)
    (unfounded : Unfounded db recommendation) :
    ∃ message, approveRecommendation platform db recommendation decision =
    ((db.setRecommendation (recommendation.decided decision)).replaceScheduled,
    .error (.refused message)) := by
  unfold approveRecommendation
  cases latest : db.latestConfiguration? with
  | none =>
    refine ⟨_, Prod.ext ?_ rfl⟩
    have empty := latestConfiguration?_none latest
    simp only [Db.replaceScheduled, Db.setRecommendation, empty, List.map_nil]
  | some configuration =>
    dsimp only
    rw [nextSegments_missing (unfounded configuration latest)]
    exact ⟨_, rfl⟩

theorem settleRecommendation_applied (applied : Applied settings decision) :
    settleRecommendation platform settings db recommendation decision =
    approveRecommendation platform db recommendation decision := by
  obtain ⟨approved, shadow, enabled⟩ := applied
  unfold settleRecommendation
  rw [if_neg approved, shadow, enabled]
  rfl

theorem settleRecommendation_refused
    (refused : (settleRecommendation platform settings db recommendation decision).2 =
      .error (.refused message)) :
    Applied settings decision ∧ Unfounded db recommendation := by
  by_cases applied : Applied settings decision
  · rw [settleRecommendation_applied applied] at refused
    refine ⟨applied, fun configuration latest => ?_⟩
    rw [mem_def] at latest
    unfold approveRecommendation at refused
    rw [latest] at refused
    dsimp only at refused
    split at refused
    case h_1 raised =>
      cases refused
      exact nextSegments_refused raised
    · split at refused <;> cases refused
  unfold settleRecommendation at refused
  split at refused
  · cases refused
  case isFalse approved =>
  split at refused
  · cases refused
  case isFalse open_ =>
  refine absurd ⟨approved, ?_⟩ applied
  simpa using open_

/-- A decision that is not taken leaves everything as it is, or marks its recommendation stale. -/
theorem decideRecommendation_cases (platform : SegmentPlatform) (settings : RecommendationSettings)
    (db : Db) (id : Uuid) (decision : Decision) :
    (∃ fault, decideRecommendation platform settings db id decision = (db, .error fault)) ∨
      (∃ recommendation message, db.recommendation? id = some recommendation ∧
        decideRecommendation platform settings db id decision =
          (db.setRecommendation { recommendation.decided decision with status := .stale },
            .error (.refused message))) ∨
      ∃ recommendation, Opens db id decision recommendation ∧
      decideRecommendation platform settings db id decision =
          settleRecommendation platform settings db recommendation decision := by
  unfold decideRecommendation
  split
  · exact .inl ⟨_, rfl⟩
  case isFalse known =>
  split
  · exact .inl ⟨_, rfl⟩
  case h_2 recommendation found =>
  split
  · exact .inl ⟨_, rfl⟩
  case isFalse shown =>
  split
  · exact .inl ⟨_, rfl⟩
  case isFalse pending =>
  split
  · exact .inr (.inl ⟨recommendation, _, found, rfl⟩)
  case isFalse current =>
  refine .inr (.inr ⟨recommendation, ⟨?_, found, ?_, ?_, ?_⟩, rfl⟩)
  · exact Decidable.not_not.mp known
  · simpa using shown
  · exact Decidable.not_not.mp pending
  · simpa using current

theorem decideRecommendation_opens (opens : Opens db id decision recommendation) :
    decideRecommendation platform settings db id decision =
    settleRecommendation platform settings db recommendation decision := by
  unfold decideRecommendation
  simp [opens.action, opens.found, opens.evidence, opens.pending, opens.current]

theorem Opens.unique {other : SourceRecommendation} (opens : Opens db id decision recommendation)
    (again : Opens db id decision other) : other = recommendation :=
  some.inj (again.found.symm.trans opens.found)

end

/-! ## Refusals -/

inductive Channel where
  | browser (call : BrowserDecision)
  | telegram (job : TelegramDecision)

def Channel.decision (now : Instant) (newId : Uuid) : Channel → Decision
  | .browser call => call.decision now newId
  | .telegram job => job.decision now newId

def Channel.decide (settings : RecommendationSettings) (db : Db) (id : Uuid) (now : Instant)
    (newId : Uuid) : Channel → Db × CallOutcome
  | .browser call => decideSourceRecommendation platform settings db id call now newId
  | .telegram job => telegramRecommendationAction platform settings db id job now newId

def Channel.Reaches (db : Db) (id : Uuid) : Channel → Prop
  | .browser call => call.action ∈ ["approve", "deny"]
  | .telegram job => ∃ bound ∈ db.recommendation? id, job.configurationVersion = bound.configurationVersion

/-- No configuration is created or changed, and no recommendation but the one decided about, which
is as it was or stale. -/
structure Inert (db after : Db) (id : Uuid) : Prop where
  configurations : after.configurations = db.configurations
  others : ∀ other ≠ id, after.recommendation? other = db.recommendation? other
  recommendation : after.recommendation? id = db.recommendation? id ∨
    ∃ recommendation ∈ after.recommendation? id, recommendation.status = .stale

/-- An approval to be applied names a segment of the latest configuration, unless it repeats the
decision that is recorded and there is no schedule to replace. -/
def Founded (db : Db) (id : Uuid) (decision : Decision) : Prop :=
  ∀ recommendation, Opens db id decision recommendation → Applied settings decision →
    Unfounded db recommendation →
    recommendation.decided decision = recommendation ∧ ∀ configuration ∈ db.configurations,
      configuration.status ≠ .scheduled

section
variable {platform : SegmentPlatform} {settings : RecommendationSettings} {db : Db} {id : Uuid}
  {decision : Decision} {recommendation : SourceRecommendation} {message : String}

theorem recommendation?_set (found : db.recommendation? id = some recommendation)
    (revised : SourceRecommendation) (same : revised.id = recommendation.id) (other : Uuid) :
    (db.setRecommendation revised).recommendation? other = if other = id then some revised else
    db.recommendation? other := by
  have named : recommendation.id = id := (lookup_some found).2
  unfold Db.setRecommendation Db.recommendation?
  rw [lookup_adjust (fun _ keyed => keyed.symm), same, named]
  split
  case isTrue here =>
    rw [here]
    change (db.recommendation? id).map _ = _
    rw [found]
    rfl
  · rfl

theorem replaceScheduled_configurations (db : Db) :
    db.replaceScheduled.configurations = db.configurations ↔ ∀ c ∈ db.configurations,
    c.status ≠ .scheduled := by
  have each := List.map_inj_left (f := ScraperConfiguration.replaceSchedule) (g := id)
    (l := db.configurations)
  rw [map_id] at each
  refine each.trans (forall₂_congr fun c _ => ?_)
  unfold ScraperConfiguration.replaceSchedule
  split
  case isTrue scheduled =>
    refine ⟨fun same => ?_, fun other => absurd scheduled other⟩
    exact nomatch (congrArg ScraperConfiguration.status same).trans scheduled
  case isFalse other => exact ⟨fun _ => other, fun _ => rfl⟩

/-- A refused decision is inert exactly if it was not refused over a missing segment after its first
writes. -/
theorem decideRecommendation_inert_iff
    (refused : (decideRecommendation platform settings db id decision).2 = .error (.refused message)) :
    Inert db (decideRecommendation platform settings db id decision).1 id ↔
    Founded settings db id decision := by
  by_cases bad : ∃ recommendation, Opens db id decision recommendation ∧ Applied settings decision ∧
    Unfounded db recommendation
  · obtain ⟨recommendation, opens, applied, unfounded⟩ := bad
    obtain ⟨_, raised⟩ := approveRecommendation_unfounded platform decision unfounded
    rw [decideRecommendation_opens opens, settleRecommendation_applied applied, raised]
    have written := recommendation?_set opens.found (recommendation.decided decision) rfl
    constructor
    · rintro ⟨configurations, _, kept⟩ other again _ _
      rw [opens.unique again]
      refine ⟨?_, (replaceScheduled_configurations _).mp configurations⟩
      change (db.setRecommendation (recommendation.decided decision)).recommendation? id = _ ∨
        (∃ r ∈ (db.setRecommendation (recommendation.decided decision)).recommendation? id, _) at kept
      rw [written, if_pos rfl, opens.found] at kept
      rcases kept with same | ⟨r, member, stale⟩
      · exact some.inj same
      cases member
      exact nomatch opens.pending.symm.trans stale
    intro founded
    obtain ⟨same, unscheduled⟩ := founded recommendation opens applied unfounded
    refine ⟨(replaceScheduled_configurations _).mpr unscheduled, fun other differ => ?_, .inl ?_⟩
    · exact (written other).trans (if_neg differ)
    · exact (written id).trans (by rw [if_pos rfl, same, opens.found])
  have founded : Founded settings db id decision := fun recommendation opens applied unfounded =>
    absurd ⟨recommendation, opens, applied, unfounded⟩ bad
  refine ⟨fun _ => founded, fun _ => ?_⟩
  rcases decideRecommendation_cases platform settings db id decision with
    ⟨_, unchanged⟩ | ⟨recommendation, _, found, stale⟩ | ⟨recommendation, opens, settled⟩
  · rw [unchanged]
    exact ⟨rfl, fun _ _ => rfl, .inl rfl⟩
  · rw [stale]
    have written := recommendation?_set found { recommendation.decided decision with status := .stale } rfl
    exact ⟨rfl, fun other differ => (written other).trans (if_neg differ),
      .inr ⟨_, (written id).trans (if_pos rfl), rfl⟩⟩
  · rw [settled] at refused
    exact absurd ⟨recommendation, opens, settleRecommendation_refused refused⟩ bad

theorem Channel.decide_refused {channel : Channel} {now : Instant} {newId : Uuid}
    (reached : channel.Reaches db id)
    (refused : (decideRecommendation platform settings db id (channel.decision now newId)).2 =
      .error (.refused message)) :
    channel.decide platform settings db id now newId =
    ((decideRecommendation platform settings db id (channel.decision now newId)).1, .refused message) := by
  have committed : ∀ {result : Db × Except DecisionError SourceRecommendation},
      result.2 = .error (.refused message) → commitDecision db result = (result.1, .refused message) := by
    rintro ⟨after, outcome⟩ rfl
    rfl
  have committed := committed refused
  cases channel with
  | browser call => exact (if_neg (not_not.mpr reached)).trans committed
  | telegram job =>
  obtain ⟨bound, found, same⟩ := reached
  rw [mem_def] at found
  unfold Channel.decide telegramRecommendationAction
  rw [found]
  dsimp only
  rw [if_neg (not_not.mpr same)]
  unfold Channel.decision at committed
  rw [committed]
  rfl

end

/-- What either caller commits after `decide_recommendation` refused creates and
changes no configuration and leaves the recommendation as it was or stale,
exactly if the refusal was not over a segment missing from the latest
configuration. -/
theorem refused_decisions_inert (platform : SegmentPlatform) (settings : RecommendationSettings)
    {db : Db} {id : Uuid} {channel : Channel} {now : Instant} {newId : Uuid} {message : String}
    (reached : channel.Reaches db id)
    (refused : (decideRecommendation platform settings db id (channel.decision now newId)).2 =
      .error (.refused message)) :
    Inert db (channel.decide platform settings db id now newId).1 id ↔
      Founded settings db id (channel.decision now newId) := by
  rw [Channel.decide_refused reached refused]
  exact decideRecommendation_inert_iff refused

def plainSegments : SegmentPlatform where
  toCasing := plainCasing
  casefold := id
  checksum := fun segments _ => toString segments.length

def applying : RecommendationSettings := { applyEnabled := true, shadowMode := false }

def acquisitionDb (segmentKey : String) (version : Option Nat) : Db :=
  { configurations :=
      [{ id := 1, version := 1, status := .active, segments := [{ key := "TX::roofing" }] },
        { id := 2, version := 2, status := .scheduled, scheduledAt := some 0,
          segments := [{ key := "TX::roofing" }] }]
    recommendations :=
      [{ id := 7, segmentKey, action := .pause, evidenceChecksum := "0123456789abcdef",
         configurationVersion := version }] }

def browserApproval : Channel :=
  .browser
    { action := "approve", userId := 5, reason := "Weak segment",
      evidenceChecksum := some "0123456789abcdef" }

def telegramApproval (version : Option Nat) : Channel :=
  .telegram
    { action := "approve", approverUserId := "42", configurationVersion := version,
      evidenceChecksum := "01234567" }

theorem refused_decisions_inert_stale :
    let db := acquisitionDb "TX::roofing" (some 1)
    (decideRecommendation plainSegments applying db 7 (browserApproval.decision (days 1) 3)).2 =
        .error (.refused "Source Recommendation is stale; production was not changed.") ∧
      Inert db (browserApproval.decide plainSegments applying db 7 (days 1) 3).1 7 := by
  intro db
  have refused : (decideRecommendation plainSegments applying db 7
      (browserApproval.decision (days 1) 3)).2 =
        .error (.refused "Source Recommendation is stale; production was not changed.") := by
    decide +kernel
  have reached : browserApproval.Reaches db 7 := by
    change "approve" ∈ ["approve", "deny"]
    decide
  refine ⟨refused, (refused_decisions_inert plainSegments applying reached refused).mpr ?_⟩
  intro recommendation opens
  have found := opens.found
  cases found
  exact nomatch opens.current

/-- A recommendation for a segment that is not in the latest configuration is
refused through either channel, and the commit that follows replaces the
schedule and records the decision. -/
theorem refusal_replaces_schedule :
    let db := acquisitionDb "TX::gutters" none
    ∀ channel ∈ [browserApproval, telegramApproval none],
    (channel.decide plainSegments applying db 7 (days 1) 3).2 =
        .refused "The recommended Source Segment is not in the current configuration." ∧
      db.configurations.map ScraperConfiguration.status = [.active, .scheduled] ∧
      (channel.decide plainSegments applying db 7 (days 1) 3).1.configurations.map
      ScraperConfiguration.status =
        [.active, .scheduleReplaced] ∧
      ((channel.decide plainSegments applying db 7 (days 1) 3).1.recommendation? 7).map
        (fun r => (r.status, r.decidedAt)) = some (.pending, some (days 1)) := by
  decide +kernel

end Jawnix
