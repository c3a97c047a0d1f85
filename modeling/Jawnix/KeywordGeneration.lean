import Mathlib.Algebra.GroupWithZero.Nat
import Jawnix.Models

/-!
# Keyword generation

`generate_keywords`. At most five requests are made to the provider. What it answers
is filtered by format and against all that is excluded or accepted so far. The
normalisation, the format rules and the near-duplicate relation are arbitrary.
-/
namespace Jawnix

structure KeywordPolicy where
  normalize : String → String
  invalidReason : String → Option String
  isNearDuplicate : String → String → Bool

inductive GenerationErrorCode where
  | notConfigured | invalidSeed | conflict | providerRejected | invalidApiKey | insufficientCredit |
      modelForbidden
  | timeout | rateLimited | invalidProviderResponse | providerUnreachable | providerUnavailable |
      truncated | malformed
  | insufficientCandidates | noCandidates | spendBlocked | nicheProposalFailed | failed
  deriving DecidableEq

def GenerationErrorCode.retryable : GenerationErrorCode → Bool
  | .noCandidates | .spendBlocked | .notConfigured | .invalidSeed | .providerRejected | .invalidApiKey
  | .insufficientCredit | .modelForbidden | .rateLimited => false
  | _ => true

def GenerationErrorCode.modelSpecific (code : GenerationErrorCode) : Bool :=
  decide (code = .providerRejected) || decide (code = .modelForbidden)

namespace KeywordPolicy

def rejection (policy : KeywordPolicy) (previous : List String) (keyword : String) : Option String :=
  match if keyword = "" then some "invalid_format" else policy.invalidReason keyword with
  | some reason => some reason
  | none => if previous.any (policy.isNearDuplicate keyword) then some "duplicate" else none

structure Filtered where
  selected : List String := []
  rejected : List (String × String) := []

/-- The loop of `_filter_candidates`, which stops at the term that fills the batch. -/
def filterLoop (policy : KeywordPolicy) (previous : List String) (remaining : Nat) :
    List String → Filtered → Filtered
  | [], found => found
  | raw :: rest, found =>
    let keyword := policy.normalize raw
    match policy.rejection (previous ++ found.selected) keyword with
    | some reason =>
      let candidate := if keyword = "" then "<invalid>" else keyword
      filterLoop policy previous remaining rest
      { found with rejected := found.rejected ++ [(candidate, reason)] }
    | none =>
      let selected := found.selected ++ [keyword]
      if selected.length = remaining then { found with selected }
      else filterLoop policy previous remaining rest { found with selected }

end KeywordPolicy

structure KeywordGenerator where
  policy : KeywordPolicy
  configuredModels : List String
  candidateBatchSize : Nat
  oversample : Bool
  subfamilyPrompt : Bool

/-- A `KeywordGenerationError`, any other exception that reading the answer raises, or the items of
the answer: `none` is one that is no text. -/
inductive ProviderReply where
  | error (code : GenerationErrorCode)
  | raised (fault : Fault)
  | content (items : List (Option String))

structure Attempt where
  candidates : Nat := 0
  surplus : Nat := 0

structure GenerationMetrics where
  attemptCount : Nat
  candidateCount : Nat
  acceptedCount : Nat
  rejectedCount : Nat
  surplusCount : Nat

inductive Generated where
  | complete (terms : List String) (metrics : GenerationMetrics)
  | failed (code : GenerationErrorCode) (partialTerms : List String) (metrics : Option GenerationMetrics)

structure GenerationRun where
  accepted : List String := []
  rejected : List (String × String) := []
  attempts : List Attempt := []
  modelIndex : Nat := 0
  lastError : Option GenerationErrorCode := none

def GenerationRun.metrics (run : GenerationRun) : GenerationMetrics where
  attemptCount := run.attempts.length
  candidateCount := (run.attempts.map Attempt.candidates).sum
  acceptedCount := run.accepted.length
  rejectedCount := run.rejected.length
  surplusCount := (run.attempts.map Attempt.surplus).sum

namespace KeywordGenerator

def maxAttempts : Nat := 5

variable (generator : KeywordGenerator)

def readReply (requested : Nat) : ProviderReply → Except (Fault ⊕ GenerationErrorCode) (List String)
  | .error code => .error (.inr code)
  | .raised fault => .error (.inl fault)
  | .content items =>
    if items = [] ∧ generator.subfamilyPrompt then .error (.inr .noCandidates)
    else if items = [] ∨ (requested < items.length ∧ generator.oversample = false) ∨
        items.any Option.isNone then
      .error (.inr .malformed)
    else .ok items.reduceOption

/-- How an attempt ends: the loop goes on, returns or raises. -/
inductive AttemptEnd where
  | again (run : GenerationRun)
  | stop (outcome : Except Fault Generated)

def attempt (excluded : List String) (count : Nat) (run : GenerationRun) (reply : ProviderReply) :
    AttemptEnd :=
  let remaining := count - run.accepted.length
  let batch := generator.candidateBatchSize
  let requested := if generator.oversample then batch else min batch remaining
  let fallback := decide (run.modelIndex + 1 < generator.configuredModels.length)
  match generator.readReply requested reply with
  -- only a `KeywordGenerationError` is caught
  | .error (.inl fault) => .stop (.error fault)
  | .error (.inr code) =>
    let noted := { run with lastError := some code, attempts := run.attempts ++ [{}] }
    if code.retryable = false ∧ (code.modelSpecific && fallback) = false then
      .stop (.ok (.failed code noted.accepted (some noted.metrics)))
    else .again (if fallback then { noted with modelIndex := run.modelIndex + 1 } else noted)
  | .ok candidates =>
    let found := generator.policy.filterLoop (excluded ++ run.accepted) remaining candidates {}
    let surplus := candidates.length - found.selected.length - found.rejected.length
    let noted : GenerationRun :=
      { accepted := run.accepted ++ found.selected, rejected := run.rejected ++ found.rejected
        attempts := run.attempts ++ [{ candidates := candidates.length, surplus }]
        modelIndex := run.modelIndex }
    if noted.accepted.length = count then .stop (.ok (.complete noted.accepted noted.metrics))
    -- a model that mostly repeats history yields to the next one
    else .again
      (if 10 * found.selected.length < 3 * requested ∧ fallback then
        { noted with modelIndex := run.modelIndex + 1 }
       else noted)

def attemptLoop (excluded : List String) (count : Nat) (reply : Nat → ProviderReply) :
    Nat → GenerationRun → Except Fault Generated
  | 0, run => .ok (.failed (run.lastError.getD .insufficientCandidates) run.accepted (some run.metrics))
  | left + 1, run =>
    match generator.attempt excluded count run (reply (maxAttempts - left)) with
    | .stop outcome => outcome
    | .again run => attemptLoop excluded count reply left run

def normalizedKeywords (keywords : List String) : List String :=
  (keywords.map generator.policy.normalize).filter (fun value => value ≠ "")

/-- The order of the exclusions shows in the prompt alone. -/
def generateKeywords (adjacent : Bool) (seedKeyword : Option String)
    (excludedKeywords : List String) (count : Nat) (reply : Nat → ProviderReply) : Except Fault Generated :=
  if adjacent ∧ seedKeyword.getD "" = "" then .ok (.failed .invalidSeed [] none)
  else if count < 1 then .error (.value "Keyword generation count must be positive")
  else generator.attemptLoop (generator.normalizedKeywords excludedKeywords) count reply maxAttempts {}

/-- The answers to the requests that the loop makes. -/
def answersFrom (excluded : List String) (count : Nat) (reply : Nat → ProviderReply) :
    Nat → GenerationRun → List ProviderReply
  | 0, _ => []
  | left + 1, run =>
    reply (maxAttempts - left) ::
      match generator.attempt excluded count run (reply (maxAttempts - left)) with
      | .stop _ => []
      | .again run => answersFrom excluded count reply left run

def answers (adjacent : Bool) (seedKeyword : Option String) (excludedKeywords : List String)
    (count : Nat) (reply : Nat → ProviderReply) : List ProviderReply :=
  if adjacent ∧ seedKeyword.getD "" = "" then []
  else generator.answersFrom (generator.normalizedKeywords excludedKeywords) count reply maxAttempts {}

end KeywordGenerator

structure CleanTerms (policy : KeywordPolicy) (excluded terms : List String) : Prop where
  format : ∀ term ∈ terms, term ≠ "" ∧ policy.invalidReason term = none
  unexcluded : ∀ term ∈ terms, ∀ other ∈ excluded, policy.isNearDuplicate term other = false
  apart : terms.Pairwise fun earlier later => policy.isNearDuplicate later earlier = false

structure GenerationMetrics.Balanced (metrics : GenerationMetrics) (terms : List String) : Prop where
  attempts : metrics.attemptCount ≤ KeywordGenerator.maxAttempts
  candidates : metrics.candidateCount = metrics.acceptedCount + metrics.rejectedCount + metrics.surplusCount
  accepted : metrics.acceptedCount = terms.length

def Generated.Sound (policy : KeywordPolicy) (excluded : List String) (count : Nat) : Generated → Prop
  | .complete found metrics => found.length = count ∧ CleanTerms policy excluded found ∧
      metrics.Balanced found
  | .failed _ found metrics =>
    found.length < count ∧ CleanTerms policy excluded found ∧ ∀ reported ∈ metrics, reported.Balanced found

section
variable {policy : KeywordPolicy} {excluded terms : List String} {count : Nat}

theorem CleanTerms.concat (clean : CleanTerms policy excluded terms) {keyword : String}
    (passes : policy.rejection (excluded ++ terms) keyword = none) :
    CleanTerms policy excluded (terms ++ [keyword]) := by
  obtain ⟨format, distinct⟩ : (keyword ≠ "" ∧ policy.invalidReason keyword = none) ∧
      ∀ other ∈ excluded ++ terms, policy.isNearDuplicate keyword other = false := by
    unfold KeywordPolicy.rejection at passes
    split at passes
    · cases passes
    case h_2 wellFormed =>
    split at wellFormed
    · cases wellFormed
    case isFalse nonempty =>
    split at passes
    · cases passes
    case isFalse fresh => exact ⟨⟨nonempty, wellFormed⟩, by simpa [or_imp, forall_and] using fresh⟩
  refine ⟨?_, ?_, pairwise_append.mpr ⟨clean.apart, List.pairwise_singleton _ _, ?_⟩⟩
  · intro term member
    rcases mem_append.mp member with old | new
    · exact clean.format term old
    · exact mem_singleton.mp new ▸ format
  · intro term member other inside
    rcases mem_append.mp member with old | new
    · exact clean.unexcluded term old other inside
    rw [mem_singleton.mp new]
    exact distinct other (mem_append_left _ inside)
  intro earlier inside later last
  rw [mem_singleton.mp last]
  exact distinct earlier (mem_append_right _ inside)

theorem filterLoop_sound {remaining : Nat} (candidates : List String)
    (found : KeywordPolicy.Filtered) (room : found.selected.length < remaining)
    (clean : CleanTerms policy excluded (terms ++ found.selected)) :
    let after := policy.filterLoop (excluded ++ terms) remaining candidates found
    CleanTerms policy excluded (terms ++ after.selected) ∧ after.selected.length ≤ remaining ∧
      after.selected.length + after.rejected.length ≤
        found.selected.length + found.rejected.length + candidates.length := by
  induction candidates generalizing found with
  | nil => exact ⟨clean, room.le, Nat.le_refl _⟩
  | cons raw rest ih =>
  dsimp only [KeywordPolicy.filterLoop]
  split
  case h_1 reason _ =>
    obtain ⟨kept, filled, few⟩ := ih ⟨found.selected, found.rejected ++ [(_, reason)]⟩ room clean
    simp only [length_append, List.length_singleton] at few
    exact ⟨kept, filled, by simp only [List.length_cons]; omega⟩
  case h_2 passes =>
  rw [append_assoc] at passes
  have grown := clean.concat passes
  rw [append_assoc] at grown
  have size : (found.selected ++ [policy.normalize raw]).length = found.selected.length + 1 := length_append
  split
  case isTrue full => exact ⟨grown, full.le, by simp only [List.length_cons]; omega⟩
  case isFalse short =>
  obtain ⟨kept, filled, few⟩ :=
    ih ⟨found.selected ++ [policy.normalize raw], found.rejected⟩ (by dsimp only; omega) grown
  dsimp only at few
  exact ⟨kept, filled, by simp only [List.length_cons]; omega⟩

/-- Before each request the batch is not full, and each candidate so far is accounted for once. -/
structure GenerationRun.Sound (policy : KeywordPolicy) (excluded : List String) (count left : Nat)
    (run : GenerationRun) :
    Prop where
  clean : CleanTerms policy excluded run.accepted
  short : run.accepted.length < count
  attempts : run.attempts.length + left = KeywordGenerator.maxAttempts
  balance : run.metrics.candidateCount = run.accepted.length + run.rejected.length + run.metrics.surplusCount

theorem readReply_raised_iff {generator : KeywordGenerator} {requested : Nat} {reply : ProviderReply}
    {fault : Fault} : generator.readReply requested reply = .error (.inl fault) ↔ reply = .raised fault := by
  cases reply with
  | error code => exact ⟨nofun, nofun⟩
  | raised other => simp [KeywordGenerator.readReply]
  | content items =>
    refine ⟨fun read => ?_, nofun⟩
    simp only [KeywordGenerator.readReply] at read
    split_ifs at read <;> cases read

/-- What an attempt leaves or returns is sound, and it raises exactly if reading the answer does. -/
theorem KeywordGenerator.attempt_sound (generator : KeywordGenerator) (reply : ProviderReply)
    {left : Nat} {run : GenerationRun}
    (sound : run.Sound generator.policy excluded count (left + 1)) :
    match generator.attempt excluded count run reply with
    | .again after => after.Sound generator.policy excluded count left ∧ ∀ fault, reply ≠ .raised fault
    | .stop (.ok outcome) => outcome.Sound generator.policy excluded count ∧ ∀ fault, reply ≠ .raised fault
    | .stop (.error fault) => reply = .raised fault := by
  have attempts := sound.attempts
  have balance := sound.balance
  have short := sound.short
  simp only [GenerationRun.metrics] at balance
  unfold KeywordGenerator.attempt
  extract_lets remaining batch requested fallback
  cases read : generator.readReply requested reply with
  | error problem =>
    cases problem with
    | inl fault => exact readReply_raised_iff.mp read
    | inr code =>
      have typed : ∀ fault, reply ≠ .raised fault := fun fault same =>
        nomatch read.symm.trans (readReply_raised_iff.mpr same)
      dsimp -zeta only
      extract_lets noted
      have kept : noted.Sound generator.policy excluded count left := by
        refine ⟨sound.clean, short, ?_, ?_⟩
        · simp only [noted, length_append, List.length_singleton]
          omega
        · simpa [noted, GenerationRun.metrics] using balance
      split_ifs
      · refine ⟨⟨short, sound.clean, ?_⟩, typed⟩
        rintro _ ⟨⟩
        exact ⟨by have := kept.attempts; simp only [GenerationRun.metrics]; omega, kept.balance, rfl⟩
      · exact ⟨⟨kept.clean, kept.short, kept.attempts, kept.balance⟩, typed⟩
      · exact ⟨kept, typed⟩
  | ok candidates =>
    have typed : ∀ fault, reply ≠ .raised fault := fun fault same =>
      nomatch read.symm.trans (readReply_raised_iff.mpr same)
    dsimp -zeta only
    extract_lets found surplus noted
    have room : 0 < remaining := Nat.sub_pos_of_lt short
    obtain ⟨clean, filled, few⟩ :=
      filterLoop_sound candidates {} room ((append_nil run.accepted).symm ▸ sound.clean)
    change CleanTerms _ _ (run.accepted ++ found.selected) at clean
    change found.selected.length ≤ remaining at filled
    change found.selected.length + found.rejected.length ≤ 0 + 0 + candidates.length at few
    have counted : noted.attempts.length + left = KeywordGenerator.maxAttempts := by
      simp only [noted, length_append, List.length_singleton]
      omega
    have balanced : noted.metrics.candidateCount =
        noted.accepted.length + noted.rejected.length + noted.metrics.surplusCount := by
      simp only [noted, surplus, GenerationRun.metrics, map_append, List.sum_append, length_append,
        List.map_singleton, List.sum_singleton]
      omega
    split_ifs with full
    · exact ⟨⟨full, clean, by simp only [GenerationRun.metrics]; omega, balanced, rfl⟩, typed⟩
    all_goals
      have size : noted.accepted.length < count := by
        simp only [noted, length_append, remaining] at full filled ⊢
        omega
      exact ⟨⟨clean, size, counted, balanced⟩, typed⟩

/-- The loop returns or fails as it should, unless an answer to one of its requests raises. -/
theorem KeywordGenerator.attemptLoop_sound (generator : KeywordGenerator)
    (reply : Nat → ProviderReply) (left : Nat)
    (run : GenerationRun) (sound : run.Sound generator.policy excluded count left) :
    match generator.attemptLoop excluded count reply left run with
    | .ok outcome => outcome.Sound generator.policy excluded count ∧
        ∀ answer ∈ generator.answersFrom excluded count reply left run, ∀ fault, answer ≠ .raised fault
    | .error fault => .raised fault ∈ generator.answersFrom excluded count reply left run := by
  induction left generalizing run with
  | zero =>
    refine ⟨⟨sound.short, sound.clean, ?_⟩, nofun⟩
    rintro _ ⟨⟩
    exact ⟨sound.attempts.le, sound.balance, rfl⟩
  | succ left ih =>
    have step := KeywordGenerator.attempt_sound generator (reply (KeywordGenerator.maxAttempts - left)) sound
    unfold KeywordGenerator.attemptLoop KeywordGenerator.answersFrom
    cases ends : generator.attempt excluded count run (reply (KeywordGenerator.maxAttempts - left)) with
    | stop outcome =>
      rw [ends] at step
      cases outcome with
      | ok outcome => exact ⟨step.1, List.forall_mem_singleton.mpr step.2⟩
      | error fault => exact mem_singleton.mpr step.symm
    | again after =>
      rw [ends] at step
      have rest := ih after step.1
      dsimp only
      cases loop : generator.attemptLoop excluded count reply left after with
      | ok outcome =>
        rw [loop] at rest
        exact ⟨rest.1, List.forall_mem_cons.mpr ⟨step.2, rest.2⟩⟩
      | error fault =>
        rw [loop] at rest
        exact mem_cons_of_mem _ rest

/-- A generation of `count` terms ends after at most five requests with that many clean terms, or
fails with fewer, and its metrics account for every candidate, exactly if no answer to its requests
raises anything but its own error. -/
theorem keyword_generation_accounts_iff (generator : KeywordGenerator) (adjacent : Bool)
    (seedKeyword : Option String) (excludedKeywords : List String) (reply : Nat → ProviderReply)
    (positive : 1 ≤ count) :
    (∃ outcome, generator.generateKeywords adjacent seedKeyword excludedKeywords count reply = .ok outcome ∧
      outcome.Sound generator.policy (generator.normalizedKeywords excludedKeywords) count) ↔
      ∀ answer ∈ generator.answers adjacent seedKeyword excludedKeywords count reply,
        ∀ fault, answer ≠ .raised fault := by
  unfold KeywordGenerator.generateKeywords KeywordGenerator.answers
  split
  · exact ⟨fun _ => nofun, fun _ => ⟨_, rfl, positive, ⟨by simp, by simp, .nil⟩, by simp⟩⟩
  rw [if_neg (Nat.not_lt.mpr positive)]
  have start : GenerationRun.Sound generator.policy (generator.normalizedKeywords excludedKeywords) count
      KeywordGenerator.maxAttempts {} := ⟨⟨by simp, by simp, .nil⟩, positive, rfl, rfl⟩
  have loop := KeywordGenerator.attemptLoop_sound generator reply _ {} start
  cases ends : generator.attemptLoop (generator.normalizedKeywords excludedKeywords) count reply
      KeywordGenerator.maxAttempts {} with
  | ok outcome =>
    rw [ends] at loop
    exact ⟨fun _ => loop.2, fun _ => ⟨outcome, rfl, loop.1⟩⟩
  | error fault =>
    rw [ends] at loop
    constructor
    · rintro ⟨_, ⟨⟩, _⟩
    · intro typed
      exact absurd rfl (typed _ loop fault)

end

def plainGenerator : KeywordGenerator where
  policy := { normalize := id, invalidReason := fun _ => none, isNearDuplicate := fun a b => decide (a = b) }
  configuredModels := ["first", "second"]
  candidateBatchSize := 3
  oversample := true
  subfamilyPrompt := false

/-- The first model is refused, and the second repeats an exclusion. -/
def repeatingReply : Nat → ProviderReply
  | 1 => .error .modelForbidden
  | _ => .content [some "roofing", some "plumbing", some "plumbing", some "paving"]

theorem keyword_generation_accounts_repeating :
    plainGenerator.generateKeywords false none ["roofing"] 2 repeatingReply =
        .ok (.complete ["plumbing", "paving"] ⟨2, 4, 2, 2, 0⟩) ∧
      ((∃ outcome, plainGenerator.generateKeywords false none ["roofing"] 2 repeatingReply = .ok outcome ∧
        outcome.Sound plainGenerator.policy ["roofing"] 2) ↔
          ∀ answer ∈ plainGenerator.answers false none ["roofing"] 2 repeatingReply,
            ∀ fault, answer ≠ .raised fault) :=
  ⟨rfl, keyword_generation_accounts_iff plainGenerator false none ["roofing"] repeatingReply (by decide)⟩

/-- The answer `{"choices": ["x"]}` comes after a term was accepted. -/
def strangeReply : Nat → ProviderReply
  | 1 => .content [some "paving"]
  | _ => .raised (.runtime "'str' object has no attribute 'get'")

/-- The second answer raises what no handler catches, and the accepted term is lost. -/
theorem keyword_generation_escapes :
    plainGenerator.generateKeywords false none [] 2 strangeReply =
      .error (.runtime "'str' object has no attribute 'get'") := rfl

end Jawnix
