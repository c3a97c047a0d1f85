import Jawnix.AdminMfa

/-!
# What an administrator's request does

One pass over the endpoints for all that is required of them elsewhere: what becomes of
the row's session generation, of the counter of refused codes and of the factors.
-/
namespace Jawnix

structure Generates (row : AdminMFAState) (o : MfaOutcome) : Prop where
  committed : ∀ row' ∈ o.committed, row'.sessionGeneration = row.sessionGeneration +
    if o.revokes then 1 else 0
  cookie : ∀ row' ∈ o.committed, ∀ c ∈ o.cookie, c.sessionGeneration = row'.sessionGeneration

/-- A refused code: when its request was checked and when it was refused. -/
structure CodeRefusal where
  begun : Instant
  at_ : Instant
  deriving DecidableEq

/-- The time of a passed code is that of the check before it. -/
inductive CodeEvent where
  | passed (begun : Instant)
  | refused (refusal : CodeRefusal)
  deriving DecidableEq

def MfaRequest.period : MfaRequest → Option (Instant × Instant)
  | .status _ answers => some (answers.checkedAt, answers.checkedAt)
  | .verify _ _ answers => some (answers.checkedAt, answers.failedAt)
  | .challenge _ _ _ answers => some (answers.checkedAt, answers.failedAt)
  | .start .. | .cancel .. | .replacement .. | .logout .. => none

def ProviderCall.submits : ProviderCall → Bool
  | .submitCode .. => true
  | _ => false

def ProviderCall.accepts : ProviderCall → Bool
  | .submitCode _ accepted => accepted
  | _ => false

def MfaOutcome.events (o : MfaOutcome) (period : Option (Instant × Instant)) : List CodeEvent :=
  match period with
  | none => []
  | some (begun, ended) =>
    (if o.calls.any ProviderCall.submits then [.passed begun] else []) ++
      if o.challengeFailed then [.refused { begun, at_ := ended }] else []

structure Throttle where
  failedAttempts : Nat := 0
  windowStartedAt : Option Instant := none
  lockedUntil : Option Instant := none

def AdminMFAState.throttle (row : AdminMFAState) : Throttle :=
  ⟨row.failedAttempts, row.failureWindowStartedAt, row.lockedUntil⟩

/-- Every way a request without an accepted code ends. -/
inductive ThrottleMove (settings : MfaSettings) (row : AdminMFAState) : MfaRequest → MfaOutcome → Prop
  | quiet {q : MfaRequest} {o : MfaOutcome} (events : ∀ period, o.events period = [])
      (kept : ∀ row', o.committed = some row' → row'.throttle = row.throttle) : ThrottleMove settings row q o
  | checked {q : MfaRequest} {o : MfaOutcome} {begun ended : Instant}
      (period : q.period = some (begun, ended))
      (events : ∀ period, o.events period = [])
      (kept : ∀ row', o.committed = some row' →
        row'.throttle = (throttleStatus settings begun row).2.throttle) :
      ThrottleMove settings row q o
  | attempted {q : MfaRequest} {begun ended : Instant} {factorId : Uuid}
      {attempt : Bool × Answer Unit} {error : MFAProviderError}
      (period : q.period = some (begun, ended))
      (unlocked : (throttleStatus settings begun row).1 = false) : ThrottleMove settings row q
        (codeFailed settings (throttleStatus settings begun row).2 ended error (codeCalls factorId attempt))
  | cancelled {principal : Principal} {answers : CancelAnswers} {o : MfaOutcome}
      (events : ∀ period, o.events period = [])
      (reset : ∀ row', o.committed = some row' → row'.throttle = {}) :
      ThrottleMove settings row (.cancel principal answers) o

def ProviderCall.mayRemove (f : Uuid) : ProviderCall → Bool
  | .deleteFactor id _ => id = f
  | .enroll replacement _ => replacement
  | .submitCode .. | .logout _ => false

def MfaRequest.replacementStarted : MfaRequest → List (Uuid × Identity)
  | .replacement _ lostFactorId _ answers => answers.identity.toOption.toList.map
      (fun holder => (lostFactorId, holder))
  | _ => []

variable (settings : MfaSettings) (row : AdminMFAState)

/-- On what ground a request asks for a removal of `f`. -/
def RemovalGround (f : Uuid) : MfaRequest → Prop
  | .start .. => row.activeFactorId = some f
  | .cancel .. => f ∈ row.enrollmentNewFactorIds ∧ f ∉ row.enrollmentBaselineFactorIds
  | .verify _ _ answers =>
    row.replacementFactorId = some f ∧ answers.verified = .ok () ∧ ∃ user,
    answers.session = .ok user ∧ user.aal = "aal2"
  | .replacement _ _ password answers =>
    settings.provider = .betterAuth ∧ password ∧ ∃ holder, answers.identity = .ok holder ∧
    holder.aal = "aal2"
  | .status .. | .challenge .. | .logout .. => False

/-- The deletions of a request have a ground, and a lost factor on record was there before or is
that of a replacement the request starts with an aal2 token. -/
structure FactorEffect (q : MfaRequest) (o : MfaOutcome) : Prop where
  ground : ∀ f, ∀ call ∈ o.calls, call.mayRemove f → RemovalGround settings row f q
  lost : ∀ row', o.committed = some row' → ∀ f, row'.replacementFactorId = some f →
    row.replacementFactorId = some f ∨ ∃ holder, (f, holder) ∈ q.replacementStarted ∧ holder.aal = "aal2"

structure MfaEffect (q : MfaRequest) (o : MfaOutcome) : Prop where
  generates : Generates row o
  moves : (∀ call ∈ o.calls, call.accepts = false) → ThrottleMove settings row q o
  factors : FactorEffect settings row q o

section
variable {settings : MfaSettings} {row : AdminMFAState} {q : MfaRequest} {calls : List ProviderCall}
  {f : Uuid} {call : ProviderCall}

theorem events_silent {o : MfaOutcome} (calls : o.calls.any ProviderCall.submits = false)
    (failed : o.challengeFailed = false) (period : Option (Instant × Instant)) :
    o.events period = [] := by
  unfold MfaOutcome.events
  cases period with
  | none => rfl
  | some p => simp [calls, failed]

theorem identityForToken_ok {principal : Principal} {answer : Answer Identity} {user : Identity}
    (found : identityForToken principal answer = .ok user) : answer = .ok user := by
  unfold identityForToken at found
  cases answer with
  | error error => cases found
  | ok value =>
    dsimp only at found
    split at found
    · cases found
    cases found
    rfl

theorem verifyFactor_ok {provider : AuthProvider} {method : CodeMethod}
    {challenged verified : Answer Unit} (factorId : Uuid)
    (accepted : (verifyFactor provider method challenged verified).2 = .ok ()) :
    verified = .ok () ∧
    ProviderCall.submitCode factorId true ∈ codeCalls factorId
    (verifyFactor provider method challenged verified) := by
  unfold verifyFactor at accepted ⊢
  cases challenged with
  | error error => cases accepted
  | ok value =>
  dsimp only at accepted ⊢
  split at accepted
  · cases accepted
  case isFalse passes =>
  dsimp only at accepted
  rw [if_neg passes, accepted]
  exact ⟨rfl, mem_singleton_self _⟩

def Harmless (calls : List ProviderCall) : Prop := ∀ f, ∀ call ∈ calls, call.mayRemove f = false

theorem Harmless.nil : Harmless [] := fun _ _ member => absurd member not_mem_nil

theorem Harmless.codeCalls (factorId : Uuid) (attempt : Bool × Answer Unit) :
    Harmless (codeCalls factorId attempt) := by
  intro f call member
  unfold Jawnix.codeCalls at member
  split at member
  · cases mem_singleton.mp member
    rfl
  · exact absurd member not_mem_nil

theorem Harmless.ground (harmless : Harmless calls) :
    ∀ f, ∀ call ∈ calls, call.mayRemove f → RemovalGround settings row f q := by
  intro f call member removes
  rw [harmless f call member] at removes
  exact absurd removes false_ne_true

theorem deletion_removes {id : Option Uuid} {done : Bool}
    (member : call ∈ id.toList.map fun id => ProviderCall.deleteFactor id done)
    (removes : call.mayRemove f) : id = some f := by
  obtain ⟨deleted, listed, rfl⟩ := mem_map.mp member
  have same : deleted = f := of_decide_eq_true removes
  rw [← same]
  exact mem_toList.mp listed

theorem deleteAll_removes {deleted : Uuid → Answer Unit} {ids : List Uuid}
    (member : call ∈ (deleteAll deleted ids).1) (removes : call.mayRemove f) : f ∈ ids := by
  induction ids with
  | nil => exact absurd member not_mem_nil
  | cons id rest ih =>
  unfold deleteAll at member
  split at member
  · rcases mem_cons.mp member with rfl | later
    · exact mem_cons.mpr (.inl (of_decide_eq_true removes).symm)
    · exact mem_cons_of_mem _ (ih later)
  · cases mem_singleton.mp member
    exact mem_cons.mpr (.inl (of_decide_eq_true removes).symm)

theorem deleteAll_silent (deleted : Uuid → Answer Unit) (ids : List Uuid) :
    (deleteAll deleted ids).1.any ProviderCall.submits = false := by
  induction ids with
  | nil => rfl
  | cons id rest ih =>
    unfold deleteAll
    split
    · simpa [ProviderCall.submits] using ih
    · rfl

end

section
variable {settings : MfaSettings} {row checked : AdminMFAState} {q : MfaRequest} {fault : Fault}
  {calls : List ProviderCall}

structure SameGrant (row row' : AdminMFAState) : Prop where
  generation : row'.sessionGeneration = row.sessionGeneration
  replacement : row'.replacementFactorId = row.replacementFactorId

theorem throttleStatus_grant (settings : MfaSettings) (now : Instant) (row : AdminMFAState) :
    SameGrant row (throttleStatus settings now row).2 := by
  unfold throttleStatus
  split
  · exact ⟨rfl, rfl⟩
  split <;> exact ⟨rfl, rfl⟩

theorem recordFailure_grant (settings : MfaSettings) (now : Instant) (row : AdminMFAState) :
    SameGrant row (row.recordFailure settings now) := by
  unfold AdminMFAState.recordFailure
  dsimp only
  constructor
  · split <;> split <;> rfl
  · split <;> split <;> rfl

theorem openEnrollment_kept (factors : List ProviderFactor) (row : AdminMFAState) :
    SameGrant row (openEnrollment factors row) ∧ (openEnrollment factors row).activeFactorId =
    row.activeFactorId ∧
    (openEnrollment factors row).throttle = row.throttle := by
  unfold openEnrollment
  split <;> exact ⟨⟨rfl, rfl⟩, rfl, rfl⟩

theorem MfaEffect.refused (ground : ∀ f, ∀ call ∈ calls, call.mayRemove f → RemovalGround settings row f q)
    (silent : (∀ call ∈ calls, call.accepts = false) → calls.any ProviderCall.submits = false) :
    MfaEffect settings row q (.refused fault calls) where
  generates := ⟨nofun, nofun⟩
  moves unaccepted := .quiet (events_silent (silent unaccepted) rfl) nofun
  factors := ⟨ground, nofun⟩

theorem MfaEffect.refused_nil : MfaEffect settings row q (.refused fault) :=
  .refused Harmless.nil.ground fun _ => rfl

variable {o : MfaOutcome} {row' : AdminMFAState} {begun ended : Instant} (principal : Principal)

theorem MfaEffect.committed (committed : o.committed = some row')
    (generation : row'.sessionGeneration = row.sessionGeneration + if o.revokes then 1 else 0)
    (cookie : ∀ c ∈ o.cookie, c.sessionGeneration = row'.sessionGeneration)
    (ground : ∀ f, ∀ call ∈ o.calls, call.mayRemove f → RemovalGround settings row f q)
    (lost : ∀ f, row'.replacementFactorId = some f → row.replacementFactorId = some f ∨
      ∃ holder, (f, holder) ∈ q.replacementStarted ∧ holder.aal = "aal2")
    (moves : (∀ call ∈ o.calls, call.accepts = false) → ThrottleMove settings row q o) :
    MfaEffect settings row q o where
  generates := by
    constructor
    · intro r member
      cases committed.symm.trans member
      exact generation
    intro r member
    cases committed.symm.trans member
    exact cookie
  moves := moves
  factors := by
    refine ⟨ground, fun r member => ?_⟩
    cases committed.symm.trans member
    exact lost

theorem ThrottleMove.kept (silent : o.calls.any ProviderCall.submits = false)
    (failed : o.challengeFailed = false) (committed : o.committed = some row')
    (same : row'.throttle = row.throttle) : ThrottleMove settings row q o := by
  refine .quiet (events_silent silent failed) fun r member => ?_
  cases committed.symm.trans member
  exact same

theorem MfaEffect.of_check {answer : Except Fault Unit} (period : q.period = some (begun, ended)) :
    MfaEffect settings row q { committed := some (throttleStatus settings begun row).2, answer } := by
  obtain ⟨generation, replacement⟩ := throttleStatus_grant settings begun row
  refine .committed rfl generation nofun Harmless.nil.ground
    (fun f lost => .inl (replacement.symm.trans lost)) fun _ => ?_
  refine .checked period (events_silent rfl rfl) fun row' same => ?_
  exact congrArg AdminMFAState.throttle (some.inj same).symm

theorem codeFailed_effect {error : MFAProviderError} (factorId : Uuid) (attempt : Bool × Answer Unit)
    (period : q.period = some (begun, ended)) (unlocked : ¬(throttleStatus settings begun row).1) :
    MfaEffect settings row q
    (codeFailed settings (throttleStatus settings begun row).2 ended error
    (codeCalls factorId attempt)) := by
  have moves : ThrottleMove settings row q
      (codeFailed settings (throttleStatus settings begun row).2 ended error (codeCalls factorId attempt)) :=
    .attempted period (eq_false_iff.mpr unlocked)
  have harmless := Harmless.codeCalls factorId attempt
  obtain ⟨generation, replacement⟩ := throttleStatus_grant settings begun row
  unfold codeFailed at moves ⊢
  dsimp only at moves ⊢
  split
  case isTrue other =>
    rw [if_pos other] at moves
    exact .committed rfl generation nofun harmless.ground
      (fun f lost => .inl (replacement.symm.trans lost)) fun _ => moves
  case isFalse invalid =>
  rw [if_neg invalid] at moves
  have failed := recordFailure_grant settings ended (throttleStatus settings begun row).2
  exact .committed rfl (failed.generation.trans generation) nofun harmless.ground
    (fun f lost => .inl (replacement.symm.trans (failed.replacement.symm.trans lost))) fun _ => moves

theorem start_effect (password : Bool) (answers : StartAnswers) :
    MfaEffect settings row (.start principal password answers)
    (startEnrollment settings principal password answers row) := by
  unfold startEnrollment
  split
  · exact .refused_nil
  split
  · exact .refused_nil
  case h_2 factors _ =>
  split
  · exact .refused_nil
  obtain ⟨⟨generation, replacement⟩, active, throttle⟩ := openEnrollment_kept factors row
  have silent : ((openEnrollment factors row).activeFactorId.toList.map fun id =>
      ProviderCall.deleteFactor id answers.deleted.isOk).any ProviderCall.submits = false := by
    cases (openEnrollment factors row).activeFactorId <;> rfl
  have restart : ∀ f, ∀ call ∈ (openEnrollment factors row).activeFactorId.toList.map
      (fun id => ProviderCall.deleteFactor id answers.deleted.isOk), call.mayRemove f →
      row.activeFactorId = some f :=
    fun f call member removes => active.symm.trans (deletion_removes member removes)
  have enrolls : ∀ enrolled f, ∀ call ∈ (openEnrollment factors row).activeFactorId.toList.map
      (fun id => ProviderCall.deleteFactor id answers.deleted.isOk) ++ [.enroll false enrolled],
      call.mayRemove f → row.activeFactorId = some f := by
    intro enrolled f call member removes
    rcases mem_append.mp member with deletion | enrollment
    · exact restart f call deletion removes
    cases mem_singleton.mp enrollment
    exact absurd removes false_ne_true
  have quiet : ∀ enrolled, ((openEnrollment factors row).activeFactorId.toList.map
      (fun id => ProviderCall.deleteFactor id answers.deleted.isOk) ++
        [ProviderCall.enroll false enrolled]).any
      ProviderCall.submits = false := by
    intro enrolled
    rw [List.any_append, silent]
    rfl
  dsimp only
  split
  · exact .refused restart fun _ => silent
  split
  · exact .refused restart fun _ => silent
  split
  · exact .refused (enrolls none) fun _ => quiet none
  case h_2 id _ =>
  exact .committed rfl generation nofun (enrolls (some id))
    (fun f lost => .inl (replacement.symm.trans lost))
    fun _ => .kept (quiet (some id)) rfl rfl throttle

theorem verifyAccepted_effect {principal : Principal} {method : CodeMethod}
    {answers : VerifyAnswers} (factorId : Uuid) (accepted : answers.verified = .ok ())
    (code : ProviderCall.submitCode factorId true ∈ calls) (same : SameGrant row checked)
    (harmless : Harmless calls) :
    MfaEffect settings row (.verify principal method answers)
    (verifyAccepted principal answers factorId checked calls) := by
  unfold verifyAccepted
  split
  · exact .refused harmless.ground fun unaccepted => nomatch unaccepted _ code
  case h_2 user found =>
  split
  · exact .refused harmless.ground fun unaccepted => nomatch unaccepted _ code
  case isFalse raised =>
  have replaces : ∀ f, ∀ call ∈ calls ++ checked.replacementFactorId.toList.map
      (fun id => ProviderCall.deleteFactor id answers.deleted.isOk), call.mayRemove f →
      RemovalGround settings row f (.verify principal method answers) := by
    intro f call member removes
    rcases mem_append.mp member with code | deletion
    · exact harmless.ground f call code removes
    exact ⟨same.replacement.symm.trans (deletion_removes deletion removes), accepted, user,
      identityForToken_ok found, not_not.mp raised⟩
  split
  · exact .refused replaces fun unaccepted => nomatch unaccepted _ (mem_append_left _ code)
  split
  · exact .refused replaces fun unaccepted => nomatch unaccepted _ (mem_append_left _ code)
  refine .committed rfl (congrArg (· + 1) same.generation) (fun c issued => ?_) replaces nofun
    fun unaccepted => nomatch unaccepted _ (mem_append_left _ code)
  cases issued
  rfl

theorem verify_effect (method : CodeMethod) (answers : VerifyAnswers) :
    MfaEffect settings row (.verify principal method answers)
    (verifyEnrollment settings principal method answers row) := by
  unfold verifyEnrollment
  dsimp only
  split
  · exact .of_check rfl
  case isFalse unlocked =>
  split
  · exact .refused_nil
  case h_2 factorId _ =>
  split
  · exact .refused_nil
  split
  · exact .refused_nil
  split
  · exact codeFailed_effect _ _ rfl unlocked
  case h_2 accepted =>
  obtain ⟨verified, code⟩ := verifyFactor_ok factorId accepted
  exact verifyAccepted_effect _ verified code (throttleStatus_grant settings answers.checkedAt row)
    (.codeCalls _ _)

theorem challengeAccepted_effect (answers : ChallengeAnswers) (factorId : Uuid)
    (code : ProviderCall.submitCode factorId true ∈ calls) (same : SameGrant row checked)
    (harmless : Harmless calls) :
    MfaEffect settings row q (challengeAccepted principal answers factorId checked calls) := by
  unfold challengeAccepted
  split
  · exact .refused harmless.ground fun unaccepted => nomatch unaccepted _ code
  split
  · exact .refused harmless.ground fun unaccepted => nomatch unaccepted _ code
  refine .committed rfl same.generation (fun c issued => ?_) harmless.ground
    (fun f lost => .inl (same.replacement.symm.trans lost)) fun unaccepted => nomatch unaccepted _ code
  cases issued
  rfl

theorem challenge_effect (method : CodeMethod) (factorId : Uuid) (answers : ChallengeAnswers) :
    MfaEffect settings row (.challenge principal method factorId answers)
    (challengeAdminMfa settings principal method factorId answers row) := by
  unfold challengeAdminMfa
  dsimp only
  split
  · exact .of_check rfl
  case isFalse unlocked =>
  split
  · exact .refused_nil
  split
  · exact .refused_nil
  split
  · exact .refused_nil
  split
  · exact codeFailed_effect _ _ rfl unlocked
  case h_2 accepted =>
  exact challengeAccepted_effect _ _ _ (verifyFactor_ok factorId accepted).2
    (throttleStatus_grant settings answers.checkedAt row) (.codeCalls _ _)

theorem cancel_effect (answers : CancelAnswers) :
    MfaEffect settings row (.cancel principal answers) (cancelEnrollment principal answers row) := by
  unfold cancelEnrollment
  split
  · exact .refused_nil
  have deletes : ∀ f, ∀ call ∈ (deleteAll answers.deleted (row.enrollmentNewFactorIds.filter
      (fun id => id ∉ row.enrollmentBaselineFactorIds))).1, call.mayRemove f →
      RemovalGround settings row f (.cancel principal answers) := by
    intro f call member removes
    obtain ⟨new, fresh⟩ := mem_filter.mp (deleteAll_removes member removes)
    exact ⟨new, of_decide_eq_true fresh⟩
  dsimp only
  split
  · exact .refused deletes fun _ => deleteAll_silent _ _
  refine .committed rfl rfl (fun c issued => ?_) deletes nofun fun _ => ?_
  · cases issued
    rfl
  · exact .cancelled (events_silent (deleteAll_silent _ _) rfl) fun row' same =>
      congrArg AdminMFAState.throttle (some.inj same).symm

theorem replacement_effect (lostFactorId : Uuid) (password : Bool) (answers : ReplacementAnswers) :
    MfaEffect settings row (.replacement principal lostFactorId password answers)
    (startReplacement settings principal lostFactorId password answers row) := by
  unfold startReplacement
  split
  · exact .refused_nil
  case h_2 holder found =>
  split
  · exact .refused_nil
  case isFalse assured =>
  have token := identityForToken_ok found
  split
  · exact .refused_nil
  split
  · exact .refused_nil
  split
  · exact .refused_nil
  split
  · exact .refused_nil
  case isFalse withPassword =>
  have enrolls :
    ∀ enrolled f,
    ∀ call ∈ [ProviderCall.enroll (decide (settings.provider = .betterAuth)) enrolled],
    call.mayRemove f →
      RemovalGround settings row f (.replacement principal lostFactorId password answers) := by
    intro enrolled f call member removes
    cases mem_singleton.mp member
    have provider : settings.provider = .betterAuth := of_decide_eq_true removes
    have given : password := by
      cases password with
      | true => rfl
      | false => exact absurd ⟨provider, rfl⟩ withPassword
    exact ⟨provider, given, holder, token, not_not.mp assured⟩
  have lost : ∀ f, some lostFactorId = some f → row.replacementFactorId = some f ∨ ∃ holder, (f, holder) ∈
        (MfaRequest.replacement principal lostFactorId password answers).replacementStarted ∧
        holder.aal = "aal2" := by
    intro f same
    cases same
    refine .inr ⟨holder, ?_, not_not.mp assured⟩
    simp [MfaRequest.replacementStarted, token, Except.toOption]
  split
  · exact .refused (enrolls none) fun _ => rfl
  case h_2 id withSession _ =>
  split
  · exact .committed rfl rfl nofun (enrolls (some id)) lost fun _ => .kept rfl rfl rfl rfl
  split
  · exact .refused (enrolls (some id)) fun _ => rfl
  refine .committed rfl rfl (fun c issued => ?_) (enrolls (some id)) lost fun _ => .kept rfl rfl rfl rfl
  cases issued
  rfl

theorem run_effect (q : MfaRequest) : MfaEffect settings row q (q.run settings row) := by
  cases q with
  | status principal answers =>
    dsimp only [MfaRequest.run, adminMfaStatus]
    split
    · exact .refused_nil
    split
    · exact .refused_nil
    split
    · split <;> exact .refused_nil
    · exact .of_check rfl
  | start principal password answers => exact start_effect principal password answers
  | verify principal method answers => exact verify_effect principal method answers
  | challenge principal method factorId answers => exact challenge_effect principal method factorId answers
  | cancel principal answers => exact cancel_effect principal answers
  | replacement principal lostFactorId password answers =>
      exact replacement_effect principal lostFactorId password answers
  | logout principal answers =>
  have harmless : Harmless [.logout answers.loggedOut.isOk] := by
    intro f call member
    cases mem_singleton.mp member
    rfl
  dsimp only [MfaRequest.run, logoutEverywhere]
  split
  · exact .refused_nil
  · exact .committed rfl rfl nofun harmless.ground (fun f => .inl) fun _ => .kept rfl rfl rfl rfl

end

end Jawnix
