import Jawnix.Clock

/-!
# Administrator MFA

The endpoints of `admin_mfa_api.py`, the recovery procedure of `break_glass.py` and
the boundary `require_administrator_assurance` of `auth.py`, for one administrator.

An endpoint keeps the lock of its row from `_state` until it commits or is refused.
So it is a function of the row and of the answers of the identity provider and the
clock; whatever it asked before it had the lock is one of the answers. A refusal
without a commit leaves the row, but not what was done at the provider: an outcome
lists those calls. The other audit entries and the record of the factor's last use
are left out.
-/
namespace Jawnix

inductive EnrollmentStage where
  | idle | primaryPending | replacementPending | complete | breakGlassReenrollmentRequired
  deriving DecidableEq

structure AdminMFAState where
  sessionGeneration : Nat := 1
  enrollmentStage : EnrollmentStage := .idle
  enrollmentBaselineFactorIds : List Uuid := []
  enrollmentNewFactorIds : List Uuid := []
  activeFactorId : Option Uuid := none
  replacementFactorId : Option Uuid := none
  failedAttempts : Nat := 0
  failureWindowStartedAt : Option Instant := none
  lockedUntil : Option Instant := none

inductive AuthProvider where
  | supabase | betterAuth
  deriving DecidableEq

theorem five_bounded : 1 ≤ 5 ∧ 5 ≤ 20 := by decide
theorem quarterHour_bounded : 60 ≤ 900 ∧ 900 ≤ 86400 := by decide

structure MfaSettings where
  provider : AuthProvider
  maxAttempts : Nat := 5
  attemptWindowSeconds : Nat := 900
  lockSeconds : Nat := 900
  attemptsBounded : 1 ≤ maxAttempts ∧ maxAttempts ≤ 20 := by first | exact five_bounded | decide
  windowBounded : 60 ≤ attemptWindowSeconds ∧ attemptWindowSeconds ≤ 86400 := by
    first | exact quarterHour_bounded | decide
  lockBounded : 60 ≤ lockSeconds ∧ lockSeconds ≤ 86400 := by first | exact quarterHour_bounded | decide

/-! ## The provider -/

structure MFAProviderError where
  invalidCode : Bool := false
  expiredSession : Bool := false

structure ProviderFactor where
  id : Uuid
  status : String
  factorType : String

def ProviderFactor.verifiedTotp (factor : ProviderFactor) : Bool :=
  factor.status = "verified" && factor.factorType = "totp"

def verifiedFactors (factors : List ProviderFactor) : List ProviderFactor :=
  factors.filter ProviderFactor.verifiedTotp

structure Identity where
  userId : Uuid
  role : String
  aal : String
  sessionId : Option String := none

structure Principal where
  userId : Uuid
  role : String := "admin"
  audience : String := "admin"
  assurance : String := "aal1"
  sessionGeneration : Nat := 0
  factorId : Option Uuid := none
  providerSessionId : Option String := none
  deriving DecidableEq

/-- Calls that change something at the provider or show it a code, with what came of them. -/
inductive ProviderCall where
  | enroll (replacement : Bool) (enrolled : Option Uuid)
  | deleteFactor (id : Uuid) (done : Bool)
  | submitCode (factorId : Uuid) (accepted : Bool)
  | logout (done : Bool)
  deriving DecidableEq

abbrev Answer (α : Type) := Except MFAProviderError α

def identityInvalid : Fault := .http 401 "The identity session is invalid or expired."
def verificationUnavailable : Fault := .http 503 "Administrator verification is temporarily unavailable."

def identityForToken (principal : Principal) : Answer Identity → Except Fault Identity
  | .error _ => .error identityInvalid
  | .ok user =>
    if user.userId ≠ principal.userId ∨ user.role ≠ principal.role ∨
    ¬(user.role = "admin" ∨ user.role = "manager") then
      .error identityInvalid
    else .ok user

def factorsOf : Answer (List ProviderFactor) → Except Fault (List ProviderFactor)
  | .error _ => .error verificationUnavailable
  | .ok factors => .ok factors

/-! ## Throttling -/

variable (settings : MfaSettings) (row : AdminMFAState) (principal : Principal)

/-- `_throttle_status`: whether the account is locked, and the row with a window that ran out
closed. -/
def throttleStatus (now : Instant) (row : AdminMFAState) : Bool × AdminMFAState :=
  if row.lockedUntil.any (fun until_ => now < until_) then (true, row)
  else if row.failureWindowStartedAt.any
    (fun started => seconds settings.attemptWindowSeconds < now - started) then
    (false, { row with failedAttempts := 0, failureWindowStartedAt := none, lockedUntil := none })
  else (false, row)

def AdminMFAState.recordFailure (now : Instant) (row : AdminMFAState) : AdminMFAState :=
  let opened :=
    if row.failureWindowStartedAt = none then
      { row with failureWindowStartedAt := some now, failedAttempts := 0 } else row
  let counted := { opened with failedAttempts := opened.failedAttempts + 1 }
  if settings.maxAttempts ≤ counted.failedAttempts then
    { counted with lockedUntil := some (now + seconds settings.lockSeconds) }
  else counted

def resetFailures : AdminMFAState :=
  { row with failedAttempts := 0, failureWindowStartedAt := none, lockedUntil := none }

def tooManyAttempts : Fault := .http 429 "Too many attempts. Try again after the stated time."
def codeRefused : Fault := .http 422 "That code could not be verified. Check it and try again."

/-! ## Outcomes -/

/-- What a request leaves: its calls, the row it committed, whether the commit revokes the sessions,
whether a refused code (`admin_mfa_challenge_failed`) is on record, the cookie issued after it, and
the answer. -/
structure MfaOutcome where
  calls : List ProviderCall := []
  committed : Option AdminMFAState := none
  revokes : Bool := false
  challengeFailed : Bool := false
  cookie : Option Principal := none
  answer : Except Fault Unit := .ok ()

def MfaOutcome.refused (fault : Fault) (calls : List ProviderCall := []) : MfaOutcome :=
  { calls, answer := .error fault }

def MfaOutcome.noted (fault : Fault) (calls : List ProviderCall := []) : MfaOutcome :=
  { calls, committed := some row, answer := .error fault }

def issueSession (user : Identity) (assurance : String) (generation : Nat)
    (factorId : Option Uuid := none) : Principal :=
  { userId := user.userId, role := user.role, assurance, sessionGeneration := generation, factorId
    providerSessionId := user.sessionId }

/-! ## The endpoints -/

inductive CodeMethod where
  | totp | recovery
  deriving DecidableEq

/-- `_verify_factor`: whether the code reached the provider, and what the provider said. -/
def verifyFactor (provider : AuthProvider) (method : CodeMethod)
    (challenged verified : Answer Unit) : Bool × Answer Unit :=
  match challenged with
  | .error error => (false, .error error)
  | .ok () => if provider = .supabase ∧ method ≠ .totp then
      (false, .error { invalidCode := true }) else (true, verified)

def codeCalls (factorId : Uuid) (attempt : Bool × Answer Unit) : List ProviderCall :=
  if attempt.1 then [.submitCode factorId attempt.2.isOk] else []

def codeFailed (now : Instant) (error : MFAProviderError)
    (calls : List ProviderCall) : MfaOutcome :=
  if error.invalidCode = false then .noted row verificationUnavailable calls
  else
    let failed := row.recordFailure settings now
    { calls, committed := some failed, challengeFailed := true
      answer := .error (if failed.lockedUntil.isSome then tooManyAttempts else codeRefused) }

structure StatusAnswers where
  factors : Answer (List ProviderFactor)
  checkedAt : Instant

def adminMfaStatus (answers : StatusAnswers) (row : AdminMFAState) : MfaOutcome :=
  if principal.sessionGeneration ≠ row.sessionGeneration then
    .refused (.http 401 "This administrator session is no longer valid.")
  else if settings.provider = .betterAuth ∧ principal.providerSessionId = none then
    .refused (.http 401 "Sign in again to continue.")
  else
    match answers.factors with
    | .error error =>
      match settings.provider with
      | .supabase => .refused verificationUnavailable
      | .betterAuth =>
        .refused (.http (if error.expiredSession then 401 else 503)
          "Administrator verification is unavailable. Sign in again to continue.")
    | .ok _ => { committed := some (throttleStatus settings answers.checkedAt row).2 }

structure StartAnswers where
  identity : Answer Identity
  factors : Answer (List ProviderFactor)
  deleted : Answer Unit
  enrolled : Answer Uuid

def openEnrollment (factors : List ProviderFactor) (row : AdminMFAState) : AdminMFAState :=
  if row.enrollmentStage = .idle then
    { row with enrollmentBaselineFactorIds := factors.map ProviderFactor.id, enrollmentNewFactorIds := [] }
  else row

def startEnrollment (password : Bool) (answers : StartAnswers) (row : AdminMFAState) : MfaOutcome :=
  match identityForToken principal answers.identity with
  | .error fault => .refused fault
  | .ok _ =>
    match factorsOf answers.factors with
    | .error fault => .refused fault
    | .ok factors =>
      if verifiedFactors factors ≠ [] then .refused
        (.http 409 "Authenticator enrollment is not at that step.")
      else
        let opened := openEnrollment factors row
        -- an interrupted scan cannot be resumed, so its factor is deleted
        let restart :=
          opened.activeFactorId.toList.map
          (fun id => ProviderCall.deleteFactor id answers.deleted.isOk)
        if opened.activeFactorId.isSome ∧ answers.deleted.isOk = false then
          .refused (.http 503 "Authenticator setup could not be restarted.") restart
        else if settings.provider = .betterAuth ∧ password = false then
          .refused (.http 422 "Enter your password to start authenticator setup.") restart
        else
          match answers.enrolled with
          | .error _ =>
            .refused (.http 502 "Authenticator setup could not be started.")
              (restart ++ [.enroll false none])
          | .ok id =>
            { calls := restart ++ [.enroll false (some id)]
              committed := some { opened with
                activeFactorId := some id
                enrollmentStage := .primaryPending
                enrollmentNewFactorIds := opened.enrollmentNewFactorIds ++ [id] } }

structure VerifyAnswers where
  checkedAt : Instant
  identity : Answer Identity
  challenged : Answer Unit
  verified : Answer Unit
  failedAt : Instant
  session : Answer Identity
  deleted : Answer Unit
  factors : Answer (List ProviderFactor)

def incompleteSession : Fault := .http 502 "The verification service returned an incomplete session."

def verifyAccepted (answers : VerifyAnswers) (factorId : Uuid) (row : AdminMFAState)
    (calls : List ProviderCall) : MfaOutcome :=
  match identityForToken principal answers.session with
  | .error fault => .refused fault calls
  | .ok user =>
    if user.aal ≠ "aal2" then .refused incompleteSession calls
    else
      let replaced :=
        row.replacementFactorId.toList.map
        (fun id => ProviderCall.deleteFactor id answers.deleted.isOk)
      if row.replacementFactorId.isSome ∧ answers.deleted.isOk = false then
        .refused (.http 502 "The lost authenticator could not be replaced.") (calls ++ replaced)
      else
        match factorsOf answers.factors with
        | .error fault => .refused fault (calls ++ replaced)
        | .ok factors =>
          let complete := decide (verifiedFactors factors ≠ [])
          { calls := calls ++ replaced
            committed := some { resetFailures row with
              activeFactorId := none
              replacementFactorId := none
              sessionGeneration := row.sessionGeneration + 1
              enrollmentStage := if complete then .complete else .idle }
            revokes := true
            cookie := some (issueSession user "aal2" (row.sessionGeneration + 1) (some factorId)) }

def verifyEnrollment (method : CodeMethod) (answers : VerifyAnswers)
    (row : AdminMFAState) : MfaOutcome :=
  let (throttled, checked) := throttleStatus settings answers.checkedAt row
  if throttled then .noted checked tooManyAttempts
  else
    match checked.activeFactorId with
    | none => .refused (.http 409 "No authenticator enrollment is awaiting verification.")
    | some factorId =>
      if method ≠ .totp then .refused (.http 422 "Verify enrollment using your authenticator app.")
      else
        match identityForToken principal answers.identity with
        | .error fault => .refused fault
        | .ok _ =>
          let attempt := verifyFactor settings.provider .totp answers.challenged answers.verified
          match attempt.2 with
          | .error error => codeFailed settings checked answers.failedAt error (codeCalls factorId attempt)
          | .ok () => verifyAccepted principal answers factorId checked (codeCalls factorId attempt)

structure ChallengeAnswers where
  checkedAt : Instant
  identity : Answer Identity
  factors : Answer (List ProviderFactor)
  challenged : Answer Unit
  verified : Answer Unit
  failedAt : Instant
  session : Answer Identity

def challengeAccepted (answers : ChallengeAnswers) (factorId : Uuid) (row : AdminMFAState)
    (calls : List ProviderCall) : MfaOutcome :=
  match identityForToken principal answers.session with
  | .error fault => .refused fault calls
  | .ok user =>
    if user.aal ≠ "aal2" then .refused incompleteSession calls
    else
      { calls
        committed := some (resetFailures row)
        cookie := some (issueSession user "aal2" row.sessionGeneration (some factorId)) }

def challengeAdminMfa (method : CodeMethod) (factorId : Uuid)
    (answers : ChallengeAnswers) (row : AdminMFAState) : MfaOutcome :=
  let (throttled, checked) := throttleStatus settings answers.checkedAt row
  if throttled then .noted checked tooManyAttempts
  else
    match identityForToken principal answers.identity with
    | .error fault => .refused fault
    | .ok _ =>
      match factorsOf answers.factors with
      | .error fault => .refused fault
      | .ok factors =>
        if factorId ∉ (verifiedFactors factors).map ProviderFactor.id then
          .refused (.http 422 "That authenticator is unavailable.")
        else
          let attempt := verifyFactor settings.provider method answers.challenged answers.verified
          match attempt.2 with
          | .error error => codeFailed settings checked answers.failedAt error (codeCalls factorId attempt)
          | .ok () => challengeAccepted principal answers factorId checked (codeCalls factorId attempt)

structure CancelAnswers where
  identity : Answer Identity
  deleted : Uuid → Answer Unit

def deleteAll (deleted : Uuid → Answer Unit) : List Uuid → List ProviderCall × Bool
  | [] => ([], true)
  | id :: rest =>
    if (deleted id).isOk then
      let (calls, done) := deleteAll deleted rest
      (.deleteFactor id true :: calls, done)
    else ([.deleteFactor id false], false)

def cancelEnrollment (answers : CancelAnswers) (row : AdminMFAState) : MfaOutcome :=
  match identityForToken principal answers.identity with
  | .error fault => .refused fault
  | .ok user =>
    let started := row.enrollmentNewFactorIds.filter (fun id => id ∉ row.enrollmentBaselineFactorIds)
    let (calls, done) := deleteAll answers.deleted started
    if done = false then .refused (.http 502 "Authenticator setup could not be cancelled safely.") calls
    else
      { calls
        committed := some { resetFailures row with
          sessionGeneration := row.sessionGeneration + 1
          enrollmentStage := .idle
          enrollmentBaselineFactorIds := []
          enrollmentNewFactorIds := []
          activeFactorId := none
          replacementFactorId := none }
        revokes := true
        cookie := some (issueSession user "aal1" (row.sessionGeneration + 1)) }

structure ReplacementAnswers where
  identity : Answer Identity
  factors : Answer (List ProviderFactor)
  /-- The new factor, and the session the provider gave with it. -/
  enrolled : Answer (Uuid × Bool)
  session : Answer Identity

def startReplacement (lostFactorId : Uuid) (password : Bool)
    (answers : ReplacementAnswers) (row : AdminMFAState) : MfaOutcome :=
  match identityForToken principal answers.identity with
  | .error fault => .refused fault
  | .ok holder =>
    if holder.aal ≠ "aal2" then .refused (.http 401 "Verify the authenticator you still hold first.")
    else
      match factorsOf answers.factors with
      | .error fault => .refused fault
      | .ok factors =>
        if lostFactorId ∉ (verifiedFactors factors).map ProviderFactor.id then
          .refused (.http 409 "That authenticator cannot be replaced from this session.")
        else if row.activeFactorId.isSome then
          .refused (.http 409 "Finish or cancel the current authenticator setup first.")
        else if settings.provider = .betterAuth ∧ password = false then
          .refused (.http 422 "Enter your password to replace your authenticator.")
        else
          match answers.enrolled with
          | .error _ =>
            .refused (.http 502 "Replacement authenticator setup could not be started.")
              [.enroll (decide (settings.provider = .betterAuth)) none]
          | .ok (id, withSession) =>
            let calls := [ProviderCall.enroll (decide (settings.provider = .betterAuth)) (some id)]
            let started := { row with
              enrollmentBaselineFactorIds := factors.map ProviderFactor.id
              enrollmentNewFactorIds := [id]
              activeFactorId := some id
              replacementFactorId := some lostFactorId
              enrollmentStage := .replacementPending }
            if withSession = false then { calls, committed := some started }
            else
              match identityForToken principal answers.session with
              | .error fault => .refused fault calls
              | .ok user =>
                { calls
                  committed := some started
                  cookie := some (issueSession user "aal1" row.sessionGeneration) }

structure LogoutAnswers where
  identity : Answer Identity
  loggedOut : Answer Unit

/-- `logout_admin_everywhere`: the provider's failure does not keep the cookies alive. -/
def logoutEverywhere (answers : LogoutAnswers) (row : AdminMFAState) : MfaOutcome :=
  match identityForToken principal answers.identity with
  | .error fault => .refused fault
  | .ok _ =>
    { calls := [.logout answers.loggedOut.isOk]
      committed := some { row with sessionGeneration := row.sessionGeneration + 1 }
      revokes := true }

inductive MfaRequest where
  | status (principal : Principal) (answers : StatusAnswers)
  | start (principal : Principal) (password : Bool) (answers : StartAnswers)
  | verify (principal : Principal) (method : CodeMethod) (answers : VerifyAnswers)
  | challenge (principal : Principal) (method : CodeMethod) (factorId : Uuid) (answers : ChallengeAnswers)
  | cancel (principal : Principal) (answers : CancelAnswers)
  | replacement (principal : Principal) (lostFactorId : Uuid) (password : Bool)
      (answers : ReplacementAnswers)
  | logout (principal : Principal) (answers : LogoutAnswers)

def MfaRequest.run : MfaRequest → MfaOutcome
  | .status principal answers => adminMfaStatus settings principal answers row
  | .start principal password answers => startEnrollment settings principal password answers row
  | .verify principal method answers => verifyEnrollment settings principal method answers row
  | .challenge principal method factorId answers =>
      challengeAdminMfa settings principal method factorId answers row
  | .cancel principal answers => cancelEnrollment principal answers row
  | .replacement principal lostFactorId password answers =>
    startReplacement settings principal lostFactorId password answers row
  | .logout principal answers => logoutEverywhere principal answers row

/-! ## Break-glass -/

/-- The revocation of `perform_break_glass`, computed from the row that was read. -/
def breakGlassRevoke (read : AdminMFAState) (row : AdminMFAState) : AdminMFAState :=
  { row with sessionGeneration := read.sessionGeneration + 1 }

/-- A column is written where the loaded object changes it. -/
def flushed {α : Type} [DecidableEq α] (loaded assigned stored : α) : α :=
  if loaded = assigned then stored else assigned

def breakGlassReset (loaded row : AdminMFAState) : AdminMFAState :=
  { row with
    enrollmentStage := flushed loaded.enrollmentStage .breakGlassReenrollmentRequired row.enrollmentStage
    enrollmentBaselineFactorIds :=
      flushed loaded.enrollmentBaselineFactorIds [] row.enrollmentBaselineFactorIds
    enrollmentNewFactorIds := flushed loaded.enrollmentNewFactorIds [] row.enrollmentNewFactorIds
    activeFactorId := flushed loaded.activeFactorId none row.activeFactorId
    replacementFactorId := flushed loaded.replacementFactorId none row.replacementFactorId
    failedAttempts := flushed loaded.failedAttempts 0 row.failedAttempts
    failureWindowStartedAt := flushed loaded.failureWindowStartedAt none row.failureWindowStartedAt
    lockedUntil := flushed loaded.lockedUntil none row.lockedUntil }

/-! ## The boundary -/

def sessionInvalid : Fault := .http 401 "This administrator session is no longer valid."

def requireAdministratorAssurance (row : Option AdminMFAState) (principal : Principal)
    (factors : Answer (List ProviderFactor)) : Except Fault Principal :=
  match row with
  | none => .error sessionInvalid
  | some state =>
    if principal.sessionGeneration ≠ state.sessionGeneration then .error sessionInvalid
    else if settings.provider = .betterAuth ∧ principal.providerSessionId = none then .error sessionInvalid
    else
      match factors with
      | .error error => .error (if error.expiredSession then sessionInvalid else verificationUnavailable)
      | .ok factors =>
        let verified := verifiedFactors factors
        if verified = [] then .error (.http 401 "Administrator MFA enrollment is required.")
        else if principal.assurance ≠ "aal2" then
          .error (.http 401 "Administrator verification is required.")
        else if principal.factorId.any (fun id => id ∉ verified.map ProviderFactor.id) then
          .error (.http 401 "The factor used by this session is no longer active.")
        else .ok principal

def requireAdmin (row : Option AdminMFAState) (principal : Principal)
    (factors : Answer (List ProviderFactor)) : Except Fault Principal :=
  if principal.role ≠ "admin" ∨ principal.audience ≠ "admin" then .error (.http 403 "Admin access required.")
  else requireAdministratorAssurance settings row principal factors

end Jawnix
