import Jawnix.MfaEffects

/-!
# Removal of verified factors

What the endpoints and break-glass ask the identity provider to remove. Supabase
keeps the lost factor of a replacement until the new one is verified. Better Auth's
`replace` deletes it when the replacement starts, for a session that was verified
with it and with the password.

A request may stop after any of its calls, without a commit. A verified factor stops
being verified when it is deleted, or when Better Auth starts a replacement.
-/
namespace Jawnix

structure FactorStore where
  row : Option AdminMFAState := none
  /-- The factors that are verified at the provider. -/
  verified : List Uuid := []
  /-- The lost factor of each committed replacement start, and whose token started it. -/
  replacements : List (Uuid × Identity) := []

/-- `removed` and `gained` say which factors stop and start being verified meanwhile. -/
inductive FactorOp where
  | request (q : MfaRequest) (removed gained : List Uuid)
  | interrupted (q : MfaRequest) (calls : Nat) (removed gained : List Uuid)
  | breakGlassRevoke (read : AdminMFAState)
  | breakGlassRemove (removed : List Uuid)
  | breakGlassReset (loaded : AdminMFAState)

def FactorStore.provider (s : FactorStore) (removed gained : List Uuid) : FactorStore :=
  { s with verified := s.verified.filter (fun f => f ∉ removed) ++ gained }

def FactorStore.state (s : FactorStore) : AdminMFAState := s.row.getD {}

variable (settings : MfaSettings) (s : FactorStore)

def factorStep : FactorOp → FactorStore
  | .request q removed gained =>
    match (q.run settings s.state).committed with
    | none => s.provider removed gained
    | some row =>
      { s.provider removed gained with
        row := some row, replacements := s.replacements ++ q.replacementStarted }
  | .interrupted _ _ removed gained => s.provider removed gained
  | .breakGlassRevoke read => { s with row := some (Jawnix.breakGlassRevoke read s.state) }
  | .breakGlassRemove removed => s.provider removed []
  | .breakGlassReset loaded => { s with row := some (Jawnix.breakGlassReset loaded s.state) }

def ProviderConforms : FactorOp → Prop
  | .request q removed _ => ∀ f ∈ removed, ∃ call ∈ (q.run settings s.state).calls, call.mayRemove f
  | .interrupted q n removed _ => ∀ f ∈ removed, ∃ call ∈ ((q.run settings s.state).calls.take n),
      call.mayRemove f
  | .breakGlassRevoke _ | .breakGlassRemove _ | .breakGlassReset _ => True

def FactorOp.request? : FactorOp → Option MfaRequest
  | .request q _ _ | .interrupted q _ _ _ => some q
  | .breakGlassRevoke _ | .breakGlassRemove _ | .breakGlassReset _ => none

inductive RemovalAuthority (settings : MfaSettings) (s : FactorStore) (f : Uuid) : FactorOp → Prop
  /-- The replacement of `f` was started with an aal2 token, and its verification succeeds. -/
  | replaced {op : FactorOp} {principal : Principal} {method : CodeMethod} {answers : VerifyAnswers}
      {holder user : Identity}
      (request : op.request? = some (.verify principal method answers))
      (lost : s.state.replacementFactorId = some f)
      (started : (f, holder) ∈ s.replacements) (assured : holder.aal = "aal2")
      (accepted : answers.verified = .ok ())
      (session : answers.session = .ok user) (raised : user.aal = "aal2") : RemovalAuthority settings s f op
  /-- Better Auth replaces its one factor for an aal2 token and the password. -/
  | restarted {op : FactorOp} {principal : Principal} {lostFactorId : Uuid}
      {answers : ReplacementAnswers} {holder : Identity}
      (provider : settings.provider = .betterAuth)
      (request : op.request? = some (.replacement principal lostFactorId true answers))
      (token : answers.identity = .ok holder) (assured : holder.aal = "aal2") :
      RemovalAuthority settings s f op
  | breakGlass {removed : List Uuid} : RemovalAuthority settings s f (.breakGlassRemove removed)

/-- The removals that go by the enrollment record alone: `cancel` deletes every factor the record
lists as new, and `start` the one awaiting verification, whether or not they were verified
meanwhile. -/
def FactorStore.Unenrolls (f : Uuid) (op : FactorOp) : Prop :=
  match op.request? with
  | some (.cancel ..) => f ∈ s.state.enrollmentNewFactorIds ∧ f ∉ s.state.enrollmentBaselineFactorIds
  | some (.start ..) => s.state.activeFactorId = some f
  | _ => False

def RemovesWithAuthority (op : FactorOp) : Prop :=
  ∀ f ∈ s.verified, ¬s.Unenrolls f op → f ∉ (factorStep settings s op).verified →
    RemovalAuthority settings s f op

def MfaRequest.token : MfaRequest → Option (Answer Identity)
  | .status .. => none
  | .start _ _ answers => some answers.identity
  | .verify _ _ answers => some answers.identity
  | .challenge _ _ _ answers => some answers.identity
  | .cancel _ answers => some answers.identity
  | .replacement _ _ _ answers => some answers.identity
  | .logout _ answers => some answers.identity

/-- A request by someone without an aal2 token, and not break-glass. -/
def FirstFactorOnly (op : FactorOp) : Prop :=
  ∃ q, op.request? = some q ∧ ∀ holder, q.token = some (.ok holder) → holder.aal ≠ "aal2"

def FactorStore.Sound : Prop :=
  ∀ f, s.state.replacementFactorId = some f → ∃ holder, (f, holder) ∈ s.replacements ∧ holder.aal = "aal2"

section
variable {settings : MfaSettings} {s : FactorStore} {op : FactorOp} {f : Uuid}

theorem provider_removed {removed gained : List Uuid} (was : f ∈ s.verified)
    (gone : f ∉ (s.provider removed gained).verified) : f ∈ removed := by
  by_contra stays
  exact gone (mem_append_left _ (mem_filter.mpr ⟨was, decide_eq_true stays⟩))

/-- A factor that stops being verified is one the request has a ground to remove, or break-glass
removes it. -/
theorem removal_ground (conforms : ProviderConforms settings s op) (was : f ∈ s.verified)
    (gone : f ∉ (factorStep settings s op).verified) :
    (∃ q, op.request? = some q ∧ RemovalGround settings s.state f q) ∨
    ∃ removed, op = .breakGlassRemove removed := by
  cases op with
  | request q removed gained =>
    have asked : (factorStep settings s (.request q removed gained)).verified =
      (s.provider removed gained).verified := by
      dsimp only [factorStep]
      split <;> rfl
    rw [asked] at gone
    obtain ⟨call, made, removes⟩ := conforms f (provider_removed was gone)
    exact .inl ⟨q, rfl, (run_effect q).factors.ground f call made removes⟩
  | interrupted q n removed gained =>
    obtain ⟨call, made, removes⟩ := conforms f (provider_removed was gone)
    exact .inl ⟨q, rfl, (run_effect q).factors.ground f call (List.mem_of_mem_take made) removes⟩
  | breakGlassRevoke read => exact absurd was gone
  | breakGlassRemove removed => exact .inr ⟨removed, rfl⟩
  | breakGlassReset loaded => exact absurd was gone

theorem factorStep_authority (sound : s.Sound) (conforms : ProviderConforms settings s op) :
    RemovesWithAuthority settings s op := by
  intro f was unlisted gone
  rcases removal_ground conforms was gone with ⟨q, request, ground⟩ | ⟨removed, rfl⟩
  · unfold FactorStore.Unenrolls at unlisted
    rw [request] at unlisted
    cases q with
    | status | challenge | logout => exact ground.elim
    | start | cancel => exact absurd ground unlisted
    | verify principal method answers =>
      obtain ⟨lost, accepted, user, session, raised⟩ := ground
      obtain ⟨holder, started, assured⟩ := sound f lost
      exact .replaced request lost started assured accepted session raised
    | replacement principal lostFactorId password answers =>
      obtain ⟨provider, rfl, holder, token, assured⟩ := ground
      exact .restarted provider request token assured
  · exact .breakGlass

theorem flushed_none {loaded stored : Option Uuid} (found : flushed loaded none stored = some f) :
    stored = some f := by
  unfold flushed at found
  split at found
  · exact found
  · cases found

theorem factorStep_sound (sound : s.Sound) : (factorStep settings s op).Sound := by
  cases op with
  | request q removed gained =>
    dsimp only [factorStep]
    split
    · exact sound
    case h_2 row committed =>
    intro f lost
    rcases (run_effect q).factors.lost row committed f lost with before | ⟨holder, started, assured⟩
    · obtain ⟨holder, started, assured⟩ := sound f before
      exact ⟨holder, mem_append_left _ started, assured⟩
    · exact ⟨holder, mem_append_right _ started, assured⟩
  | interrupted q n removed gained => exact sound
  | breakGlassRevoke read => exact sound
  | breakGlassRemove removed => exact sound
  | breakGlassReset loaded => exact fun f lost => sound f (flushed_none lost)

theorem factorStep_unstarted (first : FirstFactorOnly op) (none_ : s.state.replacementFactorId = none) :
    (factorStep settings s op).state.replacementFactorId = none := by
  obtain ⟨q, request, low⟩ := first
  cases op with
  | request q' removed gained =>
    cases request
    dsimp only [factorStep]
    split
    · exact none_
    case h_2 row committed =>
    refine Option.eq_none_iff_forall_ne_some.mpr fun f lost => ?_
    rcases (run_effect q).factors.lost row committed f lost with before | ⟨holder, started, assured⟩
    · exact absurd (none_.symm.trans before) (some_ne_none f).symm
    cases q with
    | replacement principal lostFactorId password answers =>
      simp only [MfaRequest.replacementStarted, mem_map, mem_toList, Prod.mk.injEq] at started
      obtain ⟨holder', token, -, rfl⟩ := started
      refine low holder' ?_ assured
      cases identity : answers.identity with
      | error error => simp [identity, Except.toOption] at token
      | ok value =>
        simp only [identity, Except.toOption, some.injEq] at token
        simp only [MfaRequest.token, identity, token]
    | status | start | verify | challenge | cancel | logout => exact absurd started not_mem_nil
  | interrupted q' n removed gained => exact none_
  | breakGlassRevoke | breakGlassRemove | breakGlassReset => cases request

theorem factorStep_first (none_ : s.state.replacementFactorId = none)
    (conforms : ProviderConforms settings s op) (first : FirstFactorOnly op) (was : f ∈ s.verified)
    (unlisted : ¬s.Unenrolls f op) : f ∈ (factorStep settings s op).verified := by
  by_contra gone
  have unsound : s.Sound := fun g lost => absurd (none_.symm.trans lost) (some_ne_none g).symm
  obtain ⟨q, request, low⟩ := first
  cases factorStep_authority unsound conforms f was unlisted gone with
  | replaced _ lost => exact absurd (none_.symm.trans lost) (some_ne_none f).symm
  | restarted _ request' token assured =>
    cases request.symm.trans request'
    exact low _ (congrArg some token) assured
  | breakGlass => cases request

end

/-- On every run from an account without a row, whatever factors are verified: a verified factor
that is not removed by the enrollment record alone stops being verified with second-factor authority
only; and requests without an aal2 token never remove it. -/
theorem removal_authorised (settings : MfaSettings) (verified : List Uuid) (ops : List FactorOp)
    (conforms : Meets (factorStep settings) (ProviderConforms settings) { verified := verified } ops) :
    Meets (factorStep settings) (RemovesWithAuthority settings) { verified := verified } ops ∧
      ((∀ op ∈ ops, FirstFactorOnly op) → Meets (factorStep settings)
          (fun s op => ∀ f ∈ s.verified, ¬s.Unenrolls f op → f ∈ (factorStep settings s op).verified)
          { verified := verified } ops) := by
  constructor
  · have start : FactorStore.Sound { verified := verified } :=
      fun f lost => absurd lost.symm (some_ne_none f)
    exact meets_of_invariant (fun s op _ sound => factorStep_sound sound)
      (fun s op conforms sound => factorStep_authority sound conforms) start conforms
  intro first
  have both := conforms.and (Runs.meets_of_forall first)
  exact meets_of_invariant (I := fun s : FactorStore => s.state.replacementFactorId = none)
    (fun s op guard none_ => factorStep_unstarted guard.2 none_)
    (fun s op guard none_ f was unlisted => factorStep_first none_ guard.1 guard.2 was unlisted) rfl both

def firstFactor : Identity := { userId := 1, role := "admin", aal := "aal1" }
def secondFactor : Identity := { userId := 1, role := "admin", aal := "aal2" }

def enrollPrimary : FactorOp :=
  .request
    (.start { userId := 1 } true
      { identity := .ok firstFactor, factors := .ok [], deleted := .ok (), enrolled := .ok 3 }) [] []

/-- The code for the factor that awaits verification is accepted; `lost` is what the provider
deletes with it. -/
def verifyPending (pending : Uuid) (lost : List Uuid) : FactorOp :=
  .request (.verify { userId := 1 } .totp
    { checkedAt := 0, identity := .ok firstFactor, challenged := .ok (), verified := .ok (), failedAt := 0
      session := .ok secondFactor, deleted := .ok ()
      factors := .ok [{ id := pending, status := "verified", factorType := "totp" }] }) lost [pending]

/-- A replacement of factor 3 by factor 4 starts; `lost` is what the provider deletes at once. -/
def replaceThird (lost : List Uuid) : FactorOp :=
  .request (.replacement { userId := 1 } 3 true
    { identity := .ok secondFactor, factors := .ok [{ id := 3, status := "verified", factorType := "totp" }]
      enrolled := .ok (4, false), session := .ok firstFactor }) lost []

/-- A replacement at Supabase: the lost factor goes when the new one is verified. -/
theorem removal_authorised_supabase :
    Meets (factorStep { provider := .supabase }) (RemovesWithAuthority { provider := .supabase })
    { verified := [] }
      [enrollPrimary, verifyPending 3 [], replaceThird [], verifyPending 4 [3]] ∧
    3 ∉ (run (factorStep { provider := .supabase }) { verified := [] }
      [enrollPrimary, verifyPending 3 [], replaceThird [], verifyPending 4 [3]]).verified := by
  refine ⟨(removal_authorised _ [] _ ?_).1, by decide +kernel⟩
  refine ⟨fun f member => absurd member not_mem_nil, fun f member => absurd member not_mem_nil,
    fun f member => absurd member not_mem_nil, fun f member => ?_, trivial⟩
  cases mem_singleton.mp member
  exact ⟨.deleteFactor 3 true, by decide +kernel, rfl⟩

/-- At Better Auth the verified factor is gone when its replacement starts, before any code of the
new one. -/
theorem removal_before_verification :
    let step := factorStep { provider := .betterAuth }
    let before := [enrollPrimary, verifyPending 3 []]
    Meets step (ProviderConforms { provider := .betterAuth }) { verified := [] }
        (before ++ [replaceThird [3]]) ∧
      3 ∈ (run step { verified := [] } before).verified ∧
      (run step { verified := [] } (before ++ [replaceThird [3]])).verified = [] := by
  refine ⟨⟨fun f member => absurd member not_mem_nil, fun f member => absurd member not_mem_nil,
    fun f member => ?_, trivial⟩, by decide +kernel, by decide +kernel⟩
  exact ⟨.enroll true (some 4), by decide +kernel, rfl⟩

end Jawnix
