import Jawnix.MfaEffects

/-!
# Revocation of administrator sessions

The transactions of one administrator's row, interleaved. An endpoint holds the row's
lock from its read to its commit and issues its cookie after the commit, with the
generation it committed. `perform_break_glass` reads the row without the lock; its
`UPDATE` waits for the lock and then writes the generation it computed from that read.
-/
namespace Jawnix

inductive SessionPhase where
  | locked (q : MfaRequest) (read : AdminMFAState)
  | issuing (cookie : Principal)
  | recovering (read : Option AdminMFAState)
  | removing (loaded : AdminMFAState)

/-- A cookie, and whether a revocation was committed after it was issued. -/
structure IssuedCookie where
  cookie : Principal
  revoked : Bool := false
  deriving DecidableEq

/-- A committed generation, and whether its transaction revokes the sessions. -/
structure GenerationCommit where
  generation : Nat
  revokes : Bool
  deriving DecidableEq

structure SessionStore where
  row : Option AdminMFAState
  holder : Option Nat := none
  inFlight : List (Nat × SessionPhase) := []
  commits : List GenerationCommit
  cookies : List IssuedCookie := []

def SessionStore.start (row : Option AdminMFAState) : SessionStore :=
  { row, commits := row.toList.map (fun r => ⟨r.sessionGeneration, false⟩) }

inductive SessionOp where
  | lock (tid : Nat) (q : MfaRequest)
  | commit (tid : Nat)
  | issue (tid : Nat)
  | signIn (tid : Nat) (user : Identity) (factorId : Option Uuid)
  | breakGlass (tid : Nat)
  | revoke (tid : Nat)
  | reset (tid : Nat)
  | abort (tid : Nat)

variable (s : SessionStore) (tid : Nat)

def SessionStore.put (phase : SessionPhase) : SessionStore :=
  { s with inFlight := Dict.set tid phase s.inFlight }

def SessionStore.leave : SessionStore :=
  { s with inFlight := Dict.erase tid s.inFlight, holder := if s.holder = some tid then none else s.holder }

/-- A new row is committed; a revocation is later than every cookie that is out. -/
def SessionStore.write (row : AdminMFAState) (revokes : Bool) : SessionStore :=
  { s with
    row := some row
    commits := s.commits ++ [⟨row.sessionGeneration, revokes⟩]
    cookies := s.cookies.map (fun c => { c with revoked := c.revoked || revokes }) }

def SessionStore.lock (q : MfaRequest) : SessionStore :=
  if (get? tid s.inFlight).isSome ∨ s.holder.isSome then s
  else { s.put tid (.locked q (s.row.getD {})) with holder := some tid }

def SessionStore.commit (settings : MfaSettings) (s : SessionStore) (tid : Nat) : SessionStore :=
  match get? tid s.inFlight with
  | some (.locked q read) =>
    let o := q.run settings read
    match o.committed with
    | none => s.leave tid
    | some row =>
      match o.cookie with
      | none => (s.leave tid).write row o.revokes
      | some cookie => ((s.leave tid).write row o.revokes).put tid (.issuing cookie)
  | _ => s

def SessionStore.issue : SessionStore :=
  match get? tid s.inFlight with
  | some (.issuing cookie) => { s.leave tid with cookies := s.cookies ++ [{ cookie }] }
  | _ => s

/-- `create_session` of an administrator reads the row without its lock. -/
def SessionStore.signIn (user : Identity) (factorId : Option Uuid) : SessionStore :=
  if (get? tid s.inFlight).isSome then s
  else s.put tid (.issuing (issueSession user user.aal (s.row.getD {}).sessionGeneration factorId))

def SessionStore.breakGlass : SessionStore :=
  if (get? tid s.inFlight).isSome then s else s.put tid (.recovering s.row)

/-- The first commit of `perform_break_glass`. A row inserted in the meantime makes its own insert
fail. -/
def SessionStore.revoke : SessionStore :=
  match s.holder, get? tid s.inFlight with
  | none, some (.recovering (some read)) =>
    match s.row with
    | none => s.leave tid
    | some row => (s.write (breakGlassRevoke read row) true).put tid (.removing (breakGlassRevoke read read))
  | none, some (.recovering none) =>
    match s.row with
    | some _ => s.leave tid
    | none => (s.write (breakGlassRevoke {} {}) true).put tid (.removing (breakGlassRevoke {} {}))
  | _, _ => s

def SessionStore.reset : SessionStore :=
  match s.holder, get? tid s.inFlight, s.row with
  | none, some (.removing loaded), some row => (s.leave tid).write (breakGlassReset loaded row) false
  | _, _, _ => s

def sessionStep (settings : MfaSettings) (s : SessionStore) : SessionOp → SessionStore
  | .lock tid q => s.lock tid q
  | .commit tid => s.commit settings tid
  | .issue tid => s.issue tid
  | .signIn tid user factorId => s.signIn tid user factorId
  | .breakGlass tid => s.breakGlass tid
  | .revoke tid => s.revoke tid
  | .reset tid => s.reset tid
  | .abort tid => s.leave tid

def RevokesWhatItRead : SessionOp → Prop
  | .revoke tid =>
    match get? tid s.inFlight with
    | some (.recovering (some read)) => ∀ row ∈ s.row, row.sessionGeneration = read.sessionGeneration
    | _ => True
  | _ => True

def SessionStore.generation : Nat := (s.row.getD {}).sessionGeneration

structure SessionStore.Sound : Prop where
  absent : s.row = none → s.commits = []
  latest : ∀ c ∈ s.commits, c.generation ≤ s.generation
  increasing : s.commits.Pairwise (fun a b => a.generation ≤ b.generation ∧
    (b.revokes → a.generation < b.generation))
  held : ∀ tid q read, get? tid s.inFlight = some (.locked q read) → s.holder = some tid ∧
    read = s.row.getD {}
  pending : ∀ tid cookie, get? tid s.inFlight = some (.issuing cookie) →
    cookie.sessionGeneration ≤ s.generation
  cookies : ∀ c ∈ s.cookies, c.cookie.sessionGeneration ≤ s.generation
  revoked : ∀ c ∈ s.cookies, c.revoked → s.row.isSome ∧ c.cookie.sessionGeneration < s.generation

section
variable {settings : MfaSettings} {s : SessionStore} {tid : Nat}

def SessionStore.Unlocked (s : SessionStore) : Prop :=
  ∀ tid q read, get? tid s.inFlight ≠ some (.locked q read)

namespace SessionStore.Sound

section
variable (sound : s.Sound)
include sound

theorem unlocked (free : s.holder = none) : s.Unlocked := by
  intro tid q read locked
  cases free.symm.trans (sound.held tid q read locked).1

theorem leave (tid : Nat) : (s.leave tid).Sound where
  absent := sound.absent
  latest := sound.latest
  increasing := sound.increasing
  held t q read locked := by
    obtain ⟨other, before⟩ := get?_erase_cases locked
    obtain ⟨holder, same⟩ := sound.held t q read before
    refine ⟨?_, same⟩
    change (if s.holder = some tid then none else s.holder) = some t
    rw [if_neg fun mine => other (some.inj (holder.symm.trans mine)), holder]
  pending t cookie issuing := sound.pending t cookie (get?_erase_cases issuing).2
  cookies := sound.cookies
  revoked := sound.revoked

theorem put {phase : SessionPhase} (free : ∀ q read, phase ≠ .locked q read)
    (issued : ∀ cookie, phase = .issuing cookie → cookie.sessionGeneration ≤ s.generation) :
    (s.put tid phase).Sound where
  absent := sound.absent
  latest := sound.latest
  increasing := sound.increasing
  held t q read locked := by
    rcases get?_set_cases locked with ⟨_, same⟩ | ⟨_, before⟩
    · exact absurd same.symm (free q read)
    · exact sound.held t q read before
  pending t cookie issuing := by
    rcases get?_set_cases issuing with ⟨_, same⟩ | ⟨_, before⟩
    · exact issued cookie same.symm
    · exact sound.pending t cookie before
  cookies := sound.cookies
  revoked := sound.revoked

theorem write (unlocked : s.Unlocked) {row : AdminMFAState} {revokes : Bool}
    (grows : s.generation ≤ row.sessionGeneration)
    (strict : revokes → s.generation < row.sessionGeneration) : (s.write row revokes).Sound where
  absent none_ := absurd none_ (some_ne_none row)
  latest c member := by
    rcases mem_append.mp member with old | new
    · exact (sound.latest c old).trans grows
    cases mem_singleton.mp new
    exact le_refl _
  increasing := by
    refine pairwise_append.mpr ⟨sound.increasing, List.pairwise_singleton _ _, fun a old b new => ?_⟩
    cases mem_singleton.mp new
    exact ⟨(sound.latest a old).trans grows, fun revoking => (sound.latest a old).trans_lt (strict revoking)⟩
  held t q read locked := absurd locked (unlocked t q read)
  pending t cookie issuing := (sound.pending t cookie issuing).trans grows
  cookies c member := by
    obtain ⟨before, old, rfl⟩ := mem_map.mp member
    exact (sound.cookies before old).trans grows
  revoked c member marked := by
    obtain ⟨before, old, rfl⟩ := mem_map.mp member
    refine ⟨rfl, ?_⟩
    rcases (or_eq_true _ _).mp marked with earlier | now
    · exact (sound.revoked before old earlier).2.trans_le grows
    · exact (sound.cookies before old).trans_lt (strict now)

theorem recover {phase : SessionPhase}
    (recovers : (∃ read, phase = .recovering read) ∨ ∃ loaded, phase = .removing loaded) :
    (s.put tid phase).Sound := by
  rcases recovers with ⟨read, rfl⟩ | ⟨loaded, rfl⟩ <;> exact sound.put
    (fun _ _ same => SessionPhase.noConfusion same) fun _ same => SessionPhase.noConfusion same

theorem lock (tid : Nat) (q : MfaRequest) : (s.lock tid q).Sound := by
  unfold SessionStore.lock
  split
  · exact sound
  case isFalse free =>
  have unheld : s.holder = none := not_isSome_iff_eq_none.mp fun held => free (.inr held)
  refine ⟨sound.absent, sound.latest, sound.increasing, fun t p read locked =>
    ?_, fun t cookie issuing => ?_, sound.cookies, sound.revoked⟩
  · rcases get?_set_cases locked with ⟨here, same⟩ | ⟨_, before⟩
    · cases same
      exact ⟨congrArg some here.symm, rfl⟩
    · exact absurd before (sound.unlocked unheld t p read)
  rcases get?_set_cases issuing with ⟨_, same⟩ | ⟨_, before⟩
  · cases same
  · exact sound.pending t cookie before

theorem commit (tid : Nat) : (s.commit settings tid).Sound := by
  unfold SessionStore.commit
  split
  case h_1 q read locked =>
    have generates : Generates read (q.run settings read) := (run_effect q).generates
    have same := (sound.held tid q read locked).2
    dsimp only
    split
    · exact sound.leave tid
    case h_2 row committed =>
    have moved := generates.committed row committed
    have current : s.generation = read.sessionGeneration :=
      congrArg AdminMFAState.sessionGeneration same.symm
    have grows : s.generation ≤ row.sessionGeneration := by
      rw [moved, current]
      exact Nat.le_add_right _ _
    have strict : (q.run settings read).revokes → s.generation < row.sessionGeneration := by
      intro revokes
      rw [moved, current, if_pos revokes]
      exact Nat.lt_succ_self _
    have unlocked : (s.leave tid).Unlocked := by
      refine (sound.leave tid).unlocked ?_
      change (if s.holder = some tid then none else s.holder) = none
      rw [if_pos (sound.held tid _ _ locked).1]
    have written := (sound.leave tid).write unlocked grows strict
    split
    · exact written
    case h_2 cookie issues =>
    refine written.put (fun _ _ same => SessionPhase.noConfusion same) fun c issuing => ?_
    cases issuing
    exact le_of_eq (generates.cookie row committed cookie issues)
  · exact sound

theorem issue (tid : Nat) : (s.issue tid).Sound := by
  unfold SessionStore.issue
  split
  case h_1 cookie issuing =>
    have left := sound.leave tid
    refine ⟨left.absent, left.latest, left.increasing, left.held, left.pending, fun c member =>
      ?_, fun c member marked => ?_⟩
    · rcases mem_append.mp member with old | new
      · exact sound.cookies c old
      cases mem_singleton.mp new
      exact sound.pending tid cookie issuing
    rcases mem_append.mp member with old | new
    · exact sound.revoked c old marked
    cases mem_singleton.mp new
    cases marked
  · exact sound

theorem revoke (tid : Nat) (current : RevokesWhatItRead s (.revoke tid)) : (s.revoke tid).Sound := by
  unfold SessionStore.revoke
  split
  case h_1 read free recovering =>
    split
    · exact sound.leave tid
    case h_2 row stored =>
    rw [RevokesWhatItRead] at current
    rw [recovering] at current
    have same : s.generation = read.sessionGeneration := by
      unfold SessionStore.generation
      rw [stored]
      exact current row stored
    have ahead : s.generation < read.sessionGeneration + 1 := Nat.lt_succ_of_le (le_of_eq same)
    exact (sound.write (sound.unlocked free) (le_of_lt ahead) fun _ => ahead).recover (.inr ⟨_, rfl⟩)
  case h_2 free recovering =>
    split
    · exact sound.leave tid
    case h_2 missing =>
    have ahead : s.generation < 2 := by
      unfold SessionStore.generation
      rw [missing]
      decide
    exact (sound.write (sound.unlocked free) (le_of_lt ahead) fun _ => ahead).recover (.inr ⟨_, rfl⟩)
  · exact sound

theorem reset (tid : Nat) : (s.reset tid).Sound := by
  unfold SessionStore.reset
  split
  case h_1 loaded row free removing stored =>
    have same : s.generation = row.sessionGeneration := by
      unfold SessionStore.generation
      rw [stored]
      rfl
    have unlocked : (s.leave tid).Unlocked := fun t q read locked =>
      sound.unlocked free t q read (get?_erase_cases locked).2
    exact (sound.leave tid).write unlocked (le_of_eq same) fun revokes => absurd revokes false_ne_true
  · exact sound

end

theorem step (op : SessionOp) (current : RevokesWhatItRead s op) (sound : s.Sound) :
    (sessionStep settings s op).Sound := by
  cases op with
  | lock tid q => exact sound.lock tid q
  | commit tid => exact sound.commit tid
  | issue tid => exact sound.issue tid
  | signIn tid user factorId =>
    change (s.signIn tid user factorId).Sound
    unfold SessionStore.signIn
    split
    · exact sound
    refine sound.put (fun _ _ same => SessionPhase.noConfusion same) fun cookie issuing => ?_
    cases issuing
    exact le_refl _
  | breakGlass tid =>
    change (s.breakGlass tid).Sound
    unfold SessionStore.breakGlass
    split
    · exact sound
    · exact sound.recover (.inl ⟨_, rfl⟩)
  | revoke tid => exact sound.revoke tid current
  | reset tid => exact sound.reset tid
  | abort tid => exact sound.leave tid

theorem start (row : Option AdminMFAState) : (SessionStore.start row).Sound := by
  refine ⟨fun none_ => ?_, fun c member => ?_, ?_, fun _ _ _ found => absurd found.symm (some_ne_none _),
    fun _ _ found => absurd found.symm (some_ne_none _), fun _ member => absurd member not_mem_nil,
    fun _ member => absurd member not_mem_nil⟩
  · change row = none at none_
    rw [none_]
    rfl
  · cases row with
    | none => cases member
    | some r =>
      cases mem_singleton.mp member
      exact le_refl _
  cases row with
  | none => exact .nil
  | some r => exact List.pairwise_singleton _ _

end SessionStore.Sound

end

/-- If every break-glass revocation is committed on the generation it read, each revocation commits
a generation above all before it, and no cookie issued before it is ever accepted again. -/
theorem revocation_final_when {settings : MfaSettings} {row : Option AdminMFAState} {ops : List SessionOp}
    (meets : Meets (sessionStep settings) RevokesWhatItRead (.start row) ops) :
    let s := run (sessionStep settings) (.start row) ops
    s.commits.Pairwise (fun a b => b.revokes = true → a.generation < b.generation) ∧
      ∀ c ∈ s.cookies, c.revoked = true → ∀ factors, ∃ fault,
      requireAdmin settings s.row c.cookie factors = .error fault := by
  intro s
  have sound : s.Sound := run_invariant_of_meets (I := SessionStore.Sound)
    (fun _ op current sound => SessionStore.Sound.step op current sound) (SessionStore.Sound.start row) meets
  refine ⟨sound.increasing.imp fun both => both.2, fun c member marked factors => ?_⟩
  have below := (sound.revoked c member marked).2
  unfold requireAdmin
  split
  · exact ⟨_, rfl⟩
  unfold requireAdministratorAssurance
  split
  · exact ⟨_, rfl⟩
  case h_2 state stored =>
  unfold SessionStore.generation at below
  rw [stored, getD_some] at below
  rw [if_pos below.ne]
  exact ⟨_, rfl⟩

def enrollingRow : AdminMFAState :=
  { activeFactorId := some 7, enrollmentStage := .primaryPending, enrollmentNewFactorIds := [7] }

def acceptedEnrollment : MfaRequest :=
  .verify { userId := 1 } .totp
    { checkedAt := 0, identity := .ok { userId := 1, role := "admin", aal := "aal1" },
      challenged := .ok (), verified := .ok ()
      failedAt := 0, session := .ok { userId := 1, role := "admin", aal := "aal2" }, deleted := .ok ()
      factors := .ok [⟨7, "verified", "totp"⟩] }

def sessionSettings : MfaSettings := { provider := .supabase }
def orderlyRecovery : List SessionOp :=
  [.lock 1 acceptedEnrollment, .commit 1, .issue 1, .breakGlass 2, .revoke 2]

/-- The same, but break-glass read the row before the enrollment was committed. -/
def overtakenRecovery : List SessionOp :=
  [.breakGlass 2, .lock 1 acceptedEnrollment, .commit 1, .issue 1, .revoke 2]

instance (s : SessionStore) : DecidablePred (RevokesWhatItRead s) := fun op => by
  unfold RevokesWhatItRead
  split
  · split <;> infer_instance
  · infer_instance

theorem revocation_final_when_orderly :
    let s := run (sessionStep sessionSettings) (.start (some enrollingRow)) orderlyRecovery
    s.commits.map GenerationCommit.generation = [1, 2, 3] ∧ s.cookies.map IssuedCookie.revoked = [true] ∧
      s.commits.Pairwise (fun a b => b.revokes = true → a.generation < b.generation) ∧
      ∀ c ∈ s.cookies, c.revoked = true → ∀ factors, ∃ fault,
      requireAdmin sessionSettings s.row c.cookie factors = .error fault :=
  ⟨by decide +kernel, by decide +kernel, revocation_final_when (by decide +kernel)⟩

/-- Break-glass commits the generation the enrollment has just committed, and the enrollment's
cookie is still accepted. -/
theorem revocation_overtaken :
    let s := run (sessionStep sessionSettings) (.start (some enrollingRow)) overtakenRecovery
    s.commits = [⟨1, false⟩, ⟨2, true⟩, ⟨2, true⟩] ∧ ∃ c ∈ s.cookies, c.revoked = true ∧
        requireAdmin sessionSettings s.row c.cookie (.ok [⟨7, "verified", "totp"⟩]) = .ok c.cookie := by
  refine ⟨by decide +kernel,
    { cookie := issueSession ⟨1, "admin", "aal2", none⟩ "aal2" 2 (some 7), revoked := true }, ?_,
    rfl, ?_⟩
  · decide +kernel
  · rfl

end Jawnix
