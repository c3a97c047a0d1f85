import Jawnix.MfaEffects

/-!
# Guessing a second factor

A refused code opens a window, or counts in the one that is open when its request is
checked; the refusal that fills the window locks the account. `Monitor` says so of a
log of codes alone: it is broken once a code is passed to the provider before a lock
has run out. `/enrollment/cancel`, which a first factor is enough for, clears the
row's counter and lock.
-/
namespace Jawnix

structure Monitor where
  /-- The start of the last window and the codes refused in it. -/
  window : Option (Instant × Nat) := none
  /-- The ends of all locks. -/
  locks : List Instant := []
  broken : Bool := false

variable (settings : MfaSettings)

def nextWindow (window : Option (Instant × Nat)) (refusal : CodeRefusal) : Instant × Nat :=
  match window with
  | none => (refusal.at_, 1)
  | some (started, count) =>
    if seconds settings.attemptWindowSeconds < refusal.begun - started then (refusal.at_, 1) else
      (started, count + 1)

def Monitor.observe (m : Monitor) : CodeEvent → Monitor
  | .passed begun => { m with broken := m.broken || m.locks.any (fun until_ => begun < until_) }
  | .refused refusal =>
    let window := nextWindow settings m.window refusal
    { m with
      window := some window
      locks := if settings.maxAttempts ≤ window.2 then m.locks ++
      [refusal.at_ + seconds settings.lockSeconds] else m.locks }

def monitor (log : List CodeEvent) : Monitor := log.foldl (Monitor.observe settings) {}

structure ThrottleStore where
  row : Option AdminMFAState := none
  clock : Instant := 0
  log : List CodeEvent := []

variable (s : ThrottleStore)

def throttleStep (q : MfaRequest) : ThrottleStore :=
  let o := q.run settings (s.row.getD {})
  { row := o.committed.or s.row
    clock := q.period.elim s.clock Prod.snd
    log := s.log ++ o.events q.period }

@[mk_iff]
structure Guessing (q : MfaRequest) : Prop where
  timely : ∀ p ∈ q.period, s.clock ≤ p.1 ∧ p.1 ≤ p.2
  unaccepted : ∀ call ∈ (q.run settings (s.row.getD {})).calls, call.accepts = false

instance (settings : MfaSettings) (s : ThrottleStore) (q : MfaRequest) : Decidable (Guessing settings s q) :=
  decidable_of_iff' _ (guessing_iff ..)

/-- No enrollment is cancelled while refused codes are counted. -/
def CancelsUncounted : MfaRequest → Prop
  | .cancel .. => (s.row.getD {}).failedAttempts = 0
  | _ => True

instance (s : ThrottleStore) : DecidablePred (CancelsUncounted s) := fun op => by
  unfold CancelsUncounted
  split <;> infer_instance

/-- The counter of the row is that of the monitor's window, or that window has run out. -/
inductive WindowTracked (settings : MfaSettings) (clock : Instant) (t : Throttle)
    (window : Option (Instant × Nat)) : Prop
  | closed (none_ : t.windowStartedAt = none) (zero : t.failedAttempts = 0)
      (expired : ∀ started count, window = some (started, count) →
        seconds settings.attemptWindowSeconds < clock - started)
  | open_ {started : Instant} (startedAt : t.windowStartedAt = some started)
      (count : window = some (started, t.failedAttempts))
      (positive : t.failedAttempts ≠ 0)

structure Tracks (clock : Instant) (t : Throttle) (m : Monitor) : Prop where
  window : WindowTracked settings clock t m.window
  locks : ∀ until_ ∈ m.locks, until_ ≤ clock ∨ ∃ l, t.lockedUntil = some l ∧ until_ ≤ l
  counted : ∀ l, t.lockedUntil = some l → clock < l → t.failedAttempts ≠ 0
  unbroken : m.broken = false

section
variable {settings : MfaSettings} {row : AdminMFAState} {t : Throttle} {m : Monitor}
  {clock now begun ended : Instant}

theorem Tracks.later (tracks : Tracks settings clock t m) (later : clock ≤ now) :
    Tracks settings now t m where
  window := by
    cases tracks.window with
    | closed none_ zero expired =>
      refine .closed none_ zero fun started count same => ?_
      exact Int.lt_of_lt_of_le (expired started count same) (Int.sub_le_sub_right later started)
    | open_ startedAt count positive => exact .open_ startedAt count positive
  locks until_ member := (tracks.locks until_ member).imp_left fun past => Int.le_trans past later
  counted l locked ahead := tracks.counted l locked (Int.lt_of_le_of_lt later ahead)
  unbroken := tracks.unbroken

theorem throttleStatus_unlocked (unlocked : (throttleStatus settings now row).1 = false)
    {l : Instant} (locked : row.lockedUntil = some l) : l ≤ now := by
  unfold throttleStatus at unlocked
  split at unlocked
  · cases unlocked
  case isFalse free =>
  rw [locked, any_some, decide_eq_true_eq] at free
  exact Int.not_lt.mp free

theorem throttleStatus_open (unlocked : (throttleStatus settings now row).1 = false) :
    (∀ l, (throttleStatus settings now row).2.lockedUntil = some l → l ≤ now) ∧
    ∀ started, (throttleStatus settings now row).2.failureWindowStartedAt = some started →
    ¬seconds settings.attemptWindowSeconds < now - started := by
  have past := fun l => throttleStatus_unlocked (l := l) unlocked
  unfold throttleStatus at unlocked ⊢
  split at unlocked
  · cases unlocked
  case isFalse free =>
  rw [if_neg free]
  split
  · exact ⟨nofun, nofun⟩
  case isFalse fresh =>
  refine ⟨past, fun started same => ?_⟩
  rw [same, any_some, decide_eq_true_eq] at fresh
  exact fresh

theorem Tracks.check (tracks : Tracks settings clock row.throttle m) (later : clock ≤ now) :
    Tracks settings now (throttleStatus settings now row).2.throttle m := by
  have moved := tracks.later later
  unfold throttleStatus
  split
  · exact moved
  case isFalse free =>
  split
  case isTrue outrun =>
    -- the window that is closed here is the monitor's, and its lock has run out
    have unlocked : ∀ l, row.lockedUntil = some l → l ≤ now := by
      intro l locked
      rw [locked, any_some, decide_eq_true_eq] at free
      exact Int.not_lt.mp free
    refine ⟨.closed rfl rfl fun started count same => ?_, fun until_ member => .inl ?_, nofun,
      moved.unbroken⟩
    · cases moved.window with
      | closed _ _ expired => exact expired started count same
      | @open_ began startedAt window _ =>
        change row.failureWindowStartedAt = some began at startedAt
        rw [startedAt, any_some, decide_eq_true_eq] at outrun
        cases same.symm.trans window
        exact outrun
    rcases moved.locks until_ member with past | ⟨l, locked, within⟩
    · exact past
    · exact Int.le_trans within (unlocked l locked)
  · exact moved

theorem Tracks.pass (tracks : Tracks settings begun t m)
    (unlocked : ∀ l, t.lockedUntil = some l → l ≤ begun) :
    Tracks settings begun t (m.observe settings (.passed begun)) where
  window := tracks.window
  locks := tracks.locks
  counted := tracks.counted
  unbroken := by
    change (m.broken || m.locks.any fun until_ => begun < until_) = false
    rw [tracks.unbroken, Bool.false_or, any_eq_false]
    intro until_ member ahead
    rcases tracks.locks until_ member with past | ⟨l, locked, within⟩
    · exact absurd (of_decide_eq_true ahead) (Int.not_lt.mpr past)
    · exact absurd (of_decide_eq_true ahead) (Int.not_lt.mpr (Int.le_trans within (unlocked l locked)))

theorem recordFailure_throttle (row : AdminMFAState) : (row.recordFailure settings now).throttle =
      let count := (if row.failureWindowStartedAt = none then 0 else row.failedAttempts) + 1
      { failedAttempts := count
        windowStartedAt := some (row.failureWindowStartedAt.getD now)
        lockedUntil := if settings.maxAttempts ≤ count then some (now + seconds settings.lockSeconds)
          else row.lockedUntil } := by
  unfold AdminMFAState.recordFailure AdminMFAState.throttle
  cases opened : row.failureWindowStartedAt with
  | none =>
    simp only [if_true, getD_none]
    split <;> rfl
  | some started =>
    simp only [reduceCtorEq, if_false, getD_some]
    split <;> simp only [opened]

theorem nextWindow_tracked (window : WindowTracked settings begun row.throttle m.window)
    (fresh : ∀ started, row.failureWindowStartedAt = some started →
      ¬seconds settings.attemptWindowSeconds < begun - started) :
    nextWindow settings m.window { begun, at_ := ended } =
      (row.failureWindowStartedAt.getD ended,
      (if row.failureWindowStartedAt = none then 0 else row.failedAttempts) + 1) := by
  unfold nextWindow
  cases window with
  | closed none_ _ expired =>
    change row.failureWindowStartedAt = none at none_
    rw [none_, if_pos rfl]
    split
    · rfl
    case h_2 started count same =>
    rw [if_pos (expired started count same)]
    rfl
  | @open_ started startedAt count _ =>
    change row.failureWindowStartedAt = some started at startedAt
    rw [count, startedAt]
    dsimp only
    rw [if_neg (fresh started startedAt)]
    rfl

theorem Tracks.refuse (tracks : Tracks settings begun row.throttle m) (later : begun ≤ ended)
    (unlocked : ∀ l, row.lockedUntil = some l → l ≤ begun)
    (fresh : ∀ started, row.failureWindowStartedAt = some started →
      ¬seconds settings.attemptWindowSeconds < begun - started) :
    Tracks settings ended (row.recordFailure settings ended).throttle
      (m.observe settings (.refused { begun, at_ := ended })) := by
  rw [recordFailure_throttle]
  unfold Monitor.observe
  dsimp only
  rw [nextWindow_tracked tracks.window fresh]
  have positive : (if row.failureWindowStartedAt = none then 0 else row.failedAttempts) + 1 ≠ 0 :=
    Nat.succ_ne_zero _
  generalize (if row.failureWindowStartedAt = none then 0 else row.failedAttempts) + 1 = count at positive
  have past : ∀ until_ ∈ m.locks, until_ ≤ ended := by
    intro until_ member
    rcases tracks.locks until_ member with gone | ⟨l, locked, within⟩
    · exact Int.le_trans gone later
    · exact Int.le_trans within (Int.le_trans (unlocked l locked) later)
  refine ⟨.open_ rfl rfl positive, fun until_ member => ?_, fun _ _ _ => positive, tracks.unbroken⟩
  split at member
  case isTrue full =>
    rcases mem_append.mp member with old | new
    · exact .inl (past until_ old)
    cases mem_singleton.mp new
    exact .inr ⟨_, if_pos full, Int.le_refl _⟩
  case isFalse => exact .inl (past until_ member)

theorem Tracks.clear (tracks : Tracks settings clock t m) (uncounted : t.failedAttempts = 0) :
    Tracks settings clock {} m where
  window := by
    cases tracks.window with
    | closed _ _ expired => exact .closed rfl rfl expired
    | open_ _ _ positive => exact absurd uncounted positive
  locks until_ member := by
    rcases tracks.locks until_ member with past | ⟨l, locked, within⟩
    · exact .inl past
    refine .inl (Int.le_trans within (Int.not_lt.mp fun ahead => ?_))
    exact tracks.counted l locked ahead uncounted
  counted := nofun
  unbroken := tracks.unbroken

end

def ThrottleStore.Sound : Prop :=
  Tracks settings s.clock (s.row.getD {}).throttle (monitor settings s.log)

section
variable {settings : MfaSettings} {s : ThrottleStore} {q : MfaRequest}

theorem monitor_append (settings : MfaSettings) (log events : List CodeEvent) :
    monitor settings (log ++ events) = events.foldl (Monitor.observe settings)
    (monitor settings log) := foldl_append

theorem Tracks.committed {clock : Instant} {m : Monitor} {t : Throttle} {o : MfaOutcome}
    {row : Option AdminMFAState} (kept : ∀ row', o.committed = some row' → row'.throttle = t)
    (moved : Tracks settings clock t m) (unmoved : Tracks settings clock (row.getD {}).throttle m) :
    Tracks settings clock ((o.committed.or row).getD {}).throttle m := by
  cases outcome : o.committed with
  | none => exact unmoved
  | some row' =>
    rw [Option.some_or, getD_some, kept row' outcome]
    exact moved

theorem codeFailed_events {row : AdminMFAState} {begun ended : Instant} {error : MFAProviderError}
    {factorId : Uuid}
    {attempt : Bool × Answer Unit} (tracks : Tracks settings begun row.throttle (monitor settings s.log))
    (later : begun ≤ ended) (unlocked : ∀ l, row.lockedUntil = some l → l ≤ begun)
    (fresh : ∀ started, row.failureWindowStartedAt = some started →
      ¬seconds settings.attemptWindowSeconds < begun - started) :
    let o := codeFailed settings row ended error (codeCalls factorId attempt)
    ∃ row', o.committed = some row' ∧
      Tracks settings ended row'.throttle (monitor settings (s.log ++ o.events (some (begun, ended)))) := by
  have passed : Tracks settings begun row.throttle (monitor settings (s.log ++
      if (codeCalls factorId attempt).any ProviderCall.submits then [.passed begun] else [])) := by
    split
    · rw [monitor_append]
      exact tracks.pass unlocked
    · rw [append_nil]
      exact tracks
  unfold codeFailed
  split
  · refine ⟨row, rfl, ?_⟩
    unfold MfaOutcome.events MfaOutcome.noted
    dsimp only
    rw [if_neg false_ne_true, append_nil]
    exact passed.later later
  refine ⟨_, rfl, ?_⟩
  unfold MfaOutcome.events
  dsimp only
  rw [if_pos rfl, ← append_assoc, monitor_append]
  exact passed.refuse later unlocked fresh

theorem throttleStep_sound (guessing : Guessing settings s q) (uncounted : CancelsUncounted s q)
    (sound : s.Sound settings) : (throttleStep settings s q).Sound settings := by
  have move := (run_effect q).moves guessing.unaccepted
  have timely := guessing.timely
  unfold ThrottleStore.Sound throttleStep
  dsimp only
  generalize q.run settings (s.row.getD {}) = o at move
  have clocked : ∀ {t}, Tracks settings s.clock t (monitor settings s.log) →
      Tracks settings (q.period.elim s.clock Prod.snd) t (monitor settings s.log) := by
    intro t tracks
    cases period : q.period with
    | none => exact tracks
    | some p =>
      obtain ⟨begins, ends⟩ := timely p period
      exact tracks.later (Int.le_trans begins ends)
  cases move with
  | quiet events kept =>
    rw [events, append_nil]
    exact .committed kept (clocked sound) (clocked sound)
  | @checked _ _ begun ended period events kept =>
    rw [events, append_nil, period]
    obtain ⟨begins, ends⟩ := timely (begun, ended) period
    exact .committed kept ((sound.check begins).later ends) (sound.later (Int.le_trans begins ends))
  | @attempted _ begun ended factorId attempt error period unlocked =>
    rw [period]
    obtain ⟨begins, ends⟩ := timely (begun, ended) period
    obtain ⟨past, fresh⟩ := throttleStatus_open unlocked
    obtain ⟨row', committed, tracks⟩ := codeFailed_events (sound.check begins) ends past fresh
    rw [committed]
    exact tracks
  | @cancelled principal answers _ events reset =>
    rw [events, append_nil]
    exact .committed reset (sound.clear uncounted) sound

end

/-- Without an accepted code, and unless an enrollment is cancelled while refused codes are counted,
no code is passed to the provider before a lock has run out. -/
theorem guessing_throttled_when {settings : MfaSettings} {ops : List MfaRequest}
    (meets : Meets (throttleStep settings) (fun s q => Guessing settings s q ∧ CancelsUncounted s q)
      {} ops) :
    (monitor settings (run (throttleStep settings) {} ops).log).broken = false := by
  have start : ThrottleStore.Sound settings {} := ⟨.closed rfl rfl nofun, nofun, nofun, rfl⟩
  have sound := run_invariant_of_meets (I := ThrottleStore.Sound settings)
    (fun _ _ guard sound => throttleStep_sound guard.1 guard.2 sound) start meets
  exact sound.unbroken

def operatorIdentity : Identity := { userId := 1, role := "admin", aal := "aal1" }

def wrongCode (n : Nat) : MfaRequest :=
  .challenge { userId := 1 } .totp 7
    { checkedAt := seconds n, identity := .ok operatorIdentity,
      factors := .ok [⟨7, "verified", "totp"⟩], challenged := .ok ()
      verified := .error { invalidCode := true }, failedAt := seconds n, session := .error {} }

def cancelSetup : MfaRequest :=
    .cancel { userId := 1 } { identity := .ok operatorIdentity, deleted := fun _ => .ok () }
def guessingSettings : MfaSettings := { provider := .supabase }

theorem guessing_throttled_when_cancelled_first :
    let ops := cancelSetup :: [1, 2, 3, 4, 5, 6].map wrongCode
    let log := (run (throttleStep guessingSettings) {} ops).log
    (monitor guessingSettings log).locks = [seconds 905] ∧
    (log.filter (fun e => decide (e = .passed (seconds 6)))) = [] ∧
      (monitor guessingSettings log).broken = false := by
  refine ⟨by decide +kernel, by decide +kernel, guessing_throttled_when ?_⟩
  decide +kernel

/-- Five wrong codes lock the account; a cancellation by the same session unlocks it, and the sixth
code is passed in the next second. -/
theorem guessing_unthrottled :
    let ops := [1, 2, 3, 4, 5].map wrongCode ++ [cancelSetup, wrongCode 6]
    Meets (throttleStep guessingSettings) (Guessing guessingSettings) {} ops ∧
      (monitor guessingSettings (run (throttleStep guessingSettings) {} ops).log).broken = true := by
  decide +kernel

end Jawnix
