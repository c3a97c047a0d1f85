import Jawnix.Clock

/-!
# The acquisition breaker

`acquisition_health.go`. Workers file each attempt and count failures and empty
results in one row; check loops claim a probe by a lease on that row, and its
outcome blocks or unblocks acquisition. `Record` is a transaction of an insert and
an update, every other statement commits by itself, and an update waits for the
transaction that holds the row. `now()` is when a transaction began. A statement
that fails is a rollback or an abandoned probe.
-/
namespace Jawnix

/-- `acquisition_health`, without the outcome of the last probe, which no statement reads. -/
structure HealthRow where
  failureStreak : Nat := 0
  emptyStreak : Nat := 0
  probeAfter : Option Instant := none
  leaseUntil : Option Instant := none
  blockedUntil : Option Instant := none
  lastProbeAt : Option Instant := none
  cooldownLevel : Nat := 0
  knownGood : Option String := none

inductive AttemptOutcome where
  | success | empty | blocked | fetchError | parseError | timeout
  deriving DecidableEq

/-- A call of `Record`: the outcome of its failure, if it has one, and the transaction's `now()`. -/
structure AttemptRecord where
  tid : Nat
  jobId : Nat
  attempt : Nat
  failure : Option AttemptOutcome
  results : Nat
  args : String
  now : Instant

variable (row : HealthRow) (r : AttemptRecord) (now : Instant)

def AttemptRecord.key : Nat × Nat := (r.jobId, r.attempt)
def AttemptRecord.outcome : AttemptOutcome := r.failure.getD (if r.results = 0 then .empty else .success)

def HealthRow.record : HealthRow :=
  { row with
    failureStreak := if r.outcome = .success ∨ r.outcome = .empty then 0 else row.failureStreak + 1
    emptyStreak := if r.outcome = .empty then row.emptyStreak + 1 else if r.outcome = .success then
      0 else row.emptyStreak
    knownGood := if r.outcome = .success ∧ 3 ≤ r.results then some r.args else row.knownGood
    probeAfter :=
      if (5 ≤ row.failureStreak ∨ 49 ≤ row.emptyStreak) ∧ row.lastProbeAt.all (· < r.now - seconds 120) then
        some (row.probeAfter.getD r.now)
      else row.probeAfter }

def HealthRow.blocked : Bool := row.blockedUntil.isSome
def HealthRow.delay : Int := if row.blocked then seconds 60 else 0
def recoveryDelay (level : Nat) : Int := min (seconds 120 * 2 ^ min level 4) (seconds 1800)
def HealthRow.claimable : Bool := row.probeAfter.any (· ≤ now) && row.leaseUntil.all (· < now)

def HealthRow.recovered : HealthRow :=
  { row with
    blockedUntil := none, probeAfter := none, leaseUntil := none, failureStreak := 0,
      emptyStreak := 0, cooldownLevel := 0
    lastProbeAt := some now }

def HealthRow.coolDown (level : Nat) : HealthRow :=
  { row with
    blockedUntil := some (now + recoveryDelay level),
      probeAfter := some (now + recoveryDelay level), leaseUntil := none
    cooldownLevel := row.cooldownLevel + 1, lastProbeAt := some now }

/-- A check between its claim and the end of its final update. -/
structure Probe where
  pid : Nat
  raw : Option String
  level : Nat
  lease : Instant

/-- `records` are the transactions whose insert is done, `held` the one that also updated the row,
as it will commit it. -/
structure AcquisitionHealth where
  row : HealthRow := {}
  attempts : List (Nat × Nat) := []
  records : List AttemptRecord := []
  held : Option (AttemptRecord × HealthRow) := none
  probes : List Probe := []

inductive HealthOp where
  | insert (r : AttemptRecord)
  | update (tid : Nat)
  | commit
  | rollback (tid : Nat)
  | claim (pid waited : Nat)
  | finish (pid : Nat) (failed : Bool) (now : Instant)
  | abandon (pid : Nat)

variable (s : AcquisitionHealth)

def AcquisitionHealth.claim (pid : Nat) : AcquisitionHealth :=
  if s.held.isNone ∧ pid ∉ s.probes.map Probe.pid ∧ s.row.claimable now then
    let lease := now + seconds 90
    { s with
      row := { s.row with leaseUntil := some lease }
      probes := { pid, raw := s.row.knownGood, level := s.row.cooldownLevel, lease } :: s.probes }
  else s

/-- Each operation comes with the time at which it takes effect. -/
def healthStep : Instant × HealthOp → AcquisitionHealth
  | (_, .insert r) =>
    -- a stored attempt ends the transaction, one that is being inserted holds it up
    if r.key ∈ s.attempts ∨ r.key ∈ s.records.map AttemptRecord.key then s else
    { s with records := r :: s.records }
  | (_, .update tid) =>
    match s.held, s.records.find? (·.tid = tid) with
    | none, some r => { s with held := some (r, s.row.record r) }
    | _, _ => s
  | (_, .commit) =>
    match s.held with
    | some (r, row) =>
      { s with
        row, attempts := r.key :: s.attempts, records := s.records.filter (·.tid ≠ r.tid), held := none }
    | none => s
  | (_, .rollback tid) =>
    { s with records := s.records.filter (·.tid ≠ tid), held := s.held.filter (·.1.tid ≠ tid) }
  | (time, .claim pid waited) => s.claim (time - waited) pid
  | (_, .finish pid failed now) =>
    match s.held, s.probes.find? (·.pid = pid) with
    | none, some p =>
      { s with
        row := if failed then s.row.coolDown now p.level else s.row.recovered now
        probes := s.probes.filter (·.pid ≠ pid) }
    | _, _ => s
  | (_, .abandon pid) => { s with probes := s.probes.filter (·.pid ≠ pid) }

/-- No probe runs on past its lease. -/
def Timely (op : Instant × HealthOp) : Prop := ∀ p ∈ s.probes, op.1 ≤ p.lease
  deriving Decidable

def HealthRow.streaks : Nat × Nat := (row.failureStreak, row.emptyStreak)

variable {row r now} {s : AcquisitionHealth} {op : Instant × HealthOp}

structure AcquisitionHealth.Sound (s : AcquisitionHealth) : Prop where
  leased : ∀ p ∈ s.probes, s.row.leaseUntil = some p.lease
  oneProbe : s.probes.length ≤ 1
  scheduled : s.row.blocked → s.row.probeAfter.isSome
  held : ∀ r next, s.held = some (r, next) → r ∈ s.records ∧ next = s.row.record r
  filed : (s.records.map AttemptRecord.key ++ s.attempts).Nodup

theorem isSome_probeAfter_record (set : row.probeAfter.isSome) : (row.record r).probeAfter.isSome := by
  unfold HealthRow.record
  simp only
  split
  case isTrue => rfl
  case isFalse => exact set

theorem AcquisitionHealth.Sound.step (s : AcquisitionHealth) (op : Instant × HealthOp)
    (timely : Timely s op) (sound : s.Sound) : (healthStep s op).Sound := by
  obtain ⟨time, op⟩ := op
  cases op with
  | insert r =>
    rw [healthStep]
    split
    case isTrue => exact sound
    case isFalse fresh =>
    refine { sound with held := fun r next is => ?_, filed := ?_ }
    · exact ⟨mem_cons_of_mem _ (sound.held r next is).1, (sound.held r next is).2⟩
    · simpa [nodup_cons, or_comm, sound.filed] using fresh
  | update tid =>
    rw [healthStep]
    split
    case h_1 free found =>
      refine { sound with held := fun r next is => ?_ }
      cases is
      exact ⟨mem_of_find?_eq_some found, rfl⟩
    case h_2 => exact sound
  | commit =>
    rw [healthStep]
    split
    case h_1 r next is =>
      obtain ⟨member, rfl⟩ := sound.held r next is
      obtain ⟨keys, _, apart⟩ := List.nodup_append.mp sound.filed
      refine { sound with
        scheduled := fun blocked => isSome_probeAfter_record (sound.scheduled blocked)
        held := by simp
        filed := ?_ }
      refine List.nodup_middle.mpr
        (nodup_cons.mpr ⟨?_, sound.filed.sublist ((filter_sublist.map _).append_right _)⟩)
      refine fun again => (mem_append.mp again).elim (fun inserted => ?_)
        (apart _ (mem_map_of_mem member) _ · rfl)
      obtain ⟨q, kept, same⟩ := mem_map.mp inserted
      obtain ⟨stored, other⟩ := mem_filter.mp kept
      simp [eq_of_mem_of_key keys stored member same] at other
    case h_2 => exact sound
  | rollback tid =>
    refine { sound with
      held := fun r next is => ?_
      filed := sound.filed.sublist ((filter_sublist.map _).append_right _) }
    obtain ⟨was, other⟩ := Option.filter_eq_some_iff.mp is
    exact ⟨mem_filter.mpr ⟨(sound.held r next was).1, other⟩, (sound.held r next was).2⟩
  | claim pid waited =>
    rw [healthStep, AcquisitionHealth.claim]
    split
    case isTrue granted =>
      obtain ⟨free, _, claimable⟩ := granted
      -- the lease it finds expired has no probe left that runs under it
      have idle : s.probes = [] := by
        refine List.eq_nil_iff_forall_not_mem.mpr fun p running => ?_
        have expired := (and_eq_true_iff.mp claimable).2
        have within : time ≤ p.lease := timely p running
        rw [sound.leased p running, Option.all_some, decide_eq_true_eq] at expired
        exact absurd (Int.lt_of_le_of_lt within expired)
          (Int.not_lt.mpr (Int.sub_le_self _ (Int.natCast_nonneg _)))
      rw [idle]
      refine { sound with leased := by simp, oneProbe := Nat.le.refl, held := fun r next is => ?_ }
      cases (Option.isNone_iff_eq_none.mp free).symm.trans is
    case isFalse => exact sound
  | finish pid failed now =>
    rw [healthStep]
    split
    case h_1 p free found =>
      -- the probe that ends is the only one
      obtain ⟨q, only⟩ :=
        List.length_eq_one_iff.mp
        (le_antisymm sound.oneProbe (List.length_pos_of_mem (mem_of_find?_eq_some found)))
      have idle : s.probes.filter (·.pid ≠ pid) = [] := by
        have named := find?_some found
        simp [only] at found ⊢
        simpa [found.2] using named
      rw [idle]
      refine { sound with
        leased := by simp, oneProbe := Nat.zero_le _, scheduled := ?_, held := fun r next is => ?_ }
      · cases failed <;> simp [HealthRow.recovered, HealthRow.coolDown, HealthRow.blocked]
      · cases free.symm.trans is
    case h_2 => exact sound
  | abandon pid =>
    exact { sound with
      leased := fun p running => sound.leased p (mem_filter.mp running).1
      oneProbe := (List.length_filter_le _ _).trans sound.oneProbe }

theorem healthStep_cases (sound : s.Sound) (op : Instant × HealthOp) :
    ((healthStep s op).row.blocked = s.row.blocked ∧ (healthStep s op).row.streaks = s.row.streaks ∧
      (healthStep s op).attempts = s.attempts) ∨
    (∃ r ∈ s.records, (healthStep s op).row = s.row.record r ∧
      (healthStep s op).attempts = r.key :: s.attempts) ∨
    ∃ p ∈ s.probes, ∃ failed now, op.2 = .finish p.pid failed now ∧ (healthStep s op).attempts = s.attempts ∧
    (healthStep s op).row = if failed then s.row.coolDown now p.level else s.row.recovered now := by
  obtain ⟨time, op⟩ := op
  cases op with
  | insert | update | claim =>
    simp only [healthStep, AcquisitionHealth.claim]
    split <;> exact .inl ⟨rfl, rfl, rfl⟩
  | rollback | abandon => exact .inl ⟨rfl, rfl, rfl⟩
  | commit =>
    rw [healthStep]
    split
    case h_1 r next is => exact .inr (.inl ⟨r, (sound.held r next is).1, (sound.held r next is).2, rfl⟩)
    case h_2 => exact .inl ⟨rfl, rfl, rfl⟩
  | finish pid failed now =>
  rw [healthStep]
  split
  case h_1 p free found =>
    obtain rfl : p.pid = pid := by simpa using find?_some found
    exact .inr (.inr ⟨p, mem_of_find?_eq_some found, failed, now, rfl, rfl, rfl⟩)
  case h_2 => exact .inl ⟨rfl, rfl, rfl⟩

/-- While no probe outlives its lease, in every state a run reaches at most one
probe runs, a blocked row has its next probe set and no attempt is filed twice;
and any step from there blocks acquisition only as a failed probe's end, unblocks
it and resets the streaks only as a successful one's, and otherwise changes the
streaks only with the filing of an attempt. -/
theorem acquisition_guarded {ops : List (Instant × HealthOp)}
    (timely : Meets healthStep Timely {} ops) (reached : s = run healthStep {} ops) :
    s.probes.length ≤ 1 ∧ (s.row.blocked → s.row.probeAfter.isSome) ∧ s.attempts.Nodup ∧ ∀ op,
      (s.row.blocked = false → (healthStep s op).row.blocked → ∃ p ∈ s.probes, ∃ now,
        op.2 = .finish p.pid true now) ∧
      (s.row.blocked → (healthStep s op).row.blocked = false → ∃ p ∈ s.probes, ∃ now,
        op.2 = .finish p.pid false now) ∧
      s.attempts <:+ (healthStep s op).attempts ∧ ((healthStep s op).row.streaks ≠ s.row.streaks →
        (∃ p ∈ s.probes, ∃ now, op.2 = .finish p.pid false now) ∨
          ∃ r ∈ s.records, (healthStep s op).attempts = r.key :: s.attempts) := by
  have sound : s.Sound := by
    rw [reached]
    exact run_invariant_of_meets AcquisitionHealth.Sound.step
      ⟨by simp, Nat.zero_le _, by simp [HealthRow.blocked], by simp, by simp⟩ timely
  refine ⟨sound.oneProbe, sound.scheduled, (List.nodup_append.mp sound.filed).2.1, fun op => ?_⟩
  rcases healthStep_cases sound op with ⟨blocked, streaks, filed⟩ | ⟨r, member, row, filed⟩ |
    ⟨p, running, failed, now, ends, filed, row⟩
  · rw [blocked, streaks, filed]
    simp_all
  · have same : (healthStep s op).row.blocked = s.row.blocked := by rw [row]; rfl
    rw [same, filed]
    exact ⟨by simp_all, by simp_all, List.suffix_cons _ _, fun _ => .inr ⟨r, member, rfl⟩⟩
  rw [filed, row]
  cases failed with
  | true => exact ⟨fun _ _ => ⟨p, running, now, ends⟩, nofun, List.suffix_rfl, fun changed =>
      absurd rfl changed⟩
  | false => exact ⟨nofun, fun _ _ => ⟨p, running, now, ends⟩, List.suffix_rfl,
      fun _ => .inl ⟨p, running, now, ends⟩⟩

/-- Six failed attempts, one of them recorded twice, and a failed probe. -/
def failingAttempts : List (Instant × HealthOp) :=
  (List.range 6 ++ [0]).flatMap
    (fun n => [(0, .insert ⟨n, n, 1, some .timeout, 0, "", 0⟩), (0, .update n), (0, .commit)]) ++
    [(seconds 1, .claim 0 0), (seconds 31, .finish 0 true (seconds 31))]

theorem acquisition_guarded_failing : (run healthStep {} failingAttempts).row.blocked ∧
    (run healthStep {} failingAttempts).row.streaks = (6, 0) ∧
    (run healthStep {} failingAttempts).probes.length ≤ 1 :=
  have timely : Meets healthStep Timely {} failingAttempts := by decide +kernel
  ⟨by decide +kernel, by decide +kernel, (acquisition_guarded timely rfl).1⟩

/-- A running probe goes by the current level, and the next one waits out the delay after the last
failure. -/
structure AcquisitionHealth.BackedOff (s : AcquisitionHealth) : Prop where
  current : ∀ p ∈ s.probes, p.level = s.row.cooldownLevel
  spaced : s.row.blocked → ∃ last, s.row.lastProbeAt = some last ∧
    s.row.blockedUntil = some (last + recoveryDelay (s.row.cooldownLevel - 1)) ∧
      s.row.probeAfter = s.row.blockedUntil

theorem probeAfter_record (set : row.probeAfter.isSome) : (row.record r).probeAfter = row.probeAfter := by
  obtain ⟨at_, set⟩ := Option.isSome_iff_exists.mp set
  simp only [HealthRow.record, set, Option.getD_some, ite_self]

theorem AcquisitionHealth.BackedOff.step (s : AcquisitionHealth) (op : Instant × HealthOp)
    (timely : Timely s op) (both : s.Sound ∧ s.BackedOff) :
    (healthStep s op).Sound ∧ (healthStep s op).BackedOff := by
  obtain ⟨sound, backed⟩ := both
  have next := AcquisitionHealth.Sound.step s op timely sound
  refine ⟨next, ?_⟩
  obtain ⟨time, op⟩ := op
  cases op with
  | insert | update =>
    rw [healthStep]
    split <;> exact ⟨backed.current, backed.spaced⟩
  | rollback => exact ⟨backed.current, backed.spaced⟩
  | abandon => exact ⟨fun p running => backed.current p (mem_filter.mp running).1, backed.spaced⟩
  | commit =>
    rw [healthStep]
    split
    case h_1 r next is =>
      obtain ⟨_, rfl⟩ := sound.held r next is
      refine ⟨backed.current, fun blocked => ?_⟩
      rw [probeAfter_record (sound.scheduled blocked)]
      exact backed.spaced blocked
    case h_2 => exact backed
  | claim pid waited =>
    rw [healthStep, AcquisitionHealth.claim]
    split
    case isTrue => exact ⟨List.forall_mem_cons.mpr ⟨rfl, backed.current⟩, backed.spaced⟩
    case isFalse => exact backed
  | finish pid failed now =>
  rw [healthStep] at next ⊢
  split at next
  case h_1 p _ found =>
    -- no lease is left that another probe could run under
    refine ⟨fun q running => absurd (next.leased q running) (by cases failed <;> nofun), fun blocked => ?_⟩
    cases failed with
    | true =>
      refine ⟨now, rfl, ?_, rfl⟩
      simp [HealthRow.coolDown, backed.current p (mem_of_find?_eq_some found)]
    | false => cases blocked
  case h_2 => exact backed

section
variable {ops : List (Instant × HealthOp)} (timely : Meets healthStep Timely {} ops)
  (reached : s = run healthStep {} ops)
include timely reached

theorem backedOff_of_run : s.Sound ∧ s.BackedOff := by
  rw [reached]
  refine run_invariant_of_meets AcquisitionHealth.BackedOff.step
    ⟨⟨by simp, Nat.zero_le _, ?_, by simp, by simp⟩, by simp, ?_⟩ timely
  all_goals simp [HealthRow.blocked]

/-- While acquisition is blocked, probes go by the current level, and no probe is claimed before the
delay of the level, from two minutes to half an hour, has passed since the last one. -/
theorem probes_backed_off (blocked : s.row.blocked) :
    ∃ last delay, s.row.lastProbeAt = some last ∧ delay = recoveryDelay (s.row.cooldownLevel - 1) ∧
      seconds 120 ≤ delay ∧ delay ≤ seconds 1800 ∧ (∀ p ∈ s.probes, p.level = s.row.cooldownLevel) ∧
      ∀ now pid, s.claim now pid ≠ s → last + delay ≤ now := by
  obtain ⟨_, backed⟩ := backedOff_of_run timely reached
  obtain ⟨last, at_, until_, next⟩ := backed.spaced blocked
  have least : ∀ k ≤ 4, seconds 120 ≤ min (seconds 120 * 2 ^ k) (seconds 1800) := by decide
  refine ⟨last, _, at_, rfl, least _ (Nat.min_le_right _ _), Int.min_le_right _ _, backed.current,
    fun now pid granted => ?_⟩
  have claimable : s.row.claimable now := by
    by_contra refused
    exact granted (if_neg fun free => refused free.2.2)
  have due := (and_eq_true_iff.mp claimable).1
  rw [next, until_] at due
  exact of_decide_eq_true due

/-- A blocked row is never stuck: from some time on a claim that finds the row free gets the probe,
and if that succeeds acquisition goes on. -/
theorem acquisition_recovers (blocked : s.row.blocked) (free : s.held.isNone) :
    ∃ due, ∀ now pid, due ≤ now → pid ∉ s.probes.map Probe.pid →
      (run healthStep s [(now, .claim pid 0), (now, .finish pid false now)]).row.delay = 0 := by
  obtain ⟨sound, _⟩ := backedOff_of_run timely reached
  obtain ⟨at_, scheduled⟩ := Option.isSome_iff_exists.mp (sound.scheduled blocked)
  refine ⟨max at_ (s.row.leaseUntil.getD 0 + 1), fun now pid due new => ?_⟩
  obtain ⟨probed, expired⟩ := Int.max_le.mp due
  have claimable : s.row.claimable now := by
    rw [HealthRow.claimable, scheduled]
    cases leased : s.row.leaseUntil with
    | none => simpa using probed
    | some lease =>
      rw [leased] at expired
      simpa using ⟨probed, Int.lt_of_add_one_le expired⟩
  simp [healthStep, AcquisitionHealth.claim, Option.isNone_iff_eq_none.mp free, new, claimable,
    HealthRow.delay, HealthRow.blocked, HealthRow.recovered]

end

theorem probes_backed_off_failing :
    ∃ last, (run healthStep {} failingAttempts).row.lastProbeAt = some last :=
  have timely : Meets healthStep Timely {} failingAttempts := by decide +kernel
  have ⟨last, _, is, _⟩ := probes_backed_off timely rfl (by decide +kernel)
  ⟨last, is⟩

theorem acquisition_recovers_failing : ∃ now, (run healthStep (run healthStep {} failingAttempts)
    [(now, .claim 1 0), (now, .finish 1 false now)]).row.delay = 0 :=
  have timely : Meets healthStep Timely {} failingAttempts := by decide +kernel
  have ⟨due, recovers⟩ := acquisition_recovers timely rfl (by decide +kernel) (by decide +kernel)
  ⟨due, recovers due 1 (Int.le_refl _) (by decide +kernel)⟩

end Jawnix
