import Mathlib.Logic.Function.Basic
import Jawnix.PipelinePause

/-!
# Scrape attempts

`ScrapeWorker.Work` between the queue and the breaker. Taking a job counts an attempt.
Where `Delay` fails or puts the job off, it is snoozed, which gives the attempt back;
otherwise the worker fetches, files the attempt with `Record` and returns. A worker may
die at any time, and its job is then rescued as if it had failed. The promoter's
`JobRetry` may come late and find its job in any state.
-/
namespace Jawnix

/-- A job before its insertion is as it will be inserted. `working` are the jobs in `Work`
before `Record`, `passed` those of them past `Delay`, and `filed` the keys of
`scrape_attempts`. -/
structure ScrapeQueue where
  job : Nat → RiverJob := fun id => { id }
  working : List Nat := []
  passed : List Nat := []
  filed : List (Nat × Nat) := []

inductive ScrapeOp where
  | schedule (id : Nat) | retry (id : Nat) | cancel (id : Nat) | take (id : Nat)
  | delay (id : Nat) (snoozed : Bool)
  | record (id : Nat) (committed : Bool)
  | finish (id : Nat) (failed : Bool)
  | die (id : Nat)

section
variable (s : ScrapeQueue) (id : Nat)

def ScrapeQueue.Fetching : Prop := id ∈ s.working ∧ id ∈ s.passed
  deriving Decidable

def ScrapeQueue.change (f : RiverJob → RiverJob) : ScrapeQueue :=
  { s with job := Function.update s.job id (f (s.job id)) }

def ScrapeQueue.leave : ScrapeQueue :=
  { s with working := s.working.filter (· ≠ id), passed := s.passed.filter (· ≠ id) }

/-- `ON CONFLICT DO NOTHING` -/
def ScrapeQueue.file (key : Nat × Nat) : ScrapeQueue := { s with filed := s.filed.insert key }

def scrapeStep (river : River) : ScrapeOp → ScrapeQueue
  | .schedule id => s.change id river.schedule
  | .retry id => s.change id river.retry
  | .cancel id => s.change id RiverJob.cancel
  | .take id =>
    if (s.job id).state = .available then
      { s.change id river.work with working := id :: s.working }
    else s
  | .delay id snoozed =>
    if id ∉ s.working ∨ id ∈ s.passed then s
    else if snoozed then (s.leave id).change id river.snooze
    else { s with passed := id :: s.passed }
  | .record id committed =>
    if ¬s.Fetching id then s
    else if committed then (s.leave id).file (id, (s.job id).attempt)
    else s.leave id
  | .finish id failed => if id ∈ s.working then s else s.change id (river.finish failed)
  | .die id => s.leave id

end

/-- A job that waits has an attempt to go. Those that are filed have been counted, and the
one under way, if the job is worked on, is not filed yet. -/
structure RiverJob.Sound (filed : Nat → Prop) (worked : Prop) (j : RiverJob) : Prop where
  bounded : j.attempt ≤ j.maxAttempts
  left : j.state.waits → j.attempt < j.maxAttempts
  started : j.state = .running → 0 < j.attempt
  runs : worked → j.state = .running
  counted : ∀ n, filed n → 0 < n ∧ n ≤ j.attempt ∧ (worked → n < j.attempt)

section
variable {river : River} {j : RiverJob} {filed : Nat → Prop} {worked worked' : Prop}
  (sound : j.Sound filed worked)
include sound

theorem RiverJob.Sound.mono (fewer : worked' → worked) : j.Sound filed worked' :=
  { sound with
    runs := fun works => sound.runs (fewer works)
    counted := fun n known => (sound.counted n known).imp_right (And.imp_right (· ∘ fewer)) }

theorem RiverJob.Sound.moved (waits : j.state.waits) {state : RiverState}
    (idle : state ≠ .running) : RiverJob.Sound filed worked { j with state } := by
  refine { sound with
    left := fun _ => sound.left waits, started := fun runs => absurd runs idle, runs := fun works => ?_ }
  simp [sound.runs works, RiverState.waits] at waits

theorem RiverJob.Sound.schedule : (river.schedule j).Sound filed worked := by
  rcases river.schedules j with same | ⟨waits, state, idle, moved⟩
  · rwa [same]
  · rw [moved]
    exact sound.moved waits idle

theorem RiverJob.Sound.cancel : j.cancel.Sound filed worked := by
  unfold RiverJob.cancel
  split
  case isTrue waits => exact sound.moved waits nofun
  case isFalse => exact sound

theorem RiverJob.Sound.retry : (river.retry j).Sound filed worked := by
  rcases river.retries j with same | ⟨idle, limit, more, available⟩
  · rwa [same]
  · rw [available]
    exact { sound with
      bounded := more.le
      left := fun _ => more
      started := nofun
      runs := fun works => absurd (sound.runs works) idle }

theorem RiverJob.Sound.work (available : j.state = .available) :
    (river.work j).Sound filed worked' := by
  have left := sound.left (by rw [available]; rfl)
  rw [river.works j available]
  refine ⟨left, nofun, fun _ => Nat.succ_pos _, fun _ => rfl, fun n known => ?_⟩
  obtain ⟨positive, counted, _⟩ := sound.counted n known
  exact ⟨positive, Nat.le_succ_of_le counted, fun _ => Nat.lt_succ_of_le counted⟩

theorem RiverJob.Sound.snooze (works : worked) (gone : ¬worked') :
    (river.snooze j).Sound filed worked' := by
  have runs := sound.runs works
  have less : j.attempt - 1 < j.maxAttempts := by
    have started := sound.started runs
    have bounded := sound.bounded
    omega
  obtain ⟨state, idle, snoozed⟩ := river.snoozes j runs
  rw [snoozed]
  refine ⟨less.le, fun _ => less, fun again => absurd again idle,
    fun again => absurd again gone, fun n known => ?_⟩
  obtain ⟨positive, _, before⟩ := sound.counted n known
  exact ⟨positive, Nat.le_sub_one_of_lt (before works), fun again => absurd again gone⟩

theorem RiverJob.Sound.finish (idle : ¬worked) (failed : Bool) :
    (river.finish failed j).Sound filed worked := by
  by_cases running : j.state = .running
  · obtain ⟨state, ended, back, finished⟩ := river.finishes failed j running
    rw [finished]
    exact { sound with
      left := fun waits => (back waits).2
      started := fun again => absurd again ended
      runs := fun works => absurd works idle }
  · rwa [river.finishes_running failed j running]

end

def ScrapeQueue.Sound (s : ScrapeQueue) : Prop :=
  s.filed.Nodup ∧ ∀ id, (s.job id).Sound (fun n => (id, n) ∈ s.filed) (id ∈ s.working)

section
variable {river : River} {s t : ScrapeQueue} {id : Nat}

theorem ScrapeQueue.Sound.change (sound : s.Sound) {f : RiverJob → RiverJob}
    (filed : t.filed = s.filed) (job : t.job = (s.change id f).job)
    (here : (f (s.job id)).Sound (fun n => (id, n) ∈ s.filed) (id ∈ t.working))
    (others : ∀ i, i ≠ id → i ∈ t.working → i ∈ s.working) : t.Sound := by
  refine ⟨filed ▸ sound.1, fun i => ?_⟩
  rw [filed, job]
  change (Function.update s.job id (f (s.job id)) i).Sound _ _
  rcases eq_or_ne i id with rfl | other
  · rwa [Function.update_self]
  · rw [Function.update_of_ne other]
    exact (sound.2 i).mono (others i other)

theorem ScrapeQueue.Sound.leave (sound : s.Sound) (id : Nat) : (s.leave id).Sound :=
  ⟨sound.1, fun i => (sound.2 i).mono fun left => (mem_filter.mp left).1⟩

theorem ScrapeQueue.gone_leave : id ∉ (s.leave id).working := by simp [ScrapeQueue.leave]

theorem ScrapeQueue.Sound.file (sound : s.Sound) (fetching : s.Fetching id) :
    ((s.leave id).file (id, (s.job id).attempt)).Sound := by
  refine ⟨sound.1.insert, fun i => { (sound.leave id).2 i with counted := fun n member => ?_ }⟩
  rcases List.mem_insert_iff.mp member with here | old
  · cases here
    have job := sound.2 id
    exact ⟨job.started (job.runs fetching.1), Nat.le_refl _, fun left => absurd left gone_leave⟩
  · exact ((sound.leave id).2 i).counted n old

theorem ScrapeQueue.Sound.step (s : ScrapeQueue) (op : ScrapeOp) (sound : s.Sound) :
    (scrapeStep s river op).Sound := by
  cases op with
  | schedule id => exact sound.change rfl rfl (sound.2 id).schedule fun _ _ works => works
  | retry id => exact sound.change rfl rfl (sound.2 id).retry fun _ _ works => works
  | cancel id => exact sound.change rfl rfl (sound.2 id).cancel fun _ _ works => works
  | take id =>
    rw [scrapeStep]
    split
    case isTrue available =>
      refine sound.change rfl rfl ((sound.2 id).work available) fun i other works => ?_
      exact (mem_cons.mp works).resolve_left other
    case isFalse => exact sound
  | delay id snoozed =>
    rw [scrapeStep]
    split
    case isTrue => exact sound
    case isFalse asks =>
      have works := not_not.mp (not_or.mp asks).1
      split
      · exact sound.change rfl rfl ((sound.2 id).snooze works gone_leave)
          fun _ _ left => (mem_filter.mp left).1
      · exact sound
  | record id committed =>
    rw [scrapeStep]
    split
    case isTrue => exact sound
    case isFalse fetching =>
      split
      · exact sound.file (not_not.mp fetching)
      · exact sound.leave id
  | finish id failed =>
    rw [scrapeStep]
    split
    case isTrue => exact sound
    case isFalse idle =>
      exact sound.change rfl rfl ((sound.2 id).finish idle failed) fun _ _ works => works
  | die id => exact sound.leave id

end

/-- However workers take, snooze, fetch, fail and die: an attempt that is being fetched is
not filed yet, so `Record` drops none, though a snooze has its number used again; and the
filed ones of a job are different numbers up to its count. -/
theorem scrape_attempts_filed (river : River) (ops : List ScrapeOp) :
    let s := run (scrapeStep · river) {} ops
    (∀ id, (s.job id).attempt ≤ (s.job id).maxAttempts ∧
      (s.Fetching id → (id, (s.job id).attempt) ∉ s.filed)) ∧
      s.filed.Nodup ∧ ∀ k ∈ s.filed, 1 ≤ k.2 ∧ k.2 ≤ (s.job k.1).attempt := by
  intro s
  have sound : s.Sound := by
    refine run_invariant ScrapeQueue.Sound.step ⟨List.nodup_nil, fun id => ?_⟩ ops
    constructor <;> simp
  refine ⟨fun id => ⟨(sound.2 id).bounded, fun fetching filed => ?_⟩, sound.1, fun k filed => ?_⟩
  · exact Nat.lt_irrefl _ (((sound.2 id).counted _ filed).2.2 fetching.1)
  · obtain ⟨positive, counted, _⟩ := (sound.2 k.1).counted k.2 filed
    exact ⟨positive, counted⟩

end Jawnix
