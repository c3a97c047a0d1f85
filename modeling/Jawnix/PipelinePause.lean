import Jawnix.Models

/-!
# Pausing the pipeline

`control_pipeline` with `clear_queue`, beside the enqueuer's `top_up` loop and the
workers of the scrape queue. A pause writes the marker, cancels the waiting jobs in
one statement and writes the marker again with their number. The enqueuer looks for
the marker before it posts a batch, so a batch on its way is inserted whatever
happened since. A job that fails with attempts left goes back to the queue, and so
does one that a worker's retry promoter listed before it was cancelled.
-/
namespace Jawnix

inductive RiverState where
  | available | pending | scheduled | retryable | running | completed | discarded | cancelled
  deriving DecidableEq

def RiverState.waits (state : RiverState) : Bool :=
  state ∈ [.available, .pending, .scheduled, .retryable]

structure RiverJob where
  id : Nat
  state : RiverState := .available
  attempt : Nat := 0
  maxAttempts : Nat := 3

/-- The queue library, as far as the program relies on it: what its scheduler, the
fetch, the end of `Work`, `JobSnooze` and `JobRetry` make of a job. -/
structure River where
  schedule : RiverJob → RiverJob
  work : RiverJob → RiverJob
  finish (failed : Bool) : RiverJob → RiverJob
  snooze : RiverJob → RiverJob
  retry : RiverJob → RiverJob
  /-- The scheduler moves only a job that waits. -/
  schedules : ∀ j, schedule j = j ∨
    j.state.waits ∧ ∃ state, state ≠ .running ∧ schedule j = { j with state }
  works : ∀ j, j.state = .available →
    work j = { j with state := .running, attempt := j.attempt + 1 }
  works_available : ∀ j, j.state ≠ .available → work j = j
  /-- Only a failure with attempts left sends a job back. -/
  finishes : ∀ (failed : Bool) j, j.state = .running → ∃ state, state ≠ .running ∧
    (state.waits → failed ∧ j.attempt < j.maxAttempts) ∧ finish failed j = { j with state }
  finishes_running : ∀ failed j, j.state ≠ .running → finish failed j = j
  /-- A snooze gives the attempt back. -/
  snoozes : ∀ j, j.state = .running →
    ∃ state, state ≠ .running ∧ snooze j = { j with state, attempt := j.attempt - 1 }
  snoozes_running : ∀ j, j.state ≠ .running → snooze j = j
  /-- `JobRetry` leaves a running job alone; any other, a cancelled one too, is
  available again, with an attempt to go. -/
  retries : ∀ j, retry j = j ∨ j.state ≠ .running ∧
    ∃ limit, j.attempt < limit ∧ retry j = { j with state := .available, maxAttempts := limit }

/-- `CANCEL_PENDING_SCRAPE_JOBS` -/
def RiverJob.cancel (j : RiverJob) : RiverJob :=
  if j.state.waits then { j with state := .cancelled } else j

/-- How far a pause has come: its marker is there, the jobs are cancelled, it has returned. -/
inductive PausePhase where
  | off | marked | cleared | returned
  deriving DecidableEq

structure Pipeline where
  phase : PausePhase := .off
  cancelledJobs : Nat := 0
  batch : Option Nat := none
  jobs : List RiverJob := []

inductive PipelineOp where
  | post (size : Nat) | insert | lose
  | schedule (id : Nat) | work (id : Nat) | finish (id : Nat) (failed : Bool) | snooze (id : Nat)
  /-- The promoter's call, for a job it found retryable at some time before. -/
  | retry (id : Nat)
  | mark | cancel | report | resume
  deriving DecidableEq

def Pipeline.change (s : Pipeline) (id : Nat) (f : RiverJob → RiverJob) : Pipeline :=
  { s with jobs := adjust RiverJob.id id f s.jobs }

variable (river : River) {s : Pipeline} {id : Nat} {f : RiverJob → RiverJob}

def pipelineStep (s : Pipeline) : PipelineOp → Pipeline
  | .post size => if s.phase = .off ∧ s.batch.isNone then { s with batch := some size } else s
  | .insert =>
    { s with
      batch := none
      jobs := s.jobs ++ (List.range (s.batch.getD 0)).map fun k => { id := s.jobs.length + k } }
  | .lose => { s with batch := none }
  | .schedule id => s.change id river.schedule
  | .work id => s.change id river.work
  | .finish id failed => s.change id (river.finish failed)
  | .snooze id => s.change id river.snooze
  | .retry id => s.change id river.retry
  | .mark => if s.phase = .off then { s with phase := .marked, cancelledJobs := 0 } else s
  | .cancel =>
    if s.phase = .marked then
      { s with
        phase := .cleared
        cancelledJobs := s.jobs.countP (·.state.waits)
        jobs := s.jobs.map RiverJob.cancel }
    else s
  | .report => if s.phase = .cleared then { s with phase := .returned } else s
  | .resume => if s.phase = .returned then { s with phase := .off } else s

def Pipeline.Cleared (s : Pipeline) : Prop := s.phase = .cleared ∨ s.phase = .returned
  deriving Decidable

/-- Once the jobs are cancelled no batch arrives, no running job goes back to the
queue, and no promoter retries a job that does not run. -/
def Unfed (s : Pipeline) (op : PipelineOp) : Prop :=
  s.Cleared → (op = .insert → s.batch.getD 0 = 0) ∧ ∀ j ∈ s.jobs,
    if j.state = .running then
      op ≠ .snooze j.id ∧ (op = .finish j.id true → j.maxAttempts ≤ j.attempt)
    else op ≠ .retry j.id
  deriving Decidable

def Pipeline.Sound (s : Pipeline) : Prop := s.Cleared → ∀ j ∈ s.jobs, j.state.waits = false

theorem Pipeline.Sound.change (sound : s.Sound)
    (kept : s.Cleared → ∀ j ∈ s.jobs, j.id = id → j.state.waits = false →
      (f j).state.waits = false) : (s.change id f).Sound := by
  intro cleared x member
  rcases mem_adjust.mp member with ⟨j, stored, named, rfl⟩ | ⟨stored, _⟩
  · exact kept cleared j stored named (sound cleared j stored)
  · exact sound cleared x stored

variable {river}

theorem Pipeline.Sound.step (s : Pipeline) (op : PipelineOp) (unfed : Unfed s op)
    (sound : s.Sound) : (pipelineStep river s op).Sound := by
  cases op with
  | post size =>
    rw [pipelineStep]
    split <;> exact sound
  | insert =>
    intro cleared x member
    have empty := (unfed cleared).1 rfl
    simp only [pipelineStep, empty, List.range_zero, List.map_nil, append_nil] at member
    exact sound cleared x member
  | lose => exact sound
  | schedule id =>
    refine sound.change fun _ j _ _ idle => ?_
    rcases river.schedules j with same | ⟨waits, _⟩
    · rwa [same]
    · simp [idle] at waits
  | work id =>
    refine sound.change fun _ j _ _ idle => ?_
    rw [river.works_available j (by rintro available; simp [available, RiverState.waits] at idle)]
    exact idle
  | finish id failed =>
    refine sound.change fun cleared j stored named idle => ?_
    by_cases running : j.state = .running
    case neg => rwa [river.finishes_running failed j running]
    -- a failure that is not the last would send the job back
    have last := (unfed cleared).2 j stored
    rw [if_pos running] at last
    obtain ⟨state, _, back, ends⟩ := river.finishes failed j running
    rw [ends, Bool.eq_false_iff]
    intro waits
    obtain ⟨rfl, left⟩ := back waits
    exact absurd (last.2 (named ▸ rfl)) (Nat.not_le.mpr left)
  | snooze id =>
    refine sound.change fun cleared j stored named idle => ?_
    by_cases running : j.state = .running
    · have stays := (unfed cleared).2 j stored
      rw [if_pos running] at stays
      exact absurd (named ▸ rfl) stays.1
    · rwa [river.snoozes_running j running]
  | retry id =>
    refine sound.change fun cleared j stored named idle => ?_
    rcases river.retries j with same | ⟨waiting, _⟩
    · rwa [same]
    · have stays := (unfed cleared).2 j stored
      rw [if_neg waiting] at stays
      exact absurd (named ▸ rfl) stays
  | mark | resume =>
    rw [pipelineStep]
    split
    case isTrue => simp [Pipeline.Sound, Pipeline.Cleared]
    case isFalse => exact sound
  | cancel =>
    rw [pipelineStep]
    split
    case isTrue =>
      intro _ x member
      obtain ⟨j, _, rfl⟩ := mem_map.mp member
      unfold RiverJob.cancel
      split
      case isTrue => rfl
      case isFalse idle => simpa using idle
    case isFalse => exact sound
  | report =>
    rw [pipelineStep]
    split
    case isTrue cleared => exact fun _ => sound (.inl cleared)
    case isFalse => exact sound

/-- From a pipeline that is not paused, in a run in which no batch arrives and no
job goes back to the queue once the jobs are cancelled, no job waits from the
return of the pause to the resume. -/
theorem pause_clears (river : River) {start : Pipeline} (off : start.phase = .off)
    {ops : List PipelineOp} (unfed : Meets (pipelineStep river) Unfed start ops)
    (returned : (run (pipelineStep river) start ops).phase = .returned) :
    ∀ j ∈ (run (pipelineStep river) start ops).jobs, j.state.waits = false := by
  have initial : start.Sound := fun cleared => by simp [Pipeline.Cleared, off] at cleared
  exact run_invariant_of_meets Pipeline.Sound.step initial unfed (.inr returned)

/-- A job that has used up its attempts is given one more by `JobRetry`. -/
def plainRiver : River where
  schedule j := if j.state.waits then { j with state := .available } else j
  work j := if j.state = .available then { j with state := .running, attempt := j.attempt + 1 } else j
  finish failed j :=
    if j.state ≠ .running then j
    else if !failed then { j with state := .completed }
    else if j.attempt < j.maxAttempts then { j with state := .retryable }
    else { j with state := .discarded }
  snooze j :=
    if j.state = .running then { j with state := .scheduled, attempt := j.attempt - 1 } else j
  retry j :=
    if j.state = .running then j
    else { j with state := .available, maxAttempts := max j.maxAttempts (j.attempt + 1) }
  schedules j := by
    by_cases waits : j.state.waits
    · exact .inr ⟨waits, .available, nofun, if_pos waits⟩
    · exact .inl (if_neg waits)
  works _ available := if_pos available
  works_available _ other := if_neg other
  finishes failed j running := by
    cases failed with
    | false => exact ⟨.completed, nofun, nofun, by simp [running]⟩
    | true =>
      by_cases left : j.attempt < j.maxAttempts
      · exact ⟨.retryable, nofun, fun _ => ⟨rfl, left⟩, by simp [running, left]⟩
      · exact ⟨.discarded, nofun, nofun, by simp [running, left]⟩
  finishes_running _ _ other := if_pos other
  snoozes _ running := ⟨.scheduled, nofun, if_pos running⟩
  snoozes_running _ other := if_neg other
  retries j := by
    by_cases running : j.state = .running
    · exact .inl (if_pos running)
    · exact .inr ⟨running, _, Nat.le_max_right _ _, if_neg running⟩

/-- Of three jobs one works on through the pause, and one has failed before it. -/
theorem pause_clears_working :
    ∃ s : Pipeline, s.jobs.length = 3 ∧ s.cancelledJobs = 2 ∧ ∀ j ∈ s.jobs, j.state.waits = false :=
  ⟨run (pipelineStep plainRiver) {}
    [.post 3, .insert, .work 0, .work 1, .finish 1 true, .mark, .cancel, .report, .retry 0,
      .finish 0 false],
    rfl, rfl, pause_clears plainRiver rfl (by decide) (by decide)⟩

/-- A batch posted before the marker, a job that fails after the cancelling, and a
retryable job that the promoter had listed before it, wait in a paused pipeline. -/
theorem pause_leaves_jobs :
    [[.post 1, .mark, .cancel, .report, .insert],
      [.post 1, .insert, .work 0, .mark, .cancel, .report, .finish 0 true],
      [.post 1, .insert, .work 0, .finish 0 true, .mark, .cancel, .report, .retry 0]].map
        (fun ops => ((run (pipelineStep plainRiver) {} ops).phase,
          (run (pipelineStep plainRiver) {} ops).jobs.map RiverJob.state)) =
      [(.returned, [.available]), (.returned, [.retryable]), (.returned, [.available])] := by
  decide

end Jawnix
