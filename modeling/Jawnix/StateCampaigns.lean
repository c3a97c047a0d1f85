import Mathlib.Algebra.Order.BigOperators.Group.List
import Mathlib.Algebra.Order.Ring.Int
import Mathlib.Data.List.MinMax
import Mathlib.Tactic.Linarith
import Mathlib.Tactic.Ring
import Jawnix.Models

/-!
# Turns between states

`order_states` of `state_campaigns.py`: the smooth weighted round robin that merges
the states' job queues. A turn charges the chosen state the weights of the states
that still have jobs, so a state chosen early pays more than one chosen after others
have run out.
-/
namespace Jawnix

variable {J K : Type} [CommRing K] [LinearOrder K] (weight : String → K) (states : List String)

structure Turns (J K : Type) where
  queues : String → List J
  credits : String → K

def jobsOf (stateOf : J → String) (s : String) (jobs : List J) : List J :=
  jobs.filter fun job => stateOf job = s

namespace Turns

variable (t : Turns J K)

def live : List String := states.filter fun s => !(t.queues s).isEmpty

def credited (s : String) : K := if s ∈ t.live states then t.credits s + weight s else t.credits s
def total : K := ((t.live states).map weight).sum

/-- One pass of the loop; `none` when all queues are empty. -/
def next : Option (J × Turns J K) :=
  let credits := t.credited weight states
  match (t.live states).argmax credits with
  | none => none
  | some chosen =>
    match t.queues chosen with
    | [] => none
    | job :: rest =>
      some (job, ⟨Function.update t.queues chosen rest, Function.update credits chosen
        (credits chosen - t.total weight states)⟩)

def taken : Nat → Turns J K → List J
  | 0, _ => []
  | n + 1, t =>
    match t.next weight states with
    | none => []
    | some (job, after) => job :: after.taken n

def waiting : Nat := (states.map fun s => (t.queues s).length).sum

def start (stateOf : J → String) (jobs : List J) (listed : List String) : Turns J K :=
  ⟨fun s => if s ∈ listed then jobsOf stateOf s jobs else [], fun _ => 0⟩

end Turns

/-- `dict.fromkeys` of the lower-cased states. -/
def listedStates (casing : Casing) (states : List String) : List String :=
  (states.map casing.lower).eraseDups

def orderStates (casing : Casing) (stateOf : J → String) (jobs : List J) (states : List String)
    (weights : String → Option K) : List J :=
  let listed := listedStates casing states
  let start : Turns J K := .start stateOf jobs listed
  start.taken (fun s => (weights s).getD 1) listed (start.waiting listed)

namespace Turns
variable {weight states} {t after : Turns J K} {job : J} {s a b : String} {stateOf : J → String} {n k : Nat}

omit [CommRing K] [LinearOrder K] in
theorem mem_live : s ∈ t.live states ↔ s ∈ states ∧ t.queues s ≠ [] := by simp [live]

/-- A turn takes the first job of a live state with the greatest credit. -/
theorem next_some (turn : t.next weight states = some (job, after)) :
    ∃ chosen rest, chosen ∈ t.live states ∧ t.queues chosen = job :: rest ∧
    (∀ s ∈ t.live states, t.credited weight states s ≤ t.credited weight states chosen) ∧
    after = ⟨Function.update t.queues chosen rest,
    Function.update (t.credited weight states) chosen
    (t.credited weight states chosen - t.total weight states)⟩ := by
  rw [next] at turn
  split at turn
  · cases turn
  case h_2 chosen greatest =>
  split at turn
  · cases turn
  case h_2 first rest queue =>
  cases turn
  exact ⟨chosen, rest, List.argmax_mem greatest, queue, fun s live =>
    List.le_of_mem_argmax live greatest, rfl⟩

theorem next_none (stopped : t.next weight states = none) (listed : s ∈ states) : t.queues s = [] := by
  rw [next] at stopped
  split at stopped
  case h_1 idle =>
    by_contra jobs
    exact not_mem_nil (List.argmax_eq_none.mp idle ▸ mem_live.mpr ⟨listed, jobs⟩)
  case h_2 chosen greatest =>
  split at stopped
  case h_1 empty => exact absurd empty (mem_live.mp (List.argmax_mem greatest)).2
  · cases stopped

theorem waiting_next (turn : t.next weight states = some (job, after)) :
    after.waiting states < t.waiting states := by
  obtain ⟨chosen, rest, live, queue, -, rfl⟩ := next_some turn
  refine List.sum_lt_sum _ _ (fun s _ => ?_) ⟨chosen, (mem_live.mp live).1, by simp [queue]⟩
  by_cases same : s = chosen
  · subst same
    simp [queue]
  · simp [same]

structure Filed (stateOf : J → String) (states : List String) (t : Turns J K) : Prop where
  own : ∀ s, ∀ job ∈ t.queues s, stateOf job = s
  unlisted : ∀ s ∉ states, t.queues s = []

section
variable (filed : t.Filed stateOf states)
include filed

theorem Filed.next (turn : t.next weight states = some (job, after)) : after.Filed stateOf states := by
  obtain ⟨chosen, rest, live, queue, -, rfl⟩ := next_some turn
  constructor
  · intro s job member
    by_cases same : s = chosen
    · subst same
      exact filed.own s job (queue ▸ mem_cons_of_mem _ (by simpa using member))
    · exact filed.own s job (by simpa [same] using member)
  intro s absent
  have other : s ≠ chosen := fun same => absent (same ▸ (mem_live.mp live).1)
  simpa [other] using filed.unlisted s absent

omit [CommRing K] [LinearOrder K] in
theorem Filed.empty (idle : s ∈ states → t.queues s = []) : t.queues s = [] := by
  by_cases listed : s ∈ states
  · exact idle listed
  · exact filed.unlisted s listed

theorem Filed.jobsOf_taken (enough : t.waiting states ≤ n) (s : String) :
    jobsOf stateOf s (t.taken weight states n) = t.queues s := by
  induction n generalizing t with
  | zero =>
    refine (filed.empty fun listed => List.length_eq_zero_iff.mp (Nat.le_zero.mp ?_)).symm
    exact (List.single_le_sum (fun _ _ => Nat.zero_le _) _ (mem_map_of_mem listed)).trans enough
  | succ n ih =>
  unfold taken
  split
  case h_1 stopped => exact (filed.empty (next_none stopped)).symm
  case h_2 job after turn =>
  have others := ih (filed.next turn) (Nat.le_of_lt_succ ((waiting_next turn).trans_le enough))
  obtain ⟨chosen, rest, live, queue, -, rfl⟩ := next_some turn
  rw [jobsOf, List.filter_cons, filed.own chosen job (queue ▸ mem_cons_self)]
  by_cases same : s = chosen
  · subst same
    simpa [queue, jobsOf] using others
  · simpa [same, Ne.symm same, jobsOf] using others

end

variable [IsStrictOrderedRing K] {w total : K} {turns : String → Nat}

def served (turns : String → Nat) (s : String) : String → Nat := Function.update turns s (turns s + 1)

/-- Credits and turns of the live states balance, and no state is more than a turn ahead. -/
structure Level (states : List String) (total : K) (turns : String → Nat) (t : Turns J K) : Prop where
  balance : ∀ a ∈ t.live states, ∀ b ∈ t.live states, t.credits a + total * turns a =
    t.credits b + total * turns b
  ahead : ∀ a ∈ t.live states, ∀ b ∈ t.live states, turns a ≤ turns b + 1

/-- The greatest credit belongs to a state with the fewest turns, so the turn it gets keeps the
states level. -/
theorem Level.next (level : t.Level states (t.total weight states) turns)
    (positive : 0 < t.total weight states) (equal : ∀ s ∈ states, weight s = w)
    (filed : t.Filed stateOf states) (turn : t.next weight states = some (job, after))
    (steady : after.live states = t.live states) :
    after.Level states (t.total weight states) (served turns (stateOf job)) := by
  obtain ⟨chosen, rest, live, queue, greatest, rfl⟩ := next_some turn
  rw [filed.own chosen job (queue ▸ mem_cons_self)]
  have credited : ∀ s ∈ t.live states, t.credited weight states s = t.credits s + w := by
    intro s alive
    rw [Turns.credited, if_pos alive, equal s (mem_live.mp alive).1]
  have fewest : ∀ s ∈ t.live states, turns chosen ≤ turns s := by
    intro s alive
    have balance := level.balance chosen live s alive
    have most := greatest s alive
    rw [credited s alive, credited chosen live] at most
    have scaled : t.total weight states * (turns chosen : K) ≤ t.total weight states *
      (turns s : K) := by linarith
    exact Nat.cast_le.mp (le_of_mul_le_mul_left scaled positive)
  refine ⟨fun a first b second => ?_, fun a first b second => ?_⟩
  · -- Every live state is credited the weight, and the chosen one pays for its turn.
    have paid : ∀ s ∈ t.live states, Function.update (t.credited weight states) chosen
        (t.credited weight states chosen - t.total weight states) s +
          t.total weight states * served turns chosen s =
          t.credits chosen + w + t.total weight states * turns chosen := by
      intro s alive
      by_cases same : s = chosen
      · subst same
        simp only [served, Function.update_self, credited s alive, Nat.cast_add, Nat.cast_one]
        ring
      · simp only [served, Function.update_of_ne same, credited s alive]
        linarith [level.balance s alive chosen live]
    exact (paid a (steady ▸ first)).trans (paid b (steady ▸ second)).symm
  have before := level.ahead a (steady ▸ first) b (steady ▸ second)
  have low := fewest b (steady ▸ second)
  simp only [served, Function.update_apply]
  split
  · split <;> omega
  split
  case isTrue same =>
    subst same
    omega
  · omega

theorem Level.taken (level : t.Level states (t.total weight states) turns) (positive : 0 < w)
    (equal : ∀ s ∈ states, weight s = w) (filed : t.Filed stateOf states)
    (unspent : ∀ s ∈ t.live states, (jobsOf stateOf s ((t.taken weight states n).take k)).length <
      (t.queues s).length)
    (first : a ∈ t.live states) (second : b ∈ t.live states) :
    turns a + (jobsOf stateOf a ((t.taken weight states n).take k)).length ≤
    turns b + (jobsOf stateOf b ((t.taken weight states n).take k)).length + 1 := by
  induction k generalizing t turns n with
  | zero => simpa [jobsOf] using level.ahead a first b second
  | succ k ih =>
  cases n with
  | zero => simpa [Turns.taken, jobsOf] using level.ahead a first b second
  | succ n =>
  unfold Turns.taken at unspent ⊢
  split
  · simpa [jobsOf] using level.ahead a first b second
  case h_2 job after turn =>
  simp only [turn, List.take_succ_cons] at unspent ⊢
  obtain ⟨chosen, rest, live, queue, _, result⟩ := next_some turn
  have here : stateOf job = chosen := filed.own chosen job (queue ▸ mem_cons_self)
  have counts : ∀ s xs, turns s + (jobsOf stateOf s (job :: xs)).length =
      served turns (stateOf job) s + (jobsOf stateOf s xs).length := by
    intro s xs
    by_cases same : s = stateOf job
    · subst same
      simp [jobsOf, served]
      omega
    · simp [jobsOf, served, same, Ne.symm same]
  have left : ∀ s ∈ t.live states,
      (jobsOf stateOf s ((after.taken weight states n).take k)).length < (after.queues s).length := by
    intro s alive
    have enough := unspent s alive
    by_cases same : s = chosen
    · subst same
      simpa [jobsOf, here, queue, result] using enough
    · simpa [jobsOf, here, same, Ne.symm same, result] using enough
  -- No queue runs out, so the next pass charges the same total.
  have steady : after.live states = t.live states := by
    refine List.filter_congr fun s listed => ?_
    by_cases alive : s ∈ t.live states
    · have stays : after.queues s ≠ [] := List.ne_nil_of_length_pos (Nat.zero_lt_of_lt (left s alive))
      rw [List.isEmpty_eq_false_iff.mpr stays, List.isEmpty_eq_false_iff.mpr (mem_live.mp alive).2]
    · have other : s ≠ chosen := fun same => alive (same ▸ live)
      simp [result, other]
  have total : 0 < t.total weight states := by
    refine List.sum_pos _ (fun x member => ?_) (fun none => not_mem_nil (List.map_eq_nil_iff.mp none ▸ live))
    obtain ⟨s, alive, rfl⟩ := mem_map.mp member
    exact equal s (mem_live.mp alive).1 ▸ positive
  have next := level.next total equal filed turn steady
  rw [counts, counts]
  rw [Turns.total, ← steady] at next
  rw [← steady] at first second left
  exact ih next (filed.next turn) left first second

omit [LinearOrder K] [IsStrictOrderedRing K] in
theorem start_filed {jobs : List J} {listed : List String} :
    (start stateOf jobs listed : Turns J K).Filed stateOf listed := by
  constructor
  · intro s job member
    simp only [start] at member
    split at member
    · exact of_decide_eq_true (mem_filter.mp member).2
    · cases member
  · intro s absent
    exact if_neg absent

end Turns

/-- The first `k` turns leave a job to every listed state that has jobs. -/
def Unspent (stateOf : J → String) (jobs ordered : List J) (listed : List String) (k : Nat) : Prop :=
  ∀ s ∈ listed, jobsOf stateOf s jobs ≠ [] → (jobsOf stateOf s (ordered.take k)).length <
    (jobsOf stateOf s jobs).length
  deriving Decidable

/-- The order serves only listed states, each with all of its jobs in their order; and while
no state has run out, two states of equal weight are never more than one job apart. -/
theorem ordered_states_fair [IsStrictOrderedRing K] (casing : Casing) (stateOf : J → String) (jobs : List J)
    (states : List String) {weights : String → Option K} (positive : ∀ s, ∀ w ∈ weights s, 0 < w) :
    let listed := listedStates casing states
    let ordered := orderStates casing stateOf jobs states weights
    (∀ job ∈ ordered, stateOf job ∈ listed) ∧
    (∀ s ∈ listed, jobsOf stateOf s ordered = jobsOf stateOf s jobs) ∧
      ∀ w, (∀ s ∈ listed, (weights s).getD 1 = w) → ∀ k, Unspent stateOf jobs ordered listed k →
        ∀ a ∈ listed, ∀ b ∈ listed, jobsOf stateOf a jobs ≠ [] → jobsOf stateOf b jobs ≠ [] →
          (jobsOf stateOf a (ordered.take k)).length ≤ (jobsOf stateOf b (ordered.take k)).length + 1 := by
  intro listed ordered
  let t : Turns J K := .start stateOf jobs listed
  have filed : t.Filed stateOf listed := Turns.start_filed
  have whole : ∀ s, jobsOf stateOf s ordered = if s ∈ listed then jobsOf stateOf s jobs else [] :=
    fun s => filed.jobsOf_taken (Nat.le_refl _) s
  refine ⟨fun job member => ?_, fun s known => (whole s).trans (if_pos known),
    fun w equal k unspent a first b second => ?_⟩
  · by_contra unknown
    have none := (whole (stateOf job)).trans (if_neg unknown)
    exact filter_eq_nil_iff.mp none job member (decide_eq_true rfl)
  have level : t.Level listed (t.total (fun s => (weights s).getD 1) listed) fun _ => 0 :=
    ⟨fun _ _ _ _ => rfl, fun _ _ _ _ => Nat.zero_le _⟩
  have heavy : 0 < w := by
    rw [← equal a first]
    cases given : weights a with
    | none => exact zero_lt_one
    | some x => exact positive a x given
  have live : ∀ s ∈ listed, t.queues s = jobsOf stateOf s jobs := fun s known => if_pos known
  intro busy busy'
  have fair := level.taken (n := t.waiting listed) (k := k) heavy equal filed (fun s alive => ?_)
    (Turns.mem_live.mpr ⟨first, live a first ▸ busy⟩) (Turns.mem_live.mpr ⟨second, live b second ▸ busy'⟩)
  · rwa [Nat.zero_add, Nat.zero_add] at fair
  obtain ⟨known, has⟩ := Turns.mem_live.mp alive
  rw [live s known] at has ⊢
  exact unspent s known has

theorem ordered_states_fair_alternating :
    let ordered := orderStates plainCasing id ["ca", "ca", "tx", "tx"] ["ca", "tx"] fun _ =>
      (none : Option Int)
    (jobsOf id "ca" (ordered.take 2)).length ≤ (jobsOf id "tx" (ordered.take 2)).length + 1 := by
  have fair := @ordered_states_fair String Int _ _ _ plainCasing id ["ca", "ca", "tx", "tx"]
    ["ca", "tx"] (fun _ => none) (fun _ _ given => absurd given (Option.not_mem_none _))
  exact fair.2.2 1 (fun _ _ => rfl) 2 (by decide +kernel) "ca" (by decide) "tx" (by decide)
    (by decide) (by decide)

/-- The first state pays for five live states and the last for two, so the last takes three turns
against one. -/
theorem ordered_states_unfair :
    let jobs := ["al", "al", "ca", "co", "ct", "tx", "tx", "tx", "tx"]
    let ordered := orderStates plainCasing id jobs ["al", "ca", "co", "ct", "tx"] fun _ =>
      (none : Option Int)
    (jobsOf id "al" (ordered.take 7)).length = 1 ∧ (jobsOf id "tx" (ordered.take 7)).length = 3 ∧
      jobsOf id "al" (ordered.drop 7) ≠ [] ∧ jobsOf id "tx" (ordered.drop 7) ≠ [] := by
  decide +kernel

end Jawnix
