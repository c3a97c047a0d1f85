import Jawnix.Library.Chains
import Jawnix.Library.Locks
import Jawnix.Feedback

/-!
# Concurrent outcomes

`create_feedback` locks its Distribution Event and reads the ratings after it has
the lock. `create_outcome` locks the outcomes that exist when its statement starts,
and an insert it waited for stays invisible to it: at READ COMMITTED the statement
keeps its snapshot. An insert waits for the rows its foreign keys name if another
transaction has them locked.
-/
namespace Jawnix

/-- One call of `create_feedback`, after the session found the Customer. -/
structure FeedbackCall where
  customerId : Nat
  userId : Uuid
  payload : FeedbackCreate
  id : Uuid
  now : Instant

structure MilestoneCall where
  eventId : Nat
  customerId : Nat
  userId : Uuid
  payload : OutcomeCreate
  id : Uuid
  now : Instant

inductive OutcomeCall where
  | feedback (call : FeedbackCall)
  | milestone (call : MilestoneCall)

inductive Recording where
  | awaiting (call : FeedbackCall)
  | holding (call : FeedbackCall)
  | rating (call : FeedbackCall) (outcome : Option LeadOutcome)
  | locking (call : MilestoneCall) (history : List LeadOutcome) (remaining : List Uuid)
  | inserting (call : MilestoneCall) (outcome : LeadOutcome)

inductive LockedRow where
  | event (id : Nat)
  | outcome (id : Uuid)
  deriving DecidableEq

structure OutcomeStore where
  outcomes : List LeadOutcome
  locks : LockedRow → Option Nat := fun _ => none
  inFlight : List (Nat × Recording) := []

inductive OutcomeOp where
  | start (tid : Nat) (call : OutcomeCall)
  | proceed (tid : Nat)
  | commit (tid : Nat)
  | abort (tid : Nat)

/-- The first statement of a call; the snapshot of `create_outcome` is taken here. -/
def OutcomeCall.begin (outcomes : List LeadOutcome) : OutcomeCall → Recording
  | .feedback call => .awaiting call
  | .milestone call =>
    .locking call (outcomeHistory outcomes call.eventId)
    ((outcomeHistory outcomes call.eventId).map LeadOutcome.id)

variable (s : OutcomeStore) (tid : Nat) (outcomes : List LeadOutcome)

def OutcomeStore.put (recording : Recording) : OutcomeStore :=
  { s with inFlight := Dict.set tid recording s.inFlight }

def OutcomeStore.leave (outcomes : List LeadOutcome) : OutcomeStore :=
  { outcomes, locks := Locks.release s.locks tid, inFlight := Dict.erase tid s.inFlight }

def OutcomeStore.lock (row : LockedRow) (recording : Recording) : OutcomeStore :=
  if Locks.available s.locks tid row then
    { s.put tid recording with locks := Locks.acquire s.locks tid row } else s

def OutcomeStore.proceed : Recording → OutcomeStore
  | .awaiting call => s.lock tid (.event call.payload.distributionEventId) (.holding call)
  | .holding call =>
    s.put tid (.rating call
      (ratingOutcome s.outcomes call.payload.distributionEventId call.customerId call.userId
        call.payload call.id call.now))
  | .locking call history [] =>
    match milestoneOutcome history call.eventId call.customerId call.userId call.payload call.id
    call.now with
    | .error _ => s.leave tid s.outcomes
    | .ok outcome => s.put tid (.inserting call outcome)
  | .locking call history (id :: rest) => s.lock tid (.outcome id) (.locking call history rest)
  | .rating .. | .inserting .. => s

/-- The foreign keys of a new outcome need a share of the rows they name. -/
def OutcomeStore.mayInsert (outcome : LeadOutcome) : Bool :=
  Locks.available s.locks tid (.event outcome.distributionEventId) &&
    outcome.supersedesOutcomeId.all fun id => Locks.available s.locks tid (.outcome id)

def OutcomeStore.record (outcome : LeadOutcome) : OutcomeStore :=
  if s.mayInsert tid outcome then
    if outcome.id ∈ s.outcomes.map LeadOutcome.id then s.leave tid s.outcomes else s.leave tid
      (s.outcomes ++ [outcome])
  else s

def OutcomeStore.commit : Recording → OutcomeStore
  | .rating _ none => s.leave tid s.outcomes
  | .rating _ (some outcome) | .inserting _ outcome => s.record tid outcome
  | _ => s

def outcomeStep : OutcomeOp → OutcomeStore
  | .start tid call =>
    match get? tid s.inFlight with
    | some _ => s
    | none => s.put tid (call.begin s.outcomes)
  | .proceed tid => (get? tid s.inFlight).elim s (s.proceed tid)
  | .commit tid => (get? tid s.inFlight).elim s (s.commit tid)
  | .abort tid => (get? tid s.inFlight).elim s fun _ => s.leave tid s.outcomes

def outcomesOf (outcomes : List LeadOutcome) (target : Nat × OutcomeMetric) : List LeadOutcome :=
  outcomes.filter fun o => o.distributionEventId = target.1 && o.metric = target.2

def Supersession (outcomes : List LeadOutcome) (target : Nat × OutcomeMetric) : Prop :=
  Chains.Linked LeadOutcome.id LeadOutcome.supersedesOutcomeId (outcomesOf outcomes target)

def LeadOutcome.Active (outcomes : List LeadOutcome) (outcome : LeadOutcome) : Prop :=
  ∀ other ∈ outcomes, other.supersedesOutcomeId ≠ some outcome.id
  deriving Decidable

def lastOutcome (target : Nat × OutcomeMetric) : Option Uuid :=
  (outcomesOf outcomes target).getLast?.map LeadOutcome.id

section
variable {outcomes history : List LeadOutcome} {target : Nat × OutcomeMetric} {o : LeadOutcome}
  (keyed : Keyed LeadOutcome.id outcomes) (linked : ∀ target, Supersession outcomes target)

theorem mem_outcomesOf : o ∈ outcomesOf outcomes target ↔ o ∈ outcomes ∧
    o.distributionEventId = target.1 ∧ o.metric = target.2 := by
  simp only [outcomesOf, mem_filter, and_eq_true, decide_eq_true_eq]

theorem outcomesOf_append : outcomesOf (outcomes ++ [o]) target =
    outcomesOf outcomes target ++ if (o.distributionEventId, o.metric) = target then [o] else [] := by
  unfold outcomesOf
  rw [filter_append]
  congr 1
  split
  case isTrue same =>
    subst same
    simp
  case isFalse differ =>
  refine filter_eq_nil_iff.mpr fun x here both => differ ?_
  rw [mem_singleton.mp here, and_eq_true, decide_eq_true_eq, decide_eq_true_eq] at both
  exact Prod.ext both.1 both.2

theorem mem_supersededIds {id : Uuid} : id ∈ supersededIds history ↔
    ∃ y ∈ history, y.supersedesOutcomeId = some id := mem_filterMap

theorem mem_outcomeHistory {eventId : Nat} :
    o ∈ outcomeHistory outcomes eventId ↔ o ∈ outcomes ∧ o.distributionEventId = eventId := by
  unfold outcomeHistory
  rw [List.mem_insertionSort, mem_filter, decide_eq_true_eq]

theorem mem_ratingHistory {eventId : Nat} :
    o ∈ ratingHistory outcomes eventId ↔ o ∈ outcomesOf outcomes (eventId, .quality) :=
  List.mem_insertionSort _

include keyed linked

theorem superseding_alike {x y : LeadOutcome} (inX : x ∈ outcomes) (inY : y ∈ outcomes)
    (supersedes : y.supersedesOutcomeId = some x.id) :
    y.distributionEventId = x.distributionEventId ∧ y.metric = x.metric := by
  have own : y ∈ outcomesOf outcomes (y.distributionEventId, y.metric) := mem_outcomesOf.mpr ⟨inY, rfl, rfl⟩
  obtain ⟨z, inChain, same⟩ := mem_map.mp ((linked _).replaced_mem own supersedes)
  obtain ⟨inZ, sameEvent, sameMetric⟩ := mem_outcomesOf.mp inChain
  cases eq_of_mem_of_key keyed inZ inX same
  exact ⟨sameEvent.symm, sameMetric.symm⟩

theorem active_iff_last (member : o ∈ outcomesOf outcomes target) :
    o.Active outcomes ↔ (outcomesOf outcomes target).getLast? = some o := by
  constructor
  · intro active
    exact (linked target).last_of_unreplaced member fun y inside => active y (mem_outcomesOf.mp inside).1
  intro last y inY supersedes
  obtain ⟨inO, sameEvent, sameMetric⟩ := mem_outcomesOf.mp member
  obtain ⟨yEvent, yMetric⟩ := superseding_alike keyed linked inO inY supersedes
  have distinct : ((outcomesOf outcomes target).map LeadOutcome.id).Nodup :=
    keyed.sublist (filter_sublist.map _)
  exact (linked target).unreplaced_last distinct last y
    (mem_outcomesOf.mpr ⟨inY, yEvent.trans sameEvent, yMetric.trans sameMetric⟩) supersedes

theorem find_active (found : Option LeadOutcome) (within : ∀ x ∈ history, x ∈ outcomes)
    (complete : ∀ x ∈ outcomesOf outcomes target, x ∈ history)
    (some_ : ∀ x, found = some x → x ∈ outcomesOf outcomes target ∧ x.id ∉ supersededIds history)
    (none_ : found = none → ∀ x ∈ outcomesOf outcomes target, x.id ∈ supersededIds history) :
    found.map LeadOutcome.id = lastOutcome outcomes target := by
  unfold lastOutcome
  congr 1
  cases found with
  | some x =>
    obtain ⟨member, fresh⟩ := some_ x rfl
    refine (((linked target).last_of_unreplaced member) fun y inside supersedes => fresh ?_).symm
    exact mem_supersededIds.mpr ⟨y, complete y inside, supersedes⟩
  | none =>
  cases last : (outcomesOf outcomes target).getLast? with
  | none => rfl
  | some x =>
    have member := List.mem_of_getLast? last
    obtain ⟨y, inHistory, supersedes⟩ := mem_supersededIds.mp (none_ rfl x member)
    exact absurd supersedes ((active_iff_last keyed linked member).mpr last y (within y inHistory))

theorem activeRating_last (eventId : Nat) :
    (activeRating (ratingHistory outcomes eventId)).map LeadOutcome.id = lastOutcome outcomes
    (eventId, .quality) := by
  refine find_active keyed linked _ (fun x inside => (mem_outcomesOf.mp (mem_ratingHistory.mp inside)).1)
    (fun x inside => mem_ratingHistory.mpr inside) ?_ ?_
  · intro x found
    have fresh := find?_some found
    exact ⟨mem_ratingHistory.mp (List.mem_reverse.mp (mem_of_find?_eq_some found)), of_decide_eq_true fresh⟩
  intro none x inside
  have stale := find?_eq_none.mp none x (List.mem_reverse.mpr (mem_ratingHistory.mpr inside))
  exact not_not.mp fun fresh => stale (decide_eq_true fresh)

/-- A milestone is recorded after the last outcome of its metric, if the history it read still holds
them all. -/
theorem milestoneOutcome_next {call : MilestoneCall}
    (within : ∀ x ∈ history, x ∈ outcomes ∧ x.distributionEventId = call.eventId)
    (complete : ∀ x ∈ outcomesOf outcomes (call.eventId, call.payload.kind.metric), x ∈ history)
    (done : milestoneOutcome history call.eventId call.customerId call.userId call.payload call.id
      call.now = .ok o) :
    (o.distributionEventId, o.metric) = (call.eventId, call.payload.kind.metric) ∧
    o.supersedesOutcomeId = lastOutcome outcomes (call.eventId, call.payload.kind.metric) := by
  unfold milestoneOutcome at done
  split at done
  · cases done
  cases names : call.payload.supersedesOutcomeId with
  | some superseded =>
    rw [names] at done
    dsimp only at done
    split at done
    · cases done
    case h_2 previous found =>
    obtain ⟨accepted, done⟩ := guard_ok done
    cases done
    obtain ⟨sameMetric, fresh⟩ := not_or.mp accepted
    have inHistory := mem_of_find?_eq_some found
    obtain ⟨inOutcomes, sameEvent⟩ := within previous inHistory
    have named := find?_some found
    rw [decide_eq_true_eq] at named
    refine ⟨rfl, ?_⟩
    rw [← named, ← find_active keyed linked (some previous) (fun x inside => (within x inside).1) complete]
    · rfl
    · rintro x ⟨⟩
      exact ⟨mem_outcomesOf.mpr ⟨inOutcomes, sameEvent, not_not.mp sameMetric⟩, fresh⟩
    · exact fun none => nomatch none
  | none =>
  rw [names] at done
  obtain ⟨unrecorded, done⟩ := guard_ok done
  cases done
  refine ⟨rfl, ?_⟩
  rw [← find_active keyed linked none (fun x inside => (within x inside).1) complete]
  · rfl
  · exact fun x some_ => nomatch some_
  intro _ x inside
  have absent := find?_eq_none.mp (not_isSome_iff_eq_none.mp unrecorded) x
    (List.mem_reverse.mpr (complete x inside))
  rw [and_eq_true, decide_eq_true_eq, decide_eq_true_eq] at absent
  exact not_not.mp fun fresh => absent ⟨(mem_outcomesOf.mp inside).2.2, fresh⟩

end

/-- The metric of the event that the transaction records, if it records any. -/
def Recording.target : Recording → Option (Nat × OutcomeMetric)
  | .awaiting call | .holding call | .rating call _ =>
    call.payload.qualityRating.map (fun _ => (call.payload.distributionEventId, .quality))
  | .locking call _ _ | .inserting call _ => some (call.eventId, call.payload.kind.metric)

def Recording.isFeedback : Recording → Bool
  | .awaiting _ | .holding _ | .rating .. => true
  | .locking .. | .inserting .. => false

def Recording.lockedEvent : Recording → Option Nat
  | .holding call | .rating call _ => some call.payload.distributionEventId
  | _ => none

def Recording.history : Recording → Option (List LeadOutcome)
  | .locking _ history _ => some history
  | _ => none

def Recording.pending : Recording → Option LeadOutcome
  | .rating _ outcome => outcome
  | .inserting _ outcome => some outcome
  | _ => none

structure FreshHistory (target : Nat × OutcomeMetric) (history : List LeadOutcome) : Prop where
  within : ∀ o ∈ history, o ∈ outcomes ∧ o.distributionEventId = target.1
  complete : ∀ o ∈ outcomesOf outcomes target, o ∈ history

structure NextOutcome (target : Nat × OutcomeMetric) (o : LeadOutcome) : Prop where
  metric : (o.distributionEventId, o.metric) = target
  last : o.supersedesOutcomeId = lastOutcome outcomes target

structure Recording.Sound (locks : LockedRow → Option Nat) (tid : Nat) (r : Recording) : Prop where
  locked : ∀ event ∈ r.lockedEvent, locks (.event event) = some tid
  fresh : ∀ history ∈ r.history, ∀ target ∈ r.target, FreshHistory outcomes target history
  next : ∀ o ∈ r.pending, ∃ target ∈ r.target, NextOutcome outcomes target o

structure OutcomeStore.Sound : Prop where
  ids : Keyed LeadOutcome.id s.outcomes
  chains : ∀ target, Supersession s.outcomes target
  calls : ∀ tid r, get? tid s.inFlight = some r → r.Sound s.outcomes s.locks tid
  alone : ∀ tid r other u, get? tid s.inFlight = some r → get? other s.inFlight = some u →
    tid ≠ other → r.target ≠ none → u.target = r.target → r.isFeedback

/-- `create_outcome` does not overlap another transaction that records the same metric of the
event. -/
def RecordsAlone : OutcomeOp → Prop
  | .start _ call => ∀ entry ∈ s.inFlight, (call.begin s.outcomes).target ≠ none →
      entry.2.target = (call.begin s.outcomes).target → entry.2.isFeedback ∧
      (call.begin s.outcomes).isFeedback
  | _ => True

instance (s : OutcomeStore) (op : OutcomeOp) : Decidable (RecordsAlone s op) := by
  unfold RecordsAlone
  split <;> infer_instance

section
variable {s : OutcomeStore} {tid other : Nat} {r u : Recording} {locks locks' : LockedRow → Option Nat}
  {outcomes : List LeadOutcome} {o : LeadOutcome}

theorem Recording.Sound.locks_mono (sound : u.Sound outcomes locks other)
    (held : ∀ row, locks row = some other → locks' row = some other) : u.Sound outcomes locks' other :=
  ⟨fun event member => held _ (sound.locked event member), sound.fresh, sound.next⟩

/-- An outcome of another metric, or of one the transaction has not read yet, changes nothing for
it. -/
theorem Recording.Sound.extend (sound : u.Sound outcomes locks other)
    (unread : u.target = some (o.distributionEventId, o.metric) → u.history = none ∧ u.pending = none) :
    u.Sound (outcomes ++ [o]) locks other := by
  have same : ∀ target ∈ u.target, u.history ≠ none ∨ u.pending ≠ none →
      outcomesOf (outcomes ++ [o]) target = outcomesOf outcomes target := by
    intro target records reads
    rw [outcomesOf_append, if_neg, append_nil]
    rintro rfl
    obtain ⟨noHistory, noPending⟩ := unread records
    exact reads.elim (fun some_ => some_ noHistory) fun some_ => some_ noPending
  refine ⟨sound.locked, fun history read target records => ?_, fun pending waits => ?_⟩
  · obtain ⟨within, complete⟩ := sound.fresh history read target records
    refine ⟨fun x inside => ⟨mem_append_left _ (within x inside).1, (within x inside).2⟩, ?_⟩
    rw [same target records (.inl fun none => nomatch none.symm.trans read)]
    exact complete
  obtain ⟨target, records, next⟩ := sound.next pending waits
  refine ⟨target, records, next.metric, ?_⟩
  unfold lastOutcome
  rw [same target records (.inr fun none => nomatch none.symm.trans waits)]
  exact next.last

namespace OutcomeStore.Sound

section
variable (sound : s.Sound)
include sound

theorem put (kept : ∀ other ≠ tid, ∀ row, s.locks row = some other → locks row = some other)
    (own : r.Sound s.outcomes locks tid)
    (alone : ∀ other u, get? other s.inFlight = some u → other ≠ tid → r.target ≠ none →
      u.target = r.target → r.isFeedback ∧ u.isFeedback) :
    OutcomeStore.Sound { s.put tid r with locks } := by
  refine ⟨sound.ids, sound.chains, fun other u named =>
    ?_, fun other u another v named named' differ records same => ?_⟩
  · rcases get?_set_cases named with ⟨rfl, rfl⟩ | ⟨apart, found⟩
    · exact own
    · exact (sound.calls other u found).locks_mono (kept other apart)
  rcases get?_set_cases named with ⟨rfl, rfl⟩ | ⟨apart, found⟩ <;>
    rcases get?_set_cases named' with ⟨rfl, rfl⟩ | ⟨apart', found'⟩
  · exact absurd rfl differ
  · exact (alone another v found' apart' records same).1
  · exact (alone other u found apart (same ▸ records) same.symm).2
  · exact sound.alone other u another v found found' differ records same

theorem advance (found : get? tid s.inFlight = some r) {next : Recording}
    (kept : ∀ other ≠ tid, ∀ row, s.locks row = some other → locks row = some other)
    (own : next.Sound s.outcomes locks tid) (target : next.target = r.target)
    (kind : next.isFeedback = r.isFeedback) : OutcomeStore.Sound { s.put tid next with locks } := by
  refine sound.put kept own fun other u named differ records same => ?_
  rw [target] at records same
  rw [kind]
  exact ⟨sound.alone tid r other u found named (Ne.symm differ) records same,
    sound.alone other u tid r named found differ (same ▸ records) same.symm⟩

theorem leave (ids : Keyed LeadOutcome.id outcomes) (chains : ∀ target, Supersession outcomes target)
    (others : ∀ other ≠ tid, ∀ u, get? other s.inFlight = some u →
      u.Sound outcomes (Locks.release s.locks tid) other) :
    (s.leave tid outcomes).Sound := by
  refine ⟨ids, chains, fun other u named => ?_, fun other u another v named named' => ?_⟩
  · obtain ⟨differ, found⟩ := get?_erase_cases named
    exact others other differ u found
  · exact sound.alone other u another v (get?_erase_cases named).2 (get?_erase_cases named').2

theorem abort (tid : Nat) : (s.leave tid s.outcomes).Sound :=
  sound.leave sound.ids sound.chains fun other differ u found =>
    (sound.calls other u found).locks_mono fun _ held => Locks.holds_release differ held

theorem start {call : OutcomeCall} (alone : RecordsAlone s (.start tid call)) :
    (s.put tid (call.begin s.outcomes)).Sound := by
  refine sound.put (fun _ _ _ held => held) ?_ fun other u found _ records same =>
    (alone (other, u) (mem_of_get? found) records same).symm
  cases call with
  | feedback call => exact ⟨fun _ held => (nomatch held), fun _ read =>
      (nomatch read), fun _ waits => (nomatch waits)⟩
  | milestone call =>
  refine ⟨fun _ held => (nomatch held), fun history read target records => ?_, fun _ waits =>
    (nomatch waits)⟩
  cases read
  cases records
  refine ⟨fun o inside => mem_outcomeHistory.mp inside, fun o inside => ?_⟩
  obtain ⟨member, event, _⟩ := mem_outcomesOf.mp inside
  exact mem_outcomeHistory.mpr ⟨member, event⟩

section
variable (found : get? tid s.inFlight = some r)
include found

theorem lock {row : LockedRow} {next : Recording}
    (own : Locks.available s.locks tid row → next.Sound s.outcomes (Locks.acquire s.locks tid row) tid)
    (target : next.target = r.target) (kind : next.isFeedback = r.isFeedback) :
    (s.lock tid row next).Sound := by
  unfold OutcomeStore.lock
  split
  case isTrue free =>
    exact sound.advance found (fun _ _ _ held => Locks.holds_acquire free held) (own free) target kind
  · exact sound

theorem proceed : (s.proceed tid r).Sound := by
  have own := sound.calls tid r found
  cases r with
  | awaiting call =>
    refine sound.lock found
      (fun _ => ⟨fun event held => ?_, fun _ read => (nomatch read), fun _ waits =>
        (nomatch waits)⟩) rfl rfl
    cases held
    exact Locks.acquire_self
  | holding call =>
    refine sound.advance found (fun _ _ _ held => held) ⟨own.locked, fun _ read =>
      (nomatch read), fun o waits => ?_⟩ rfl rfl
    -- the ratings are read under the lock, so the new one follows the last
    obtain ⟨rating, rated, rfl⟩ := map_eq_some_iff.mp waits
    refine ⟨_, map_eq_some_iff.mpr ⟨rating, rated, rfl⟩, rfl, ?_⟩
    exact activeRating_last sound.ids sound.chains _
  | rating call outcome => exact sound
  | locking call history remaining =>
    cases remaining with
    | nil =>
      dsimp only [OutcomeStore.proceed]
      split
      · exact sound.abort tid
      case h_2 outcome done =>
      refine sound.advance found (fun _ _ _ held => held)
        ⟨fun _ held => (nomatch held), fun _ read => (nomatch read), fun o waits => ?_⟩ rfl rfl
      cases waits
      have fresh := own.fresh history rfl _ rfl
      obtain ⟨metric, last⟩ := milestoneOutcome_next sound.ids sound.chains fresh.within fresh.complete done
      exact ⟨_, rfl, metric, last⟩
    | cons id rest =>
      exact sound.lock found
        (fun _ => ⟨fun _ held => (nomatch held), own.fresh, fun _ waits => (nomatch waits)⟩) rfl rfl
  | inserting call outcome => exact sound

theorem record (waits : r.pending = some o)
    (locked : r.isFeedback → r.lockedEvent = some o.distributionEventId) :
    (s.record tid o).Sound := by
  have own := sound.calls tid r found
  obtain ⟨target, records, metric, last⟩ := own.next o waits
  subst metric
  unfold OutcomeStore.record
  split
  · split
    · exact sound.abort tid
    case isFalse new =>
    refine sound.leave (keyed_append.mpr ⟨sound.ids, fun x inside same => ?_⟩) (fun target => ?_) ?_
    · exact new (same ▸ mem_map_of_mem inside)
    · unfold Supersession
      rw [outcomesOf_append]
      split
      case isTrue same =>
        subst same
        exact Chains.linked_concat.mpr ⟨sound.chains _, last⟩
      · rw [append_nil]
        exact sound.chains target
    intro other differ u named
    have before := sound.calls other u named
    refine (before.extend fun same => ?_).locks_mono fun _ held => Locks.holds_release differ held
    -- the other one is a `create_feedback` as well, and only one of the two has the event
    have some_ : u.target ≠ none := fun none => nomatch none.symm.trans same
    have feedback := sound.alone other u tid r named found differ some_ (records.trans same.symm)
    have mine := sound.alone tid r other u found named (Ne.symm differ)
      (fun none => nomatch none.symm.trans records) (same.trans records.symm)
    have held := own.locked _ (locked mine)
    have free : u.lockedEvent ≠ some o.distributionEventId := fun theirs =>
      differ (some.inj ((before.locked _ theirs).symm.trans held))
    cases u with
    | awaiting call => exact ⟨rfl, rfl⟩
    | holding call => exact ⟨rfl, rfl⟩
    | rating call outcome =>
      obtain ⟨rating, _, same⟩ := map_eq_some_iff.mp same
      exact absurd (congrArg some (congrArg Prod.fst same)) free
    | locking call history remaining => cases feedback
    | inserting call outcome => cases feedback
  · exact sound

theorem commit : (s.commit tid r).Sound := by
  cases r with
  | rating call outcome =>
    cases outcome with
    | none => exact sound.abort tid
    | some o =>
      refine sound.record found rfl fun _ => ?_
      obtain ⟨target, records, metric, _⟩ := (sound.calls tid _ found).next o rfl
      obtain ⟨rating, _, same⟩ := map_eq_some_iff.mp records
      subst metric
      exact congrArg some (congrArg Prod.fst same)
  | inserting call o => exact sound.record found rfl nofun
  | awaiting call => exact sound
  | holding call => exact sound
  | locking call history remaining => exact sound

end

end

theorem step (s : OutcomeStore) (op : OutcomeOp) (alone : RecordsAlone s op) (sound : s.Sound) :
    (outcomeStep s op).Sound := by
  cases op with
  | start tid call =>
    dsimp only [outcomeStep]
    split
    · exact sound
    · exact sound.start alone
  | proceed tid =>
    dsimp only [outcomeStep]
    cases found : get? tid s.inFlight with
    | none => exact sound
    | some r => exact sound.proceed found
  | commit tid =>
    dsimp only [outcomeStep]
    cases found : get? tid s.inFlight with
    | none => exact sound
    | some r => exact sound.commit found
  | abort tid =>
    dsimp only [outcomeStep]
    cases get? tid s.inFlight with
    | none => exact sound
    | some r => exact sound.abort tid

end OutcomeStore.Sound

end

theorem OutcomeStore.sound_idle {outcomes : List LeadOutcome} (ids : Keyed LeadOutcome.id outcomes)
    (chains : ∀ target, Supersession outcomes target) : OutcomeStore.Sound { outcomes } :=
  ⟨ids, chains, fun _ _ found => (nomatch found), fun _ _ _ _ found => (nomatch found)⟩

/-- As long as `create_outcome` overlaps no transaction that records the same
metric of the event, at most one outcome of each metric is active and the
outcomes of each metric are one chain, in every state the transactions reach. -/
theorem outcomes_form_chains {outcomes : List LeadOutcome} (ids : Keyed LeadOutcome.id outcomes)
    (chains : ∀ target, Supersession outcomes target) {ops : List OutcomeOp}
    (alone : Meets outcomeStep RecordsAlone { outcomes } ops) (target : Nat × OutcomeMetric) :
    let after := (run outcomeStep { outcomes } ops).outcomes
    (∀ a ∈ outcomesOf after target, ∀ b ∈ outcomesOf after target,
      a.Active after → b.Active after → a = b) ∧ Supersession after target := by
  have after := run_invariant_of_meets OutcomeStore.Sound.step (OutcomeStore.sound_idle ids chains) alone
  refine ⟨fun a inA b inB activeA activeB => ?_, after.chains target⟩
  have lastA := (active_iff_last after.ids after.chains inA).mp activeA
  have lastB := (active_iff_last after.ids after.chains inB).mp activeB
  exact some.inj (lastA.symm.trans lastB)

def ratingCall (id : Uuid) (rating : QualityRating) : OutcomeCall :=
  .feedback
    { customerId := 1, userId := 9,
      payload := { distributionEventId := 5, disposition := .noContact, qualityRating := some rating },
              id, now := 3 }

def milestoneCall (id : Uuid) (kind : OutcomeKind) (supersedesOutcomeId : Option Uuid)
    (unscheduled : kind ≠ .appointmentBooked := by decide) : OutcomeCall :=
  .milestone { eventId := 5, customerId := 1, userId := 9
               payload :=
                 { kind, appointmentAt := none, supersedesOutcomeId,
                   validAppointment := (decide_eq_false unscheduled).symm }
               id, now := 3 }

/-- Two ratings wait for each other, and a correction of the second follows. -/
def queuedRatings : List OutcomeOp :=
  [.start 1 (ratingCall 11 .good), .start 2 (ratingCall 12 .poor), .proceed 1, .proceed 2,
    .proceed 1, .commit 1,
    .proceed 2, .proceed 2, .commit 2, .start 3 (milestoneCall 13 .good (some 12)), .proceed 3,
      .proceed 3, .proceed 3,
    .commit 3]

theorem outcomes_form_chains_ratings :
    Meets outcomeStep RecordsAlone { outcomes := [] } queuedRatings ∧
      (run outcomeStep { outcomes := [] } queuedRatings).outcomes.map
      (fun o => (o.id, o.supersedesOutcomeId)) = [(11, none), (12, some 11), (13, some 12)] ∧
      Supersession (run outcomeStep { outcomes := [] } queuedRatings).outcomes (5, .quality) := by
  have alone : Meets outcomeStep RecordsAlone { outcomes := [] } queuedRatings := by decide +kernel
  have chains : ∀ target, Supersession [] target := fun _ => Chains.linked_nil
  exact ⟨alone, by decide +kernel, (outcomes_form_chains (by decide) chains alone (5, .quality)).2⟩

/-- Two calls of `create_outcome` find nothing to lock and both insert. -/
def firstTwice : List OutcomeOp :=
  [.start 1 (milestoneCall 11 .positiveResponse none), .start 2
    (milestoneCall 12 .positiveResponse none), .proceed 1, .proceed 2, .commit 1, .commit 2]

/-- A correction waits for the lock of the rating that another one supersedes, and does not see what
superseded it. -/
def correctedTwice : List OutcomeOp :=
  [.start 1 (ratingCall 11 .good), .proceed 1, .proceed 1, .commit 1,
    .start 2 (milestoneCall 12 .poor (some 11)), .start 3 (milestoneCall 13 .good (some 11)),
      .proceed 2, .proceed 3,
    .proceed 2, .commit 2, .proceed 3, .proceed 3, .commit 3]

/-- Neither run leaves a single active outcome of its metric. -/
theorem outcomes_recorded_twice :
    let first := (run outcomeStep { outcomes := [] } firstTwice).outcomes
    let corrected := (run outcomeStep { outcomes := [] } correctedTwice).outcomes
    first.map (fun o => (o.id, o.metric, o.supersedesOutcomeId)) =
        [(11, .positiveResponse, none), (12, .positiveResponse, none)] ∧
      (∀ o ∈ first, o.Active first) ∧
      corrected.map (fun o => (o.id, o.metric, o.supersedesOutcomeId)) =
        [(11, .quality, none), (12, .quality, some 11), (13, .quality, some 11)] ∧
      ∀ o ∈ corrected, o.id ≠ 11 → o.Active corrected := by
  decide +kernel

end Jawnix
