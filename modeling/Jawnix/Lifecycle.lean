import Jawnix.Wallet

/-!
# The life of one Batch Request

Five tables speak about a Batch Request: its own row, its hold, its Distribution
Events, its charges and its artifact. `RequestRecord` is what they say together,
`RecordMove` lists its moves, and `Sound` is the coupling that every move keeps.
-/
namespace Jawnix

structure Order where
  status : RequestStatus
  isBilled : Bool
  leadCount : Nat

structure RequestRecord where
  order : Option Order
  hold : Option HoldStatus
  events : Nat
  charges : Nat
  filed : Bool

def LeadRequest.order (r : LeadRequest) : Order :=
  { status := r.status, isBilled := r.isBilled, leadCount := r.leadCount }

def Db.record (db : Db) (id : Uuid) : RequestRecord :=
  { order := (db.request? id).map LeadRequest.order
    hold := (db.hold? id).map BatchHold.status
    events := (db.eventsOf id).length
    charges := (chargesFor db id).length
    filed := (db.artifact? id).isSome }

namespace RequestRecord

def mark (s : RequestStatus) (r : RequestRecord) : RequestRecord :=
  { r with order := r.order.map (fun o => { o with status := s }) }

def release (billed : Bool) (r : RequestRecord) : RequestRecord :=
  if billed ∧ r.hold = some .active then { r with hold := some .released } else r

def reinstate (billed : Bool) (r : RequestRecord) : RequestRecord :=
  if billed then { r with hold := some .active } else r

/-- A capture charges once, and not at all once the hold is captured. -/
def capture (billed : Bool) (r : RequestRecord) : RequestRecord :=
  if billed ∧ r.hold ≠ some .captured then
    { r with hold := some .captured, charges := if r.charges = 0 then 1 else r.charges }
  else r

def distribute (quantity : Nat) (r : RequestRecord) : RequestRecord :=
    { r with events := r.events + quantity }
def file (r : RequestRecord) : RequestRecord := { r with filed := true }

def submit (o : Order) (r : RequestRecord) : RequestRecord :=
  { r with order := some o, hold := if o.isBilled then some .active else r.hold }

end RequestRecord

open RequestRecord

def openStatuses : List RequestStatus := [.pending, .approved, .processing, .waitingInventory]

inductive RecordMove (r : RequestRecord) : RequestRecord → Prop
  | submitted {o : Order} (absent : r.order = none) (pending : o.status = .pending)
      (positive : 0 < o.leadCount) :
      RecordMove r (submit o r)
  /-- Approval, shortage, the wait for a decision and the resumption after it. -/
  | queued {o : Order} {s : RequestStatus} (present : r.order = some o)
      (waits : o.status ∈ openStatuses) (stays : s ∈ openStatuses) : RecordMove r (mark s r)
  | retried {o : Order} (present : r.order = some o)
      (stopped : o.status = .waitingInventory ∨ o.status = .failed)
      (unfiled : r.filed = false) (held : o.isBilled → r.hold = some .active ∨ r.hold = some .released) :
      RecordMove r (mark .approved (reinstate o.isBilled r))
  | withdrawn {o : Order} {s : RequestStatus} (present : r.order = some o) (waits : o.status ∈ openStatuses)
      (closes : s = .rejected ∨ s = .canceled) : RecordMove r (release o.isBilled (mark s r))
  | generationFailed {o : Order} (present : r.order = some o) :
      RecordMove r (release o.isBilled (mark .failed r))
  | distributed {o : Order} (present : r.order = some o) (waits : o.status ∈ openStatuses)
      (none : r.events = 0)
      (held : o.isBilled → r.hold = some .active ∨ r.hold = some .captured) :
      RecordMove r (capture o.isBilled (mark .generated (file (RequestRecord.distribute o.leadCount r))))
  | replayed {o : Order} (present : r.order = some o) (committed : r.events ≠ 0)
      (held : o.isBilled → r.hold = some .active ∨ r.hold = some .captured) :
      RecordMove r (capture o.isBilled (mark .generated (file r)))
  /-- Notification sent, failed or queued again: only with an artifact. -/
  | notified {s : RequestStatus} (filed : r.filed)
      (sent : s = .delivered ∨ s = .failed ∨ s = .generated) : RecordMove r (mark s r)

/-- Where the money and the Leads of a request are. -/
inductive Phase where
  | reserved | withdrawn | distributed
  deriving DecidableEq

def Phase.statuses : Phase → List RequestStatus
  | .reserved => openStatuses
  | .withdrawn => [.rejected, .canceled, .failed]
  | .distributed => [.generated, .delivered, .failed]

def Phase.hold : Phase → HoldStatus
  | .reserved => .active
  | .withdrawn => .released
  | .distributed => .captured

def Phase.events (quantity : Nat) : Phase → Nat
  | .distributed => quantity
  | _ => 0

structure InPhase (p : Phase) (o : Order) (r : RequestRecord) : Prop where
  status : o.status ∈ p.statuses
  events : r.events = p.events o.leadCount
  filed : r.filed = decide (p = .distributed)
  hold : o.isBilled → r.hold = some p.hold
  charges : o.isBilled → r.charges = p.events 1

/-- Nothing refers to a request that does not exist, and every other one is in a phase. -/
def RequestRecord.Sound (r : RequestRecord) : Prop :=
  match r.order with
  | none => r.hold = none ∧ r.events = 0 ∧ r.charges = 0 ∧ r.filed = false
  | some o => 0 < o.leadCount ∧ ∃ p, InPhase p o r

section
variable {r : RequestRecord} {o : Order}

theorem sound_of_order (present : r.order = some o) : r.Sound ↔ 0 < o.leadCount ∧ ∃ p, InPhase p o r := by
  simp only [RequestRecord.Sound, present]

theorem InPhase.reserved_of_open {p : Phase} (inPhase : InPhase p o r)
    (waits : o.status ∈ openStatuses) : p = .reserved := by
  have status := inPhase.status
  cases p with
  | reserved => rfl
  | withdrawn => revert status waits; cases o.status <;> decide
  | distributed => revert status waits; cases o.status <;> decide

theorem InPhase.distributed_of_filed {p : Phase} (inPhase : InPhase p o r)
    (filed : r.filed) : p = .distributed := by
  have same := inPhase.filed
  rw [filed] at same
  simpa using same.symm

theorem InPhase.distributed_iff {p : Phase} (inPhase : InPhase p o r)
    (positive : 0 < o.leadCount) : p = .distributed ↔ r.events ≠ 0 := by
  rw [inPhase.events]
  cases p with
  | reserved => simp [Phase.events]
  | withdrawn => simp [Phase.events]
  | distributed => simp [Phase.events]; omega

end

section
variable {r r' : RequestRecord} {o : Order} {p : Phase} {s : RequestStatus} (billed : Bool)

theorem InPhase.mark (inPhase : InPhase p o r) (stays : s ∈ p.statuses) :
    InPhase p { o with status := s } (RequestRecord.mark s r) :=
  ⟨stays, inPhase.events, inPhase.filed, inPhase.hold, inPhase.charges⟩

theorem order_mark (present : r.order = some o) :
    (RequestRecord.mark s r).order = some { o with status := s } := by
  simp [RequestRecord.mark, present]

theorem order_release : (RequestRecord.release billed r).order = r.order := by
  unfold RequestRecord.release
  split <;> rfl

theorem order_capture : (RequestRecord.capture billed r).order = r.order := by
  unfold RequestRecord.capture
  split <;> rfl

theorem InPhase.release (inPhase : InPhase p o r) (closes : s ∈ Phase.withdrawn.statuses)
    (settled : p = .distributed → s = .failed) :
    ∃ q, InPhase q { o with status := s } (RequestRecord.release o.isBilled (RequestRecord.mark s r)) := by
  obtain ⟨status, events, filed, hold, charges⟩ := inPhase
  unfold RequestRecord.release
  cases p with
  | reserved =>
    split
    case isTrue held => exact ⟨.withdrawn, closes, events, filed, fun _ => rfl, charges⟩
    case isFalse free =>
    refine ⟨.withdrawn, closes, events, filed, fun billed => ?_, charges⟩
    exact absurd ⟨billed, hold billed⟩ free
  | withdrawn =>
    have kept : ¬(o.isBilled ∧ (RequestRecord.mark s r).hold = some .active) := by
      rintro ⟨billed, active⟩
      have released : r.hold = some .released := hold billed
      exact absurd (released.symm.trans active) (by decide)
    rw [if_neg kept]
    exact ⟨.withdrawn, closes, events, filed, hold, charges⟩
  | distributed =>
  have kept : ¬(o.isBilled ∧ (RequestRecord.mark s r).hold = some .active) := by
    rintro ⟨billed, active⟩
    have captured : r.hold = some .captured := hold billed
    exact absurd (captured.symm.trans active) (by decide)
  rw [if_neg kept]
  refine ⟨.distributed, ?_, events, filed, hold, charges⟩
  rw [settled rfl]
  exact (by decide : RequestStatus.failed ∈ Phase.distributed.statuses)

theorem InPhase.capture (events : r.events = o.leadCount) (filed : r.filed) (held : o.isBilled →
      r.hold = some .active ∧ r.charges = 0 ∨ r.hold = some .captured ∧ r.charges = 1) :
    InPhase .distributed { o with status := .generated }
      (RequestRecord.capture o.isBilled (RequestRecord.mark .generated r)) := by
  have status : RequestStatus.generated ∈ Phase.distributed.statuses := by decide
  unfold RequestRecord.capture
  split
  case isTrue uncaptured =>
    refine ⟨status, events, filed, fun _ => rfl, fun billed => ?_⟩
    rcases held billed with ⟨_, uncharged⟩ | ⟨captured, _⟩
    · exact if_pos uncharged
    · exact absurd captured uncaptured.2
  case isFalse done =>
  have captured : o.isBilled → r.hold = some .captured ∧ r.charges = 1 := by
    intro billed
    rcases held billed with ⟨active, _⟩ | settled
    · refine absurd ⟨billed, ?_⟩ done
      change r.hold ≠ some .captured
      rw [active]
      decide
    · exact settled
  exact ⟨status, events, filed, fun billed => (captured billed).1, fun billed => (captured billed).2⟩

theorem RecordMove.sound (move : RecordMove r r') (sound : r.Sound) : r'.Sound := by
  cases move with
  | @submitted o absent pending positive =>
    simp only [RequestRecord.Sound, absent] at sound
    obtain ⟨hold, events, charges, filed⟩ := sound
    refine (sound_of_order (o := o) rfl).mpr ⟨positive, .reserved, ?_, events, filed, ?_, fun _ => charges⟩
    · rw [pending]
      decide
    · intro billed
      simp [submit, billed, Phase.hold]
  | @queued o s present waits stays =>
    obtain ⟨positive, p, inPhase⟩ := (sound_of_order present).mp sound
    have reserved := inPhase.reserved_of_open waits
    subst reserved
    exact (sound_of_order (order_mark present)).mpr ⟨positive, .reserved, inPhase.mark stays⟩
  | @retried o present stopped unfiled held =>
    obtain ⟨positive, p, status, events, filed, hold, charges⟩ := (sound_of_order present).mp sound
    have same : (RequestRecord.reinstate o.isBilled r).order = some o := by
      unfold RequestRecord.reinstate
      split <;> exact present
    have uncommitted : ∀ n, p.events n = 0 := by
      intro n
      cases p with
      | distributed => cases filed.symm.trans unfiled
      | reserved => rfl
      | withdrawn => rfl
    refine (sound_of_order (order_mark same)).mpr ⟨positive, .reserved, ?_⟩
    unfold RequestRecord.reinstate
    rw [uncommitted] at events
    split
    case isTrue billed =>
      have uncharged := charges billed
      rw [uncommitted] at uncharged
      exact ⟨by simp [Phase.statuses, openStatuses], events, unfiled, fun _ => rfl, fun _ => uncharged⟩
    case isFalse free =>
    exact ⟨by simp [Phase.statuses, openStatuses], events, unfiled,
      fun billed => absurd billed free, fun billed => absurd billed free⟩
  | @withdrawn o s present waits closes =>
    obtain ⟨positive, p, inPhase⟩ := (sound_of_order present).mp sound
    have reserved := inPhase.reserved_of_open waits
    subst reserved
    have terminal : s ∈ Phase.withdrawn.statuses := by
      rcases closes with rfl | rfl <;> decide
    have kept : (release o.isBilled (mark s r)).order = some { o with status := s } :=
      (order_release _).trans (order_mark present)
    exact (sound_of_order kept).mpr ⟨positive, inPhase.release terminal (by simp)⟩
  | @generationFailed o present =>
    obtain ⟨positive, p, inPhase⟩ := (sound_of_order present).mp sound
    have kept : (release o.isBilled (mark .failed r)).order = some { o with status := .failed } :=
      (order_release _).trans (order_mark present)
    exact (sound_of_order kept).mpr ⟨positive, inPhase.release (by decide) fun _ => rfl⟩
  | @distributed o present waits none held =>
    obtain ⟨positive, p, inPhase⟩ := (sound_of_order present).mp sound
    have reserved := inPhase.reserved_of_open waits
    subst reserved
    have kept :
      (capture o.isBilled (mark .generated (file (RequestRecord.distribute o.leadCount r)))).order =
        some { o with status := .generated } := (order_capture _).trans (order_mark present)
    refine (sound_of_order kept).mpr ⟨positive, .distributed, InPhase.capture ?_ rfl ?_⟩
    · change r.events + o.leadCount = o.leadCount
      rw [none, Nat.zero_add]
    · exact fun billed => .inl ⟨inPhase.hold billed, inPhase.charges billed⟩
  | @replayed o present committed held =>
    obtain ⟨positive, p, inPhase⟩ := (sound_of_order present).mp sound
    have distributed := (inPhase.distributed_iff positive).mpr committed
    subst distributed
    have kept : (capture o.isBilled (mark .generated (file r))).order =
      some { o with status := .generated } :=
      (order_capture _).trans (order_mark present)
    refine (sound_of_order kept).mpr ⟨positive, .distributed, InPhase.capture inPhase.events rfl ?_⟩
    exact fun billed => .inr ⟨inPhase.hold billed, inPhase.charges billed⟩
  | @notified s filed sent =>
  cases present : r.order with
  | none =>
    simp only [RequestRecord.Sound, present] at sound
    rw [filed] at sound
    cases sound.2.2.2
  | some o =>
  obtain ⟨positive, p, inPhase⟩ := (sound_of_order present).mp sound
  have distributed := inPhase.distributed_of_filed filed
  subst distributed
  have stays : s ∈ Phase.distributed.statuses := by
    rcases sent with rfl | rfl | rfl <;> decide
  exact (sound_of_order (order_mark present)).mpr ⟨positive, .distributed, inPhase.mark stays⟩

theorem filed_release : (RequestRecord.release billed r).filed = r.filed := by
  unfold RequestRecord.release
  split <;> rfl

theorem filed_reinstate : (RequestRecord.reinstate billed r).filed = r.filed := by
  unfold RequestRecord.reinstate
  split <;> rfl

theorem filed_capture : (RequestRecord.capture billed r).filed = r.filed := by
  unfold RequestRecord.capture
  split <;> rfl

theorem RecordMove.filed (move : RecordMove r r') (filed : r.filed) : r'.filed := by
  cases move with
  | submitted _ _ _ => exact filed
  | queued _ _ _ => exact filed
  | retried _ _ _ _ => exact (filed_reinstate _).trans filed
  | withdrawn _ _ _ => exact (filed_release _).trans filed
  | generationFailed _ => exact (filed_release _).trans filed
  | distributed _ _ _ _ => exact filed_capture _
  | replayed _ _ _ => exact filed_capture _
  | notified _ _ => exact filed

theorem RecordMove.terms (move : RecordMove r r') (present : r.order = some o) :
    ∃ status, r'.order = some { o with status } := by
  cases move with
  | submitted absent => cases absent.symm.trans present
  | queued | notified => exact ⟨_, order_mark present⟩
  | retried =>
    refine ⟨_, order_mark ?_⟩
    unfold RequestRecord.reinstate
    split <;> exact present
  | withdrawn | generationFailed => exact ⟨_, (order_release _).trans (order_mark present)⟩
  | distributed | replayed => exact ⟨_, (order_capture _).trans (order_mark present)⟩

end

end Jawnix
