import Jawnix.AllocationOutcome
import Jawnix.Rotation

/-!
# What the Inventory Conflict gate admits

A turn of the rotation may take Leads that an older waiting request could have had
only under an administrator's confirmation, which the turn uses up. The gate returns
at the first older request that shares a Lead, so one confirmation lets a turn pass
every older request.
-/
namespace Jawnix

def ConflictStatus.Terminal (s : ConflictStatus) : Prop := s = .denied ∨ s = .consumed
  deriving Decidable

inductive ConflictsChange (table : List InventoryConflict) : List InventoryConflict → Prop
  | unchanged : ConflictsChange table table
  | opened {conflict : InventoryConflict} (absent : lookup InventoryConflict.id conflict.id table = none) :
      ConflictsChange table (table ++ [conflict])
  | moved {conflict : InventoryConflict} {f : InventoryConflict → InventoryConflict}
      (stored : conflict ∈ table)
      (live : ¬conflict.status.Terminal) (same : ∀ c, (f c).id = c.id) :
      ConflictsChange table (adjust InventoryConflict.id conflict.id f table)

def KeepsDecisions (table table' : List InventoryConflict) : Prop :=
  Keyed InventoryConflict.id table → Keyed InventoryConflict.id table' ∧
    ∀ c ∈ table, c.status.Terminal → c ∈ table'

theorem KeepsDecisions.refl (table : List InventoryConflict) : KeepsDecisions table table :=
  fun keyed => ⟨keyed, fun _ member _ => member⟩

theorem KeepsDecisions.trans {a b c : List InventoryConflict} (first : KeepsDecisions a b)
    (second : KeepsDecisions b c) : KeepsDecisions a c := by
  intro keyed
  obtain ⟨keyedB, keptB⟩ := first keyed
  obtain ⟨keyedC, keptC⟩ := second keyedB
  exact ⟨keyedC, fun row member terminal => keptC row (keptB row member terminal) terminal⟩

theorem ConflictsChange.keepsDecisions {table table' : List InventoryConflict}
    (change : ConflictsChange table table') : KeepsDecisions table table' := by
  intro keyed
  cases change with
  | unchanged => exact ⟨keyed, fun _ member _ => member⟩
  | opened absent =>
    exact ⟨keyed_append.mpr ⟨keyed, lookup_none.mp absent⟩,
      fun _ member _ => mem_append_left _ member⟩
  | @moved conflict f stored live same =>
  refine ⟨keyed_adjust (fun c _ => same c) keyed, fun c member terminal => ?_⟩
  -- the row that moved is not terminal, so it is another one
  have other : c.id ≠ conflict.id := by
    intro sameId
    have equal := eq_of_mem_of_key keyed member stored sameId
    exact live (equal ▸ terminal)
  exact mem_adjust.mpr (.inr ⟨member, other⟩)

variable (platform : Platform) (env : RotationEnv) (db : Db) (request : LeadRequest)

def olderIds (older : LeadRequest) (customer : Customer) : List Nat :=
  eligibleIds platform db older customer (env.olderAt request.id older.id)

inductive GateOutcome (platform : Platform) (env : RotationEnv) (db : Db) (request : LeadRequest)
    (ids : List Nat)
    (candidates : List LeadRequest) : Db → Bool → Prop
  | clear (disjoint : ∀ older ∈ candidates, statesOverlap older request → ∀ customer,
      db.customer? older.customerId = some customer →
      sharedIds ids (olderIds platform env db request older customer) = []) :
      GateOutcome platform env db request ids candidates db false
  | confirmed {older : LeadRequest} {customer : Customer} {conflict : InventoryConflict}
      (member : older ∈ candidates)
      (overlap : statesOverlap older request) (owner : db.customer? older.customerId = some customer)
      (shares : sharedIds ids (olderIds platform env db request older customer) ≠ [])
      (found : db.conflict? older.id request.id (platform.checksum
        (inventorySnapshot older request (olderIds platform env db request older customer) ids)) =
        some conflict)
      (status : conflict.status = .confirmed) :
      GateOutcome platform env db request ids candidates
      (db.setConflict conflict.id (consumed env.consumedAt)) false
  | blocked {opened : Db}
      (noted : opened = db ∨ ∃ snapshot, openConflict platform env db snapshot = .ok opened) :
      GateOutcome platform env db request ids candidates (awaitDecision env opened request ids.length) true

section
variable {platform : Platform} {env : RotationEnv} {db gated : Db} {request : LeadRequest}
  {customer : Customer}
  {ids : List Nat} {candidates : List LeadRequest} {blocks : Bool}

theorem GateOutcome.skip {older : LeadRequest}
    (disjoint : statesOverlap older request → ∀ customer, db.customer? older.customerId = some customer →
      sharedIds ids (olderIds platform env db request older customer) = [])
    (outcome : GateOutcome platform env db request ids candidates gated blocks) :
    GateOutcome platform env db request ids (older :: candidates) gated blocks := by
  cases outcome with
  | clear rest => exact .clear (forall_mem_cons.mpr ⟨disjoint, rest⟩)
  | confirmed member overlap owner shares found status =>
    exact .confirmed (mem_cons_of_mem _ member) overlap owner shares found status
  | blocked noted => exact .blocked noted

theorem conflictGate_outcome
    (done : conflictGate platform env db request ids candidates = .ok (gated, blocks)) :
    GateOutcome platform env db request ids candidates gated blocks := by
  induction candidates with
  | nil =>
    cases done
    exact .clear (forall_mem_nil _)
  | cons older rest ih =>
  unfold conflictGate at done
  split at done
  case isTrue apart =>
    exact (ih done).skip fun overlap => by simp [apart] at overlap
  case isFalse overlapping =>
  have overlap : statesOverlap older request := by simpa using overlapping
  split at done
  · cases done
  case h_2 customer owner =>
  simp only at done
  split at done
  case isTrue nothing =>
    apply (ih done).skip
    intro _ c ownerC
    rw [owner] at ownerC
    cases ownerC
    exact nothing
  case isFalse shares =>
  split at done
  case h_1 unseen =>
    obtain ⟨opened, opens, last⟩ := bind_ok done
    cases last
    exact .blocked (.inr ⟨_, opens⟩)
  case h_2 conflict found =>
  split at done
  case isTrue status =>
    cases done
    exact .confirmed mem_cons_self overlap owner shares found status
  case isFalse =>
  cases done
  exact .blocked (.inl rfl)

theorem inventoryConflictBlocks_outcome
    (done : inventoryConflictBlocks platform env db request customer = .ok (gated, blocks)) :
    ((eligibleIds platform db request customer (env.gateAt request.id)).length < request.leadCount ∧
      gated = db ∧ blocks = false) ∨
    (request.leadCount ≤ (eligibleIds platform db request customer (env.gateAt request.id)).length ∧
    GateOutcome platform env db request
    (eligibleIds platform db request customer (env.gateAt request.id))
    (olderRequests env db request) gated blocks) := by
  rw [inventoryConflictBlocks] at done
  split at done
  case isTrue short =>
    cases done
    exact .inl ⟨short, rfl, rfl⟩
  case isFalse enough => exact .inr ⟨Nat.not_lt.mp enough, conflictGate_outcome done⟩

theorem mem_olderRequests {older : LeadRequest} : older ∈ olderRequests env db request ↔
    older ∈ db.requests ∧ older.status = .waitingInventory ∧ older.id ≠ request.id ∧
    older.createdAt < request.createdAt ∧ env.lockedOlder request.id older.id = false := by
  simp [olderRequests, and_assoc]

theorem openConflict_change {opened : Db} {snapshot : InventorySnapshot}
    (done : openConflict platform env db snapshot = .ok opened) :
    (∃ conflicts jobs jobSeq, opened = { db with conflicts, jobs, jobSeq }) ∧
      ConflictsChange db.conflicts opened.conflicts := by
  rw [openConflict] at done
  split at done
  · cases done
  case h_2 absent =>
  cases done
  exact ⟨⟨_, _, _, rfl⟩, .opened absent⟩

theorem awaitDecision_parked (env : RotationEnv) (db : Db) (request : LeadRequest) (available : Nat) :
    (db.setRequest request.id (awaiting available)).OnlyJobs (awaitDecision env db request available) :=
  (enqueueMilestoneEmail_onlyJobs _ _ _).trans (enqueueJob_onlyJobs _ _ _ _ _)

section
variable (outcome : GateOutcome platform env db request ids candidates gated blocks)
include outcome

theorem GateOutcome.change :
    (∃ requests conflicts jobs jobSeq, gated = { db with requests, conflicts, jobs, jobSeq }) ∧
      ConflictsChange db.conflicts gated.conflicts := by
  cases outcome with
  | clear _ => exact ⟨⟨_, _, _, _, rfl⟩, .unchanged⟩
  | confirmed _ _ _ _ found status =>
    have live : ¬ConflictStatus.confirmed.Terminal := by decide
    exact ⟨⟨_, _, _, _, rfl⟩, .moved (lookup_some found).1 (status ▸ live) fun _ => rfl⟩
  | @blocked opened noted =>
  obtain ⟨jobs, jobSeq, parked⟩ := awaitDecision_parked env opened request ids.length
  rw [parked]
  rcases noted with rfl | ⟨snapshot, opens⟩
  · exact ⟨⟨_, _, _, _, rfl⟩, .unchanged⟩
  obtain ⟨⟨conflicts, _, _, frame⟩, change⟩ := openConflict_change opens
  rw [frame] at change ⊢
  exact ⟨⟨_, _, _, _, rfl⟩, change⟩

theorem GateOutcome.requests : gated.requests = db.requests ∨
    blocks ∧ gated.requests = adjust LeadRequest.id request.id (awaiting ids.length) db.requests := by
  cases outcome with
  | clear _ => exact .inl rfl
  | confirmed _ _ _ _ _ _ => exact .inl rfl
  | @blocked opened noted =>
  obtain ⟨jobs, jobSeq, parked⟩ := awaitDecision_parked env opened request ids.length
  rw [parked]
  rcases noted with rfl | ⟨snapshot, opens⟩
  · exact .inr ⟨rfl, rfl⟩
  obtain ⟨⟨conflicts, _, _, frame⟩, _⟩ := openConflict_change opens
  rw [frame]
  exact .inr ⟨rfl, rfl⟩

end

end

section
variable {platform : Platform} {env : RotationEnv} {db after : Db} {requestId : Uuid} {result : TurnResult}

theorem attempt_cases {request : LeadRequest} {customer : Customer}
    (done : attempt platform env db request customer = .ok (after, result)) :
    ∃ allocated outcome, allocateRequest platform (env.allocation request.id)
    (resumeWaiting db request) request.id =
    .ok (allocated, outcome) ∧ result = .attempted outcome.status ∧
    (after = allocated ∨ ∃ at_, after = markFulfilled allocated customer at_) := by
  obtain ⟨⟨allocated, outcome⟩, allocates, rest⟩ := bind_ok done
  refine ⟨allocated, outcome, allocates, ?_⟩
  simp only at rest
  split at rest
  · cases rest
    exact ⟨rfl, .inr ⟨_, rfl⟩⟩
  · cases rest
    exact ⟨rfl, .inl rfl⟩

theorem rotationTurn_cases (done : rotationTurn platform env db requestId = .ok (after, result)) :
    ∃ request customer gated blocks, db.request? requestId = some request ∧
    db.customer? request.customerId = some customer ∧
    inventoryConflictBlocks platform env db request customer = .ok (gated, blocks) ∧
    (blocks ∧ after = gated ∧ result = .blocked ∨
    blocks = false ∧ attempt platform env gated request customer = .ok (after, result)) := by
  unfold rotationTurn at done
  split at done
  · cases done
  case h_2 request found =>
  split at done
  · cases done
  case h_2 customer owner =>
  obtain ⟨⟨gated, blocks⟩, gates, rest⟩ := bind_ok done
  refine ⟨request, customer, gated, blocks, found, owner, gates, ?_⟩
  simp only at rest
  split at rest
  case isTrue blocked =>
    cases rest
    exact .inl ⟨blocked, rfl, rfl⟩
  case isFalse passed => exact .inr ⟨by simpa using passed, rest⟩

theorem resumeWaiting_requests (db : Db) (request : LeadRequest) :
    resumeWaiting db request = db ∨ resumeWaiting db request = db.setRequest request.id resumed := by
  unfold resumeWaiting
  split
  · exact .inr rfl
  · exact .inl rfl

theorem markFulfilled_frame (db : Db) (customer : Customer) (at_ : Instant) :
    ∃ customers agencies, markFulfilled db customer at_ = { db with customers, agencies } := by
  unfold markFulfilled
  simp only
  split <;> exact ⟨_, _, rfl⟩

structure ConflictSchema (db : Db) : Prop where
  requests : Keyed LeadRequest.id db.requests
  conflicts : Keyed InventoryConflict.id db.conflicts

theorem keyed_progress {rows : List LeadRequest} {id : Uuid} {f : LeadRequest → LeadRequest}
    (progress : ∀ r : LeadRequest, r.Progresses (f r)) (keyed : Keyed LeadRequest.id rows) :
    Keyed LeadRequest.id (adjust LeadRequest.id id f rows) := by
  apply keyed_adjust _ keyed
  intro r _
  obtain ⟨_, _, _, _, _, _, _, same⟩ := progress r
  rw [same]

theorem attempt_keeps {request : LeadRequest} {customer : Customer}
    (done : attempt platform env db request customer = .ok (after, result)) :
    after.conflicts = db.conflicts ∧
    (Keyed LeadRequest.id db.requests → Keyed LeadRequest.id after.requests) := by
  obtain ⟨allocated, outcome, allocates, _, served⟩ := attempt_cases done
  obtain ⟨r, c, _, _, allocation⟩ := allocateRequest_outcome allocates
  obtain ⟨⟨_, _, _, _, _, _, _, _, _, _, _, tables⟩, f, progress, requests⟩ := allocation.frame
  have kept : allocated.conflicts = db.conflicts ∧
      (Keyed LeadRequest.id db.requests → Keyed LeadRequest.id allocated.requests) := by
    constructor
    · rw [tables]
      rcases resumeWaiting_requests db request with same | resumes
      · rw [same]
      rw [resumes]
      rfl
    intro keyed
    rw [requests]
    apply keyed_progress progress
    rcases resumeWaiting_requests db request with same | resumes
    · rwa [same]
    rw [resumes]
    exact keyed_progress (fun r => ⟨_, _, _, _, _, _, _, rfl⟩) keyed
  rcases served with rfl | ⟨at_, rfl⟩
  · exact kept
  obtain ⟨_, _, frame⟩ := markFulfilled_frame allocated customer at_
  rw [frame]
  exact kept

section
variable (done : rotationTurn platform env db requestId = .ok (after, result))
include done

theorem rotationTurn_conflicts : ConflictsChange db.conflicts after.conflicts := by
  obtain ⟨request, customer, gated, blocks, _, _, gates, ends⟩ := rotationTurn_cases done
  have change : ConflictsChange db.conflicts gated.conflicts := by
    rcases inventoryConflictBlocks_outcome gates with ⟨_, rfl, _⟩ | ⟨_, outcome⟩
    · exact .unchanged
    · exact outcome.change.2
  rcases ends with ⟨_, rfl, _⟩ | ⟨_, attempts⟩
  · exact change
  rw [(attempt_keeps attempts).1]
  exact change

theorem rotationTurn_schema (schema : ConflictSchema db) : ConflictSchema after := by
  refine ⟨?_, ((rotationTurn_conflicts done).keepsDecisions schema.conflicts).1⟩
  obtain ⟨request, customer, gated, blocks, _, _, gates, ends⟩ := rotationTurn_cases done
  have keyed : Keyed LeadRequest.id gated.requests := by
    rcases inventoryConflictBlocks_outcome gates with ⟨_, rfl, _⟩ | ⟨_, outcome⟩
    · exact schema.requests
    rcases outcome.requests with same | ⟨_, parked⟩
    · rw [same]
      exact schema.requests
    · rw [parked]
      exact keyed_progress (fun r => ⟨_, _, _, _, _, _, _, rfl⟩) schema.requests
  rcases ends with ⟨_, rfl, _⟩ | ⟨_, attempts⟩
  · exact keyed
  · exact (attempt_keeps attempts).2 keyed

end

end

/-- An older waiting request that could have had a Lead which is open to `request`. -/
structure Competes (customer : Customer)
    (older : LeadRequest) (olderCustomer : Customer) : Prop where
  stored : older ∈ db.requests
  waits : older.status = .waitingInventory
  other : older.id ≠ request.id
  earlier : older.createdAt < request.createdAt
  owner : db.customer? older.customerId = some olderCustomer
  shares : sharedIds (eligibleIds platform db request customer (env.gateAt request.id))
    (olderIds platform env db request older olderCustomer) ≠ []

/-- An administrator confirmed this conflict for the inventory as it is, and the turn uses the
confirmation up. -/
def Authorised (after : Db) (request : LeadRequest) (customer : Customer)
    (older : LeadRequest) (olderCustomer : Customer) : Prop :=
  ∃ conflict, db.conflict? older.id request.id (platform.checksum (inventorySnapshot older request
      (olderIds platform env db request older olderCustomer)
      (eligibleIds platform db request customer (env.gateAt request.id)))) = some conflict ∧
    conflict.status = .confirmed ∧ ∃ spent ∈ after.conflicts, spent.id = conflict.id ∧
      spent.status = .consumed

/-- The gate sees `older`: the whole quantity is there, `older` is not locked elsewhere, and the
requested states overlap. -/
structure InSight (customer : Customer) (older : LeadRequest) : Prop where
  enough : request.leadCount ≤ (eligibleIds platform db request customer (env.gateAt request.id)).length
  unlocked : env.lockedOlder request.id older.id = false
  overlap : statesOverlap older request

section
variable {platform : Platform} {env : RotationEnv} {db gated after : Db} {request older : LeadRequest}
  {customer olderCustomer : Customer}

theorem not_authorised_of_conflicts_eq (schema : ConflictSchema db) (kept : after.conflicts = db.conflicts) :
    ¬Authorised platform env db after request customer older olderCustomer := by
  rintro ⟨conflict, found, confirmed, spent, member, sameId, status⟩
  rw [kept] at member
  have equal := eq_of_mem_of_key schema.conflicts member (lookup_some found).1 sameId
  rw [equal, confirmed] at status
  cases status

theorem authorised_conflict {conflict : InventoryConflict} (schema : ConflictSchema db)
    (stored : conflict ∈ db.conflicts)
    (kept : after.conflicts = (db.setConflict conflict.id (consumed env.consumedAt)).conflicts)
    (authorised : Authorised platform env db after request customer older olderCustomer) :
    conflict.olderRequestId = older.id := by
  obtain ⟨own, found, confirmed, spent, member, sameId, status⟩ := authorised
  obtain ⟨inTable, scope⟩ := lookup_some found
  have ownOlder : own.olderRequestId = older.id := congrArg Prod.fst scope
  rw [kept] at member
  rcases mem_adjust.mp member with ⟨row, _, here, rfl⟩ | ⟨untouched, _⟩
  · have same : conflict = own := eq_of_mem_of_key schema.conflicts stored inTable (here.symm.trans sameId)
    rw [same, ownOlder]
  have same := eq_of_mem_of_key schema.conflicts untouched inTable sameId
  rw [same, confirmed] at status
  cases status

theorem Competes.visited (competes : Competes platform env db request customer older olderCustomer)
    (inSight : InSight platform env db request customer older) : older ∈ olderRequests env db request :=
  mem_olderRequests.mpr
    ⟨competes.stored, competes.waits, competes.other, competes.earlier, inSight.unlocked⟩

/-- A gate that lets the turn through saw no competitor, or stopped at one whose confirmation it
consumed. -/
theorem passed_gate (gates : inventoryConflictBlocks platform env db request customer = .ok (gated, false)) :
    (gated.conflicts = db.conflicts ∧ ∀ older c, Competes platform env db request customer older c →
      ¬InSight platform env db request customer older) ∨
    ∃ older c conflict, Competes platform env db request customer older c ∧
    InSight platform env db request customer older ∧
    db.conflict? older.id request.id (platform.checksum (inventorySnapshot older request
    (olderIds platform env db request older c)
    (eligibleIds platform db request customer (env.gateAt request.id)))) = some conflict ∧
    conflict.status = .confirmed ∧ gated = db.setConflict conflict.id (consumed env.consumedAt) := by
  rcases inventoryConflictBlocks_outcome gates with ⟨short, rfl, _⟩ | ⟨enough, outcome⟩
  · exact .inl ⟨rfl, fun older c _ inSight => absurd inSight.enough (Nat.not_le.mpr short)⟩
  cases outcome with
  | clear disjoint =>
    refine .inl ⟨rfl, fun older c competes inSight => ?_⟩
    exact competes.shares (disjoint older (competes.visited inSight) inSight.overlap c competes.owner)
  | @confirmed older c conflict member overlap owner shares found status =>
    obtain ⟨stored, waits, other, earlier, unlocked⟩ := mem_olderRequests.mp member
    exact .inr ⟨older, c, conflict, ⟨stored, waits, other, earlier, owner, shares⟩,
      ⟨enough, unlocked, overlap⟩, found, status, rfl⟩

/-- A turn let through is authorised against every competitor exactly when there is at most one and
the gate saw it. -/
theorem passed_authorised_iff (schema : ConflictSchema db)
    (gates : inventoryConflictBlocks platform env db request customer = .ok (gated, false))
    (kept : after.conflicts = gated.conflicts) :
    (∀ older c, Competes platform env db request customer older c →
      Authorised platform env db after request customer older c) ↔
    ∀ older c, Competes platform env db request customer older c →
    InSight platform env db request customer older ∧
    ∀ other d, Competes platform env db request customer other d → other = older := by
  rcases passed_gate gates with ⟨calm, unseen⟩ | ⟨first, c₁, conflict, competes₁, inSight₁, found,
    status, rfl⟩
  · constructor
    · intro authorised older c competes
      exact absurd (authorised older c competes) (not_authorised_of_conflicts_eq schema (kept.trans calm))
    · intro condition older c competes
      exact absurd (condition older c competes).1 (unseen older c competes)
  obtain ⟨stored, scope⟩ := lookup_some found
  constructor
  · intro authorised
    have firstOnly : ∀ older c, Competes platform env db request customer older c → older = first := by
      intro older c competes
      have named := authorised_conflict schema stored kept (authorised older c competes)
      have firstNamed : conflict.olderRequestId = first.id := congrArg Prod.fst scope
      exact eq_of_mem_of_key schema.requests competes.stored competes₁.stored (named.symm.trans firstNamed)
    intro older c competes
    rw [firstOnly older c competes]
    exact ⟨inSight₁, firstOnly⟩
  intro condition older c competes
  have same : older = first := (condition first c₁ competes₁).2 older c competes
  subst same
  have sameCustomer : c = c₁ := some.inj (competes.owner.symm.trans competes₁.owner)
  subst sameCustomer
  refine ⟨conflict, found, status, consumed env.consumedAt conflict, ?_, rfl, rfl⟩
  rw [kept]
  exact mem_adjust.mpr (.inl ⟨conflict, stored, rfl, rfl⟩)

end

section
variable {platform : Platform} {env : RotationEnv} {db after : Db} {counts counts' : RotationCounts}
  {turns before rest : List Uuid}

/-- What the allocations of a pass keep, its marks of fulfillment, and every change of requests,
conflicts and jobs, the pass keeps. -/
theorem fulfillRoundRobin_induct {P : Db → Prop}
    (tables : ∀ {db : Db} {requests jobs jobSeq conflicts}, P db →
      P { db with requests, jobs, jobSeq, conflicts })
    (fulfills : ∀ {db : Db} {customer : Customer} {at_ : Instant}, P db →
      P (markFulfilled db customer at_))
    (allocates : ∀ {db after : Db} {id : Uuid} {result : AllocationResult}, P db →
      allocateRequest platform (env.allocation id) db id = .ok (after, result) → P after)
    (holds : P db) (done : fulfillRoundRobin platform env db = .ok (after, counts)) : P after := by
  have attempts :
    ∀ {db after : Db} {request : LeadRequest} {customer : Customer} {result : TurnResult}, P db →
      attempt platform env db request customer = .ok (after, result) → P after := by
    intro db after request customer result holds done
    obtain ⟨allocated, _, runs, _, served⟩ := attempt_cases done
    have resumes : P (resumeWaiting db request) := by
      rcases resumeWaiting_requests db request with same | moved
      · rwa [same]
      rw [moved]
      exact tables holds
    rcases served with rfl | ⟨at_, rfl⟩
    · exact allocates resumes runs
    · exact fulfills (allocates resumes runs)
  have turn : ∀ {db after : Db} {requestId : Uuid} {result : TurnResult}, P db →
      rotationTurn platform env db requestId = .ok (after, result) → P after := by
    intro db after requestId result holds done
    obtain ⟨request, customer, gated, blocks, _, _, gates, ends⟩ := rotationTurn_cases done
    have gate : P gated := by
      rcases inventoryConflictBlocks_outcome gates with ⟨_, rfl, _⟩ | ⟨_, outcome⟩
      · exact holds
      obtain ⟨⟨_, _, _, _, rfl⟩, _⟩ := outcome.change
      exact tables holds
    rcases ends with ⟨_, rfl, _⟩ | ⟨_, runs⟩
    · exact gate
    · exact attempts gate runs
  have rotates : ∀ {turns : List Uuid} {db after : Db} {counts counts' : RotationCounts}, P db →
      rotate platform env db counts turns = .ok (after, counts') → P after := by
    intro turns
    induction turns with
    | nil =>
      intro db after counts counts' holds done
      cases done
      exact holds
    | cons requestId rest ih =>
      intro db after counts counts' holds done
      obtain ⟨⟨served, result⟩, here, later⟩ := bind_ok done
      exact ih (turn holds here) later
  obtain ⟨⟨served, visits⟩, passes, rest⟩ := bind_ok done
  have pass := rotates holds passes
  simp only at rest
  split at rest
  · cases rest
    exact tables pass
  · cases rest
    exact pass

section
variable (done : rotate platform env db counts turns = .ok (after, counts'))
include done

theorem rotate_schema (schema : ConflictSchema db) : ConflictSchema after := by
  induction turns generalizing db counts with
  | nil =>
    cases done
    exact schema
  | cons requestId rest ih =>
    obtain ⟨⟨served, result⟩, turn, later⟩ := bind_ok done
    exact ih later (rotationTurn_schema turn schema)

theorem rotate_keepsDecisions : KeepsDecisions db.conflicts after.conflicts := by
  induction turns generalizing db counts with
  | nil =>
    cases done
    exact .refl _
  | cons requestId rest ih =>
    obtain ⟨⟨served, result⟩, turn, later⟩ := bind_ok done
    exact (rotationTurn_conflicts turn).keepsDecisions.trans (ih later)

end

/-- One turn of a pass: the state the earlier turns left, and the state it leaves itself. -/
structure TurnTaken (platform : Platform) (env : RotationEnv) (db : Db) (before : List Uuid)
    (requestId : Uuid)
    (current after : Db) (request : LeadRequest) (customer : Customer) : Prop where
  reached : ∃ counts, rotate platform env db {} before = .ok (current, counts)
  turn : ∃ result, rotationTurn platform env current requestId = .ok (after, result)
  found : current.request? requestId = some request
  owner : current.customer? request.customerId = some customer

theorem rotate_split {requestId : Uuid}
    (done : rotate platform env db counts (before ++ requestId :: rest) = .ok (after, counts')) :
    ∃ current visits, rotate platform env db counts before = .ok (current, visits) ∧
    ∃ served result, rotationTurn platform env current requestId = .ok (served, result) := by
  induction before generalizing db counts with
  | nil =>
    obtain ⟨⟨served, result⟩, turn, _⟩ := bind_ok done
    exact ⟨db, counts, rfl, served, result, turn⟩
  | cons first later ih =>
    obtain ⟨⟨served, result⟩, turn, rotates⟩ := bind_ok done
    obtain ⟨current, visits, reached, taken⟩ := ih rotates
    refine ⟨current, visits, ?_, taken⟩
    rw [rotate, turn]
    exact reached

theorem fulfillRoundRobin_turn {requestId : Uuid}
    (pass : fulfillRoundRobin platform env db = .ok (after, counts))
    (turns : rotationTurns env db = before ++ requestId :: rest) :
    ∃ current served request customer,
    TurnTaken platform env db before requestId current served request customer := by
  obtain ⟨⟨_, _⟩, rotates, _⟩ := bind_ok pass
  rw [turns] at rotates
  obtain ⟨current, visits, reached, served, result, turn⟩ := rotate_split rotates
  obtain ⟨request, customer, _, _, found, owner, _⟩ := rotationTurn_cases turn
  exact ⟨current, served, request, customer, ⟨visits, reached⟩, ⟨result, turn⟩, found, owner⟩

theorem decideInventoryConflict_change {conflictId : Uuid} {action : ConflictDecision}
    {actorId reason : String} {now : Instant}
    (done : decideInventoryConflict db conflictId action actorId reason now = .ok after) :
    ConflictsChange db.conflicts after.conflicts := by
  unfold decideInventoryConflict at done
  split at done
  · cases done
  case h_2 conflict found =>
  obtain ⟨stored, named⟩ := lookup_some found
  split at done
  · cases done
    exact .unchanged
  case isFalse pending =>
  have live : ¬conflict.status.Terminal := by
    rw [not_not.mp pending]
    decide
  subst named
  cases done
  cases action with
  | confirm => exact .moved stored live fun _ => rfl
  | deny => exact .moved stored live fun _ => rfl

end

inductive ConflictOp where
  | decide (conflictId : Uuid) (action : ConflictDecision) (actorId reason : String) (now : Instant)
  | pass (platform : Platform) (env : RotationEnv)
  | elsewhere (tables : Db)

def conflictStep : ConflictOp → Db
  | .decide conflictId action actorId reason now =>
    commit db (decideInventoryConflict db conflictId action actorId reason now)
  | .pass platform env => commit db ((fulfillRoundRobin platform env db).map Prod.fst)
  | .elsewhere tables => { tables with conflicts := db.conflicts }

theorem conflictStep_keepsDecisions (op : ConflictOp) :
    KeepsDecisions db.conflicts (conflictStep db op).conflicts := by
  cases op with
  | decide conflictId action actorId reason now =>
    unfold conflictStep
    apply commit_cases (P := fun t : Db => KeepsDecisions db.conflicts t.conflicts) (.refl _)
    intro after done
    exact (decideInventoryConflict_change done).keepsDecisions
  | pass platform env =>
    unfold conflictStep
    apply commit_cases (P := fun t : Db => KeepsDecisions db.conflicts t.conflicts) (.refl _)
    intro after done
    obtain ⟨counts, passes⟩ := map_fst_ok done
    obtain ⟨⟨served, visits⟩, rotates, rest⟩ := bind_ok passes
    have kept := rotate_keepsDecisions rotates
    simp only at rest
    split at rest
    · cases rest
      exact kept
    · cases rest
      exact kept
  | elsewhere tables => exact .refl _

theorem rotationTurn_passed {platform : Platform} {env : RotationEnv} {db after : Db}
    {request : LeadRequest} {customer : Customer} {requestId : Uuid} {result : TurnResult}
    (turn : rotationTurn platform env db requestId = .ok (after, result))
    (found : db.request? requestId = some request)
    (owner : db.customer? request.customerId = some customer)
    (uncommitted : db.eventsOf requestId = []) (allocated : after.eventsOf requestId ≠ []) :
    ∃ gated, inventoryConflictBlocks platform env db request customer = .ok (gated, false) ∧
    after.conflicts = gated.conflicts := by
  obtain ⟨r, c, gated, blocks, foundR, ownerC, gates, ends⟩ := rotationTurn_cases turn
  rw [found] at foundR
  cases foundR
  rw [owner] at ownerC
  cases ownerC
  rcases ends with ⟨blocked, rfl, _⟩ | ⟨rfl, attempts⟩
  · -- a blocked turn writes no event
    exfalso
    apply allocated
    rcases inventoryConflictBlocks_outcome gates with ⟨_, rfl, _⟩ | ⟨_, outcome⟩
    · exact uncommitted
    obtain ⟨⟨_, _, _, _, frame⟩, _⟩ := outcome.change
    rw [frame]
    exact uncommitted
  · exact ⟨gated, gates, (attempt_keeps attempts).1⟩

/-- In a pass of the rotation, a turn that allocates Leads has a confirmation for every older
waiting request with a shared Lead, each used up by the turn, exactly when there is at most one
such request and the gate got to see it. A denied or consumed decision authorises nothing later. -/
theorem rotation_bypass_authorised_iff {platform : Platform} {env : RotationEnv} {db final : Db}
    {before rest : List Uuid} {requestId : Uuid} {counts : RotationCounts}
    (schema : ConflictSchema db) (pass : fulfillRoundRobin platform env db = .ok (final, counts))
    (turns : rotationTurns env db = before ++ requestId :: rest) :
    ∃ current after request customer,
    TurnTaken platform env db before requestId current after request customer ∧
      (current.eventsOf requestId = [] → after.eventsOf requestId ≠ [] →
        ((∀ older c, Competes platform env current request customer older c →
            Authorised platform env current after request customer older c) ↔
          ∀ older c, Competes platform env current request customer older c →
            InSight platform env current request customer older ∧
              ∀ other d, Competes platform env current request customer other d → other = older)) ∧
      ∀ spent ∈ after.conflicts, spent.status.Terminal → ∀ ops older newer checksum conflict,
        (run conflictStep after ops).conflict? older newer checksum = some conflict →
          conflict.status = .confirmed → conflict.id ≠ spent.id := by
  obtain ⟨current, after, request, customer, taken⟩ := fulfillRoundRobin_turn pass turns
  obtain ⟨visits, reached⟩ := taken.reached
  obtain ⟨result, turn⟩ := taken.turn
  have schemaNow := rotate_schema reached schema
  have schemaAfter := rotationTurn_schema turn schemaNow
  refine ⟨current, after, request, customer, taken, ?_, ?_⟩
  · intro uncommitted allocated
    obtain ⟨gated, gates, kept⟩ := rotationTurn_passed turn taken.found taken.owner uncommitted allocated
    exact passed_authorised_iff schemaNow gates kept
  intro spent stored terminal ops older newer checksum conflict found confirmed sameId
  obtain ⟨keyedLater, kept⟩ := run_invariant (I := fun t => KeepsDecisions after.conflicts t.conflicts)
    (fun t op kept => kept.trans (conflictStep_keepsDecisions t op)) (.refl _) ops schemaAfter.conflicts
  have same := eq_of_mem_of_key keyedLater (lookup_some found).1 (kept spent stored terminal) sameId
  rw [← same, confirmed] at terminal
  revert terminal
  decide

/-! One Lead in Texas, wanted by a new request and by older ones that wait for two Leads. -/

def quietRotation (now : Instant) : RotationEnv :=
  { lockedElsewhere := fun _ => false, lockedOlder := fun _ _ => false, gateAt := fun _ => now,
    olderAt := fun _ _ => now, conflictId := fun newer => newer + 100, queuedAt := now, consumedAt := now,
    fulfilledAt := now, allocation := fun _ => quietEnv now 9 }

def waitingOrder (id customerId : Nat) : LeadRequest :=
  { id, userId := id, customerId, leadCount := 2, rowsPerFile := 2, statesSnapshot := ["TX"],
    status := .waitingInventory, createdAt := id }

def bypassDb (older : List LeadRequest) : Db :=
  { customers := [{ id := 1, permanentHistoryKey := "a" }, { id := 2, permanentHistoryKey := "b" },
                  { id := 3, permanentHistoryKey := "c" }]
    requests := older ++ [{ id := 30, userId := 30, customerId := 1, leadCount := 1, rowsPerFile := 1,
                            statesSnapshot := ["TX"], status := .approved, createdAt := 30 }]
    leads := [{ id := 1, phone := "2025550101", state := "TX" }]
    conflicts := [{ id := 5, olderRequestId := 10, newerRequestId := 30, status := .confirmed
                    inventorySnapshot :=
                      { olderRequestId := 10, newerRequestId := 30, olderLeadCount := 2, newerLeadCount := 1,
                        olderStates := ["TX"], newerStates := ["TX"], olderEligibleCount := 1,
                        newerEligibleCount := 1, sharedLeadIds := [1] }
                    snapshotChecksum := "" }] }

theorem rotation_bypass_authorised_iff_oneOlder :
    ∃ final counts, fulfillRoundRobin plainPlatform (quietRotation 1000)
        (bypassDb [waitingOrder 10 2]) = .ok (final, counts) ∧ counts.fulfilled = 1 ∧
      ∃ current after request customer,
        TurnTaken plainPlatform (quietRotation 1000) (bypassDb [waitingOrder 10 2])
        [] 30 current after request
          customer ∧
        (current.eventsOf 30 = [] → after.eventsOf 30 ≠ [] →
          ((∀ older c, Competes plainPlatform (quietRotation 1000) current request customer older c →
              Authorised plainPlatform (quietRotation 1000) current after request customer older c) ↔
            ∀ older c, Competes plainPlatform (quietRotation 1000) current request customer older c →
              InSight plainPlatform (quietRotation 1000) current request customer older ∧ ∀ other d,
                Competes plainPlatform (quietRotation 1000) current request customer other d →
                other = older)) := by
  have runs : ∃ p, fulfillRoundRobin plainPlatform (quietRotation 1000)
    (bypassDb [waitingOrder 10 2]) = .ok p ∧
      p.2.fulfilled = 1 := by
    refine ⟨_, rfl, ?_⟩
    decide +kernel
  obtain ⟨⟨final, counts⟩, pass, fulfilled⟩ := runs
  have turns : rotationTurns (quietRotation 1000) (bypassDb [waitingOrder 10 2]) = [] ++ 30 :: [10] := by
    decide +kernel
  obtain ⟨current, after, request, customer, taken, iff_, _⟩ :=
    rotation_bypass_authorised_iff ⟨by decide, by decide⟩ pass turns
  exact ⟨final, counts, pass, fulfilled, current, after, request, customer, taken, iff_⟩

def crowdedDb : Db := bypassDb [waitingOrder 10 2, waitingOrder 20 3]

/-- The new request takes the only Lead past two older requests although the conflict with the
second one was never even opened. -/
theorem rotation_bypass_unconfirmed : ∃ final counts after result,
      fulfillRoundRobin plainPlatform (quietRotation 1000) crowdedDb = .ok (final, counts) ∧
      rotationTurns (quietRotation 1000) crowdedDb = [30, 10, 20] ∧
      rotationTurn plainPlatform (quietRotation 1000) crowdedDb 30 = .ok (after, result) ∧
      crowdedDb.eventsOf 30 = [] ∧ (after.eventsOf 30).map DistributionEvent.leadId = [1] ∧
      ∃ request customer olderCustomer, crowdedDb.request? 30 = some request ∧
        crowdedDb.customer? request.customerId = some customer ∧
        Competes plainPlatform (quietRotation 1000) crowdedDb request customer
        (waitingOrder 20 3) olderCustomer ∧
        ¬Authorised plainPlatform (quietRotation 1000) crowdedDb after request customer
          (waitingOrder 20 3) olderCustomer := by
  refine ⟨_, _, _, _, rfl, by decide +kernel, rfl, by decide, by decide +kernel, _, _,
    { id := 3, permanentHistoryKey := "c" }, rfl, rfl, ?_, ?_⟩
  · exact ⟨by decide, rfl, by decide, by decide, rfl, by decide +kernel⟩
  rintro ⟨conflict, found, _⟩
  have absent : ∀ checksum, crowdedDb.conflict? 20 30 checksum = none := by
    intro checksum
    simp [Db.conflict?, crowdedDb, bypassDb, lookup]
  exact absurd (found.symm.trans (absent _)) (by simp)

end Jawnix
