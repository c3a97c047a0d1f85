import Jawnix.Allocation

/-!
# Fulfillment Rotation

`fulfill_round_robin` of `allocation.py` with its Inventory Conflict gate. One pass
gives each Agency, or standalone Customer, one turn. A turn first asks whether an
older waiting request would lose shared inventory; only an administrator's
confirmation lets it go on.
-/
namespace Jawnix

structure RotationEnv where
  /-- Requests locked by other transactions when the pass selects its work. -/
  lockedElsewhere : Uuid → Bool
  /-- Older requests locked by other transactions when a turn's gate selects them. -/
  lockedOlder : Uuid → Uuid → Bool
  /-- Clock readings of a turn's eligibility queries, its own and each older request's. -/
  gateAt : Uuid → Instant
  olderAt : Uuid → Uuid → Instant
  conflictId : Uuid → Uuid
  queuedAt : Instant
  consumedAt : Instant
  fulfilledAt : Instant
  allocation : Uuid → AllocationEnv

def Db.conflict? (db : Db) (older newer : Uuid) (checksum : String) : Option InventoryConflict :=
  lookup (fun c => (c.olderRequestId, c.newerRequestId, c.snapshotChecksum))
    (older, newer, checksum) db.conflicts

def Db.setConflict (db : Db) (id : Uuid) (f : InventoryConflict → InventoryConflict) : Db :=
  { db with conflicts := adjust InventoryConflict.id id f db.conflicts }

variable (platform : Platform) (env : RotationEnv) (db : Db) (request : LeadRequest)
  (customer : Customer)

def eligibleIds (db : Db) (request : LeadRequest) (customer : Customer) (instant : Instant) :
    List Nat :=
  (eligibleQuery platform.casing db request customer instant).map fun row => row.lead.id

def olderRequests : List LeadRequest :=
  ((db.requests.filter (fun r => r.status = .waitingInventory && r.id ≠ request.id &&
    r.createdAt < request.createdAt)).insertionSort fun a b => createdBefore a b).filter
      (fun r => !env.lockedOlder request.id r.id)

def statesOverlap (older newer : LeadRequest) : Bool :=
  older.statesSnapshot.any fun s => s ∈ newer.statesSnapshot

def sharedIds (newerIds olderIds : List Nat) : List Nat :=
  (newerIds.filter fun id => id ∈ olderIds).dedup.insertionSort (· ≤ ·)

def inventorySnapshot (older newer : LeadRequest) (olderIds newerIds : List Nat) : InventorySnapshot :=
  { olderRequestId := older.id
    newerRequestId := newer.id
    olderLeadCount := older.leadCount
    newerLeadCount := newer.leadCount
    olderStates := sortedTexts older.statesSnapshot
    newerStates := sortedTexts newer.statesSnapshot
    olderEligibleCount := olderIds.length
    newerEligibleCount := newerIds.length
    sharedLeadIds := sharedIds newerIds olderIds }

def consumed (now : Instant) (c : InventoryConflict) : InventoryConflict :=
  { c with status := .consumed, consumedAt := some now }

def openConflict (snapshot : InventorySnapshot) : Except Fault Db :=
  let id := env.conflictId snapshot.newerRequestId
  match lookup InventoryConflict.id id db.conflicts with
  | some _ => .error (.integrity "inventory_conflicts_pkey")
  | none =>
    let conflict : InventoryConflict :=
      { id
        olderRequestId := snapshot.olderRequestId
        newerRequestId := snapshot.newerRequestId
        inventorySnapshot := snapshot
        snapshotChecksum := platform.checksum snapshot }
    .ok (enqueueJob { db with conflicts := db.conflicts ++ [conflict] } .notifyInventoryConflict
      none (.conflict id)
      env.queuedAt)

def awaiting (available : Nat) (r : LeadRequest) : LeadRequest :=
  { r with
    status := .waitingInventory
    availableCount := some available
    statusMessage := "Waiting for an Inventory Conflict decision before shared " ++
      "inventory can bypass an older request." }

def awaitDecision (available : Nat) : Db :=
  let noted := enqueueMilestoneEmail (db.setRequest request.id (awaiting available))
    (awaiting available request)
    env.queuedAt
  enqueueJob noted .updateNotification (some request.id) .empty env.queuedAt

/-- The loop over the older requests, in order. It returns at the first of them that shares a
Lead. -/
def conflictGate (platform : Platform) (env : RotationEnv) (db : Db) (request : LeadRequest)
    (newerIds : List Nat) :
    List LeadRequest → Except Fault (Db × Bool)
  | [] => .ok (db, false)
  | older :: rest =>
    if statesOverlap older request = false then conflictGate platform env db request newerIds rest
    else
      match db.customer? older.customerId with
      | none => .error (.integrity "lead_requests_agent_id_fkey")
      | some customer =>
        let olderIds := eligibleIds platform db older customer (env.olderAt request.id older.id)
        if sharedIds newerIds olderIds = [] then conflictGate platform env db request newerIds rest
        else
          let snapshot := inventorySnapshot older request olderIds newerIds
          match db.conflict? older.id request.id (platform.checksum snapshot) with
          | none => do
            let opened ← openConflict platform env db snapshot
            .ok (awaitDecision env opened request newerIds.length, true)
          | some conflict =>
            if conflict.status = .confirmed then
              .ok (db.setConflict conflict.id (consumed env.consumedAt), false)
            else .ok (awaitDecision env db request newerIds.length, true)

def inventoryConflictBlocks : Except Fault (Db × Bool) :=
  let newerIds := eligibleIds platform db request customer (env.gateAt request.id)
  if newerIds.length < request.leadCount then .ok (db, false)
  else conflictGate platform env db request newerIds (olderRequests env db request)

inductive ConflictDecision where
  | confirm | deny

def ConflictDecision.status : ConflictDecision → ConflictStatus
  | .confirm => .confirmed
  | .deny => .denied

/-- `decide_inventory_conflict`: only a pending conflict is decided. -/
def decideInventoryConflict (conflictId : Uuid) (action : ConflictDecision)
    (actorId reason : String) (now : Instant) : Except Fault Db :=
  match lookup InventoryConflict.id conflictId db.conflicts with
  | none => .error (.lookup "Inventory Conflict was not found.")
  | some conflict =>
    if conflict.status ≠ .pending then .ok db
    else
      let decided := db.setConflict conflictId (fun c =>
        { c with
          status := action.status
          decisionBy := actorId
          decisionReason := strip reason
          decidedAt := some now })
      let notified := enqueueJob decided .updateInventoryConflictNotification none (.conflict conflictId) now
      .ok (match action with
        | .confirm => enqueueJob notified .fulfillRoundRobin none .empty now
        | .deny => notified)

def resumed (r : LeadRequest) : LeadRequest :=
  { r with status := .approved, statusMessage := "New committed inventory is being checked." }

def resumeWaiting : Db :=
  if request.status = .waitingInventory then db.setRequest request.id resumed else db

def markFulfilled (at_ : Instant) : Db :=
  let served := db.setCustomer customer.id (fun c => { c with lastFulfilledAt := some at_ })
  match customer.agencyId with
  | none => served
  | some agencyId =>
    let serve := fun a : Agency => { a with lastFulfilledAt := some at_ }
    { served with agencies := adjust Agency.id agencyId serve served.agencies }

inductive TurnResult where
  | blocked
  | attempted (status : RequestStatus)
  deriving DecidableEq

def attempt :
    Except Fault (Db × TurnResult) := do
  let (allocated, result) ←
    allocateRequest platform (env.allocation request.id) (resumeWaiting db request) request.id
  if result.status = .generated then
    let processedAt := (allocated.request? request.id).bind LeadRequest.processedAt
    .ok (markFulfilled allocated customer (processedAt.getD env.fulfilledAt), .attempted result.status)
  else .ok (allocated, .attempted result.status)

/-- One turn: the gate, then the allocation. The request and its Customer are read as the
earlier turns of the pass left them. -/
def rotationTurn (requestId : Uuid) : Except Fault (Db × TurnResult) :=
  match db.request? requestId with
  | none => .error (.lookup s!"Request {uuidText requestId} was not found.")
  | some request =>
    match db.customer? request.customerId with
    | none => .error (.integrity "lead_requests_agent_id_fkey")
    | some customer => do
      let (gated, blocks) ← inventoryConflictBlocks platform env db request customer
      if blocks then .ok (gated, .blocked) else attempt platform env gated request customer

def datetimeMin : Instant := -62135596800000000

/-- Never fulfilled first, then the longest ago. -/
def fulfilledKey (at_ : Option Instant) : List Int := [if at_.isSome then 1 else 0, at_.getD datetimeMin]

/-- ("agency", id) or ("customer", id); the texts sort in this order. -/
def rotationKey : Int × Nat :=
  match customer.agencyId with
  | some agencyId => (0, agencyId)
  | none => (1, customer.id)

/-- Requests to serve, each with its Customer, in submission order; locked ones are skipped. -/
def rotationRequests : List (LeadRequest × Customer) :=
  let open_ := db.requests.filter (fun r =>
    (decide (r.status = .approved) || decide (r.status = .waitingInventory)) && !env.lockedElsewhere r.id)
  (open_.insertionSort fun a b => createdBefore a b).filterMap (fun r =>
    (db.customer? r.customerId).bind fun c => if db.mayDistribute c then some (r, c) else none)

/-- When a group was last fulfilled: its Agency's time, or its Customer's. -/
def groupFulfilledAt : Option Instant :=
  match customer.agencyId.bind db.agency? with
  | some agency => agency.lastFulfilledAt
  | none => customer.lastFulfilledAt

def groupOrder (entry : (Int × Nat) × List (LeadRequest × Customer)) : List Int :=
  match entry.2 with
  | [] => []
  | (_, customer) :: _ => fulfilledKey (groupFulfilledAt db customer) ++ [entry.1.1, entry.1.2]

def itemOrder (item : LeadRequest × Customer) : List Int :=
  fulfilledKey item.2.lastFulfilledAt ++ [(item.2.id : Int),
    item.1.approvedAt.getD item.1.createdAt, (item.1.id : Int)]

def sortByKey {α : Type} (key : α → List Int) (xs : List α) : List α :=
  xs.insertionSort fun a b => decide (List.le (key a) (key b))

def rotationTurns : List Uuid :=
  (sortByKey (groupOrder db) (groupBy (fun item => rotationKey item.2) (rotationRequests env db))).filterMap
    (fun entry => (sortByKey itemOrder entry.2).head?.map fun item => item.1.id)

structure RotationCounts where
  visited : Nat := 0
  fulfilled : Nat := 0
  waiting : Nat := 0

def RotationCounts.add (counts : RotationCounts) : TurnResult → RotationCounts
  | .blocked => { counts with visited := counts.visited + 1, waiting := counts.waiting + 1 }
  | .attempted .generated => { counts with visited := counts.visited + 1, fulfilled := counts.fulfilled + 1 }
  | .attempted .waitingInventory =>
      { counts with visited := counts.visited + 1, waiting := counts.waiting + 1 }
  | .attempted _ => { counts with visited := counts.visited + 1 }

def rotate (platform : Platform) (env : RotationEnv) :
    Db → RotationCounts → List Uuid → Except Fault (Db × RotationCounts)
  | db, counts, [] => .ok (db, counts)
  | db, counts, requestId :: rest => do
    let (served, result) ← rotationTurn platform env db requestId
    rotate platform env served (counts.add result) rest

def fulfillRoundRobin : Except Fault (Db × RotationCounts) := do
  let (served, counts) ← rotate platform env db {} (rotationTurns env db)
  -- a leftover approved request gets the next turn without waiting for another approval
  if 0 < counts.fulfilled ∧ served.requests.any (fun r => r.status = .approved) then
    .ok (enqueueJob served .fulfillRoundRobin none .empty env.queuedAt, counts)
  else .ok (served, counts)

end Jawnix
