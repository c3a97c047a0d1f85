import Jawnix.Jobs
import Jawnix.States
import Jawnix.WalletChange

/-!
# Submission and withdrawal by the Customer

`customer_requests.py` and the older endpoint of `api.py` that submits without a
key. A profile handed to a submission was read when the call began; the Customer
and the wallet are read under the Customer row lock.
-/
namespace Jawnix

theorem allSaved_states : StateMode.allSaved = .selected → ([] : List String) ≠ [] := by decide
theorem unset_rowsPerFile : ∀ rows ∈ (none : Option Nat), 1 ≤ rows ∧ rows ≤ 100000 := by simp

structure RequestCreate where
  leadCount : Nat
  stateMode : StateMode := .allSaved
  states : List String := []
  expectedLeadRate : Option Int := none
  leadCountRange : 1 ≤ leadCount ∧ leadCount ≤ 100000
  selectedRequiresStates : stateMode = .selected → states ≠ [] := by first | exact allSaved_states | decide

/-- The payload of the guided flow, whose key is minted once per flow. -/
structure CustomerRequestCreate extends RequestCreate where
  idempotencyKey : String
  rowsPerFile : Option Nat := none
  rowsPerFileRange : ∀ rows ∈ rowsPerFile, 1 ≤ rows ∧ rows ≤ 100000 := by
    first | exact unset_rowsPerFile | simp

structure NewRequest where
  requestId : Uuid
  holdId : Uuid

/-- Statuses in which no Distribution Event can have been committed. -/
def cancelableStatuses : List RequestStatus := [.pending, .approved, .waitingInventory]

/-- `request_history_scope`: a mapped login reaches its Customer's requests, an unmapped one its
own. -/
def requestHistoryScope (profile : CustomerProfile) (userId : Uuid) (r : LeadRequest) : Bool :=
  match profile.customerId with
  | some customerId => r.customerId = customerId
  | none => r.userId = userId

variable (casing : Casing) (payload : RequestCreate) (db : Db) (userId : Uuid)

def requestBlocker (profile : CustomerProfile) : Except Fault (Option String) :=
  if profile.mappingConfirmedAt = none ∨ profile.customerId = none then
    .ok (some ("An administrator is confirming your Customer mapping. " ++
      "You can request a Batch as soon as that is done."))
  else do
    let states ← normalizeStates casing profile.licensedStates
    if states = [] then
      .ok (some ("A Batch Request covers the states you are licensed in. " ++
        "Add at least one before requesting a Batch."))
    else .ok none

def requestedStates (licensed : List String) : Except Fault (List String) :=
  match payload.stateMode with
  | .allSaved => .ok licensed
  | .selected =>
    let unlicensed := sortedSet (payload.states.filter fun s => s ∉ licensed)
    if unlicensed ≠ [] then
      .error (.submission ("These are not Licensed States on your account: " ++
        String.intercalate ", " unlicensed ++ ".") 422)
    else normalizeStates casing payload.states

def submissionFault : Fault → Fault
  | .billing detail statusCode => .submission detail statusCode
  | fault => fault

def draftRequest (id userId : Uuid) (customerId : Nat) (payload : RequestCreate) (rowsPerFile : Nat)
    (states : List String) (deliveryEmail : String) (idempotencyKey : Option String)
    (now : Instant) : LeadRequest :=
  { id
    userId
    customerId
    leadCount := payload.leadCount
    rowsPerFile
    stateMode := payload.stateMode
    statesSnapshot := states
    deliveryEmail
    statusMessage := "Awaiting Telegram approval."
    createdAt := now
    idempotencyKey }

def insertSubmission (draft : LeadRequest) (expected : Option Int) (holdId : Uuid) (now : Instant) :
    Except Fault Db := do
  let inserted ← billedSubmission db draft expected holdId now
  .ok (enqueueJob inserted .notifyRequest (some draft.id) .empty now)

def submitRequest (profile : CustomerProfile) (payload : CustomerRequestCreate) (fresh : NewRequest)
    (now : Instant) : Except Fault (Db × Uuid × Bool) :=
  match existingSubmission db userId payload.idempotencyKey with
  | some existing => .ok (db, existing.id, false)
  | none => do
    let blocker ← requestBlocker casing profile
    match blocker with
    | some description => .error (.submission description 409)
    | none =>
      match profile.customerId.bind db.customer? with
      | none => .error (.submission
          "Your distribution mapping must be active and confirmed before requesting a Batch." 409)
      | some customer =>
        if db.mayDistribute customer = false then
          .error (.submission
            "Your distribution mapping must be active and confirmed before requesting a Batch." 409)
        else do
          let licensed ← normalizeStates casing profile.licensedStates
          let states ← requestedStates casing payload.toRequestCreate licensed
          let draft := draftRequest fresh.requestId userId customer.id payload.toRequestCreate
            (payload.rowsPerFile.getD payload.leadCount) states profile.email
              (some payload.idempotencyKey) now
          match insertSubmission db draft payload.expectedLeadRate fresh.holdId now with
          | .error fault => .error (submissionFault fault)
          | .ok submitted => .ok (submitted, draft.id, true)

def httpFault : Fault → Fault
  | .billing detail statusCode => .http statusCode detail
  | fault => fault

def chosenStates (saved : List String) : List String :=
  if payload.stateMode = .allSaved then saved else payload.states

/-- `create_request` of `api.py`, on the profile its guard answered with. -/
def createRequest (profile : Option CustomerProfile)
    (payload : RequestCreate) (fresh : NewRequest) (now : Instant) : Except Fault (Db × Uuid) :=
  let refused : Fault :=
    .http 409 "Your distribution mapping must be active and confirmed before requesting a batch."
  match profile, profile.bind (fun p => p.customerId.bind db.customer?) with
  | some profile, some customer =>
    if db.mayDistribute customer = false ∨ profile.mappingConfirmedAt = none then .error refused
    else do
      let saved ← normalizeStates casing profile.licensedStates
      let states := chosenStates payload saved
      if saved = [] then .error (.http 422 "Save at least one licensed state first.")
      else if states.all (fun s => s ∈ saved) = false then
        .error (.http 422 "Request states must be selected from your saved profile states.")
      else
        let draft :=
          draftRequest fresh.requestId userId customer.id payload payload.leadCount states
          profile.email
          none now
        match insertSubmission db draft payload.expectedLeadRate fresh.holdId now with
        | .error fault => .error (httpFault fault)
        | .ok submitted => .ok (submitted, draft.id)
  | _, _ => .error refused

def canceledByCustomer (message : String) (now : Instant) (r : LeadRequest) : LeadRequest :=
  { r with status := .canceled, statusMessage := message, closedAt := some now }

/-- The scope a login's profile gives it; without a profile, its own requests. -/
def withdrawalScope (r : LeadRequest) : Bool :=
  match db.profile? userId with
  | some profile => requestHistoryScope profile userId r
  | none => r.userId = userId

def cancelRequest (requestId : Uuid) (message : String) (now : Instant) : Except Fault Db :=
  match db.request? requestId with
  | none => .error (.submission "Request was not found." 404)
  | some item =>
    if withdrawalScope db userId item = false then .error (.submission "Request was not found." 404)
    else if item.status ∉ cancelableStatuses then
      .error (.submission "This request has already started delivery and can no longer be canceled." 409)
    else
      let released := releaseBatchHold (db.setRequest item.id (canceledByCustomer message now)) item now
      .ok (enqueueJob released .updateNotification (some item.id) .empty now)

theorem billedSubmission_placed {db after : Db} {draft : LeadRequest} {expected : Option Int} {holdId : Uuid}
    {now : Instant} (done : billedSubmission db draft expected holdId now = .ok after) :
    db.request? draft.id = none ∧ ∃ placed hold,
      after = { db with requests := db.requests ++ [placed], holds := db.holds ++ Option.toList hold } ∧
      (∃ isBilled leadRateCentsPerThousand billingAmountCents frozenBilling, placed =
        { draft with isBilled, leadRateCentsPerThousand, billingAmountCents, frozenBilling }) ∧
      (placed.isBilled = false ∧ hold = none ∨
        placed.isBilled ∧ ∃ h : BatchHold, hold = some h ∧ h.requestId = draft.id ∧ h.status = .active) := by
  unfold billedSubmission at done
  split at done
  · cases done
  case h_2 billing _ =>
  split at done
  · cases done
  case h_2 placed hold placement =>
  obtain ⟨fresh, rfl⟩ := insertRequest_ok done
  unfold placeBatchHold at placement
  split at placement
  · split at placement
    · cases placement
    split at placement
    · cases placement
      exact ⟨fresh, _, _, rfl, ⟨_, _, _, _, rfl⟩, .inr ⟨rfl, _, rfl, rfl, rfl⟩⟩
    · cases placement
  · cases placement
    exact ⟨fresh, _, _, rfl, ⟨_, _, _, _, rfl⟩, .inl ⟨rfl, rfl⟩⟩

section
variable {casing : Casing} {db after : Db} {userId : Uuid} {fresh : NewRequest} {now : Instant}

theorem requestedStates_licensed {payload : RequestCreate} {licensed states : List String}
    (done : requestedStates casing payload licensed = .ok states) :
    states = licensed ∨ normalizeStates casing payload.states = .ok states ∧
    ∀ s ∈ payload.states, s ∈ licensed := by
  unfold requestedStates at done
  split at done
  · cases done
    exact .inl rfl
  simp only at done
  obtain ⟨allLicensed, done⟩ := guard_ok done
  refine .inr ⟨done, fun s member => ?_⟩
  by_contra unlicensed
  have listed : s ∈ sortedSet (payload.states.filter fun s => s ∉ licensed) :=
    mem_sortedSet.mpr (mem_filter.mpr ⟨member, by simpa using unlicensed⟩)
  rw [not_not.mp allLicensed] at listed
  cases listed

theorem requestBlocker_none {profile : CustomerProfile}
    (done : requestBlocker casing profile = .ok none) : profile.mappingConfirmedAt.isSome := by
  unfold requestBlocker at done
  split at done
  · cases done
  case isFalse mapped => exact Option.isSome_iff_ne_none.mpr fun unconfirmed => mapped (.inl unconfirmed)

/-- A submission returns an earlier request, or inserts a draft of the states its confirmed profile
licensed when it was read. -/
theorem submitRequest_cases {profile : CustomerProfile} {payload : CustomerRequestCreate}
    {result : Uuid × Bool}
    (done : submitRequest casing db userId profile payload fresh now = .ok (after, result)) :
    after = db ∨ ∃ customer licensed states, existingSubmission db userId payload.idempotencyKey = none ∧
    profile.mappingConfirmedAt.isSome ∧ profile.customerId.bind db.customer? = some customer ∧
    normalizeStates casing profile.licensedStates = .ok licensed ∧
    requestedStates casing payload.toRequestCreate licensed = .ok states ∧
    insertSubmission db (draftRequest fresh.requestId userId customer.id payload.toRequestCreate
    (payload.rowsPerFile.getD payload.leadCount) states profile.email (some payload.idempotencyKey) now)
    payload.expectedLeadRate fresh.holdId now = .ok after := by
  unfold submitRequest at done
  split at done
  · cases done
    exact .inl rfl
  case h_2 unsubmitted =>
  obtain ⟨blocker, blocks, rest⟩ := bind_ok done
  split at rest
  · cases rest
  split at rest
  · cases rest
  case h_2 customer mapped =>
  split at rest
  · cases rest
  obtain ⟨licensed, normal, rest⟩ := bind_ok rest
  obtain ⟨states, requested, rest⟩ := bind_ok rest
  simp only at rest
  split at rest
  · cases rest
  case h_2 submitted inserts =>
  cases rest
  exact .inr ⟨customer, licensed, states, unsubmitted, requestBlocker_none blocks, mapped, normal,
    requested, inserts⟩

theorem createRequest_cases {profile : Option CustomerProfile} {payload : RequestCreate} {result : Uuid}
    (done : createRequest casing db userId profile payload fresh now = .ok (after, result)) :
    ∃ p customer saved states, profile = some p ∧ p.mappingConfirmedAt.isSome ∧
    p.customerId.bind db.customer? = some customer ∧
    normalizeStates casing p.licensedStates = .ok saved ∧ (∀ s ∈ states, s ∈ saved) ∧
    insertSubmission db
    (draftRequest fresh.requestId userId customer.id payload payload.leadCount states p.email
    none now) payload.expectedLeadRate fresh.holdId now = .ok after := by
  unfold createRequest at done
  simp only at done
  split at done
  case h_1 p customer mapped =>
    obtain ⟨active, done⟩ := guard_ok done
    have confirmed := Option.isSome_iff_ne_none.mpr fun unconfirmed => active (.inr unconfirmed)
    obtain ⟨saved, normal, rest⟩ := bind_ok done
    split at rest
    · cases rest
    obtain ⟨within, rest⟩ := guard_ok rest
    split at rest
    · cases rest
    case h_2 submitted inserts =>
    cases rest
    have allSaved : ∀ s ∈ chosenStates payload saved, s ∈ saved := by simpa using within
    exact ⟨p, customer, saved, _, rfl, confirmed, mapped, normal, allSaved, inserts⟩
  · cases done

end

end Jawnix
