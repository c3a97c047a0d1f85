import Jawnix.CustomerRequests
import Jawnix.Library.Locks
import Jawnix.Library.UniqueIndex

/-!
# Concurrent submissions

`submit_request` statement by statement. A flush waits for a transaction that has
flushed the same key and fails once that one has committed; the call then answers
with the request it lost to. Calls of one user may hold the locks of different
Customers: what keeps their requests apart is the unique index.
-/
namespace Jawnix

structure SubmitCall where
  userId : Uuid
  profile : CustomerProfile
  payload : CustomerRequestCreate
  fresh : NewRequest
  now : Instant

def SubmitCall.key (call : SubmitCall) : Uuid × String := (call.userId, call.payload.idempotencyKey)

/-- The columns of `uq_lead_request_idempotency`. -/
def LeadRequest.submissionKey (r : LeadRequest) : Option (Uuid × String) :=
  r.idempotencyKey.map (Prod.mk r.userId)

variable (casing : Casing) (db : Db)

def SubmitCall.draft (call : SubmitCall) : Except Fault LeadRequest := do
  let blocker ← requestBlocker casing call.profile
  match blocker with
  | some description => .error (.submission description 409)
  | none =>
    match call.profile.customerId.bind db.customer? with
    | none => .error (.submission
        "Your distribution mapping must be active and confirmed before requesting a Batch." 409)
    | some customer =>
      if db.mayDistribute customer = false then
        .error (.submission
          "Your distribution mapping must be active and confirmed before requesting a Batch." 409)
      else do
        let licensed ← normalizeStates casing call.profile.licensedStates
        let states ← requestedStates casing call.payload.toRequestCreate licensed
        .ok (draftRequest call.fresh.requestId call.userId customer.id call.payload.toRequestCreate
          (call.payload.rowsPerFile.getD call.payload.leadCount) states call.profile.email
          (some call.payload.idempotencyKey) call.now)

/-- `prepare_submission` and `place_batch_hold` under the Customer row lock. -/
def SubmitCall.terms (call : SubmitCall) (draft : LeadRequest) :
    Except Fault (LeadRequest × Option BatchHold) :=
  match prepareSubmission db draft.customerId draft.leadCount call.payload.expectedLeadRate with
  | .error fault => .error fault
  | .ok billing => placeBatchHold draft billing call.fresh.holdId call.now

structure Placement where
  request : LeadRequest
  hold : Option BatchHold
  now : Instant

variable (p : Placement)

def Placement.commit : Db :=
  enqueueJob { db with requests := db.requests ++ [p.request], holds := db.holds ++ p.hold.toList }
    .notifyRequest (some p.request.id) .empty p.now

inductive Submitting where
  | looking
  | waiting (draft : LeadRequest)
  | locked (draft : LeadRequest)
  | unclaimed (draft : LeadRequest)
  | prepared (placed : LeadRequest) (hold : Option BatchHold)
  | flushed (placed : LeadRequest) (hold : Option BatchHold)
  | refused

structure SubmitAnswer where
  key : Uuid × String
  requestId : Uuid
  created : Bool
  deriving DecidableEq

/-- The committed database, who has locked which Customer, the calls in flight and the answers
given. -/
structure SubmissionStore where
  db : Db
  locks : Nat → Option Nat := fun _ => none
  inFlight : List (Nat × SubmitCall × Submitting) := []
  answers : List SubmitAnswer := []

inductive SubmitOp where
  | start (tid : Nat) (call : SubmitCall)
  | proceed (tid : Nat)
  | commit (tid : Nat)
  | abort (tid : Nat)

variable (s : SubmissionStore) (tid : Nat)

def SubmissionStore.put (call : SubmitCall) (stage : Submitting) : SubmissionStore :=
  { s with inFlight := Dict.set tid (call, stage) s.inFlight }

def SubmissionStore.leave : SubmissionStore :=
  { s with locks := Locks.release s.locks tid, inFlight := Dict.erase tid s.inFlight }

def SubmissionStore.answer (call : SubmitCall) (requestId : Uuid) (created : Bool) :
    SubmissionStore :=
  { s.leave tid with answers := s.answers ++ [⟨call.key, requestId, created⟩] }

def SubmissionStore.rollback (call : SubmitCall) : SubmissionStore :=
  { s.put tid call .refused with locks := Locks.release s.locks tid }

/-- `_existing_submission`: the call answers with what it finds. -/
def SubmissionStore.lookUp (call : SubmitCall) (absent : SubmissionStore) : SubmissionStore :=
  match existingSubmission s.db call.userId call.payload.idempotencyKey with
  | some existing => s.answer tid call existing.id false
  | none => absent

def Submitting.row : Submitting → Option LeadRequest
  | .flushed placed _ => some placed
  | _ => none

/-- Another transaction has flushed a row with the same identifier or key. -/
def SubmissionStore.contested (placed : LeadRequest) : Bool :=
  s.inFlight.any (fun entry => entry.1 ≠ tid && entry.2.2.row.any (fun r =>
    decide (r.id = placed.id) || placed.submissionKey.any fun k => r.submissionKey = some k))

def SubmissionStore.proceed (call : SubmitCall) :
    Submitting → SubmissionStore
  | .looking =>
    s.lookUp tid call
      (match call.draft casing s.db with
       | .error _ => s.leave tid
       | .ok draft => s.put tid call (.waiting draft))
  | .waiting draft =>
    if Locks.available s.locks tid draft.customerId then
      { s.put tid call (.locked draft) with locks := Locks.acquire s.locks tid draft.customerId }
    else s
  | .locked draft => s.lookUp tid call (s.put tid call (.unclaimed draft))
  | .unclaimed draft =>
    match call.terms s.db draft with
    -- the check constraint is one of the integrity errors the flush can raise
    | .error (.integrity _) => s.rollback tid call
    | .error _ => s.leave tid
    | .ok (placed, hold) => s.put tid call (.prepared placed hold)
  | .prepared placed hold =>
    if s.contested tid placed then s
    else
      match insertRequest s.db placed hold with
      | .error _ => s.rollback tid call
      | .ok _ => s.put tid call (.flushed placed hold)
  | .refused => s.lookUp tid call (s.leave tid)
  | .flushed .. => s

def SubmissionStore.commit (call : SubmitCall) : Submitting → SubmissionStore
  | .flushed placed hold =>
    { s.answer tid call placed.id true with db := Placement.commit s.db ⟨placed, hold, call.now⟩ }
  | _ => s

def submitStep : SubmitOp → SubmissionStore
  | .start tid call =>
    match get? tid s.inFlight with
    | some _ => s
    | none => s.put tid call .looking
  | .proceed tid => (get? tid s.inFlight).elim s (fun entry => s.proceed casing tid entry.1 entry.2)
  | .commit tid => (get? tid s.inFlight).elim s (fun entry => s.commit tid entry.1 entry.2)
  | .abort tid => (get? tid s.inFlight).elim s fun _ => s.leave tid

structure PlacedFor (call : SubmitCall) (placed : LeadRequest) (hold : Option BatchHold) : Prop where
  key : placed.submissionKey = some call.key
  request : ∀ h ∈ hold, h.requestId = placed.id
  customer : ∀ h ∈ hold, h.customerId = placed.customerId
  active : ∀ h ∈ hold, h.status = .active

def Submitting.Fits (call : SubmitCall) : Submitting → Prop
  | .looking | .refused => True
  | .waiting draft | .locked draft | .unclaimed draft => draft.submissionKey = some call.key
  | .prepared placed hold | .flushed placed hold => PlacedFor call placed hold

def SubmissionStore.flushedRow : Option LeadRequest :=
  (get? tid s.inFlight).bind fun entry => entry.2.row

structure SubmissionStore.Sound (P : SubmitCall → Prop) (start : Db) (s : SubmissionStore) : Prop where
  placements : ∃ ps : List Placement, s.db = ps.foldl Placement.commit start ∧
    ∀ p ∈ ps, ∃ call, P call ∧ PlacedFor call p.request p.hold
  index : UniqueIndex.Respected LeadRequest.submissionKey s.db.requests s.flushedRow
  calls : ∀ tid call stage, get? tid s.inFlight = some (call, stage) → P call ∧ stage.Fits call
  answers : ∀ a ∈ s.answers, (∃ call, P call ∧ call.key = a.key) ∧
    ∃ r ∈ s.db.requests, r.submissionKey = some a.key ∧ r.id = a.requestId

section
variable {P : SubmitCall → Prop} {start db : Db} {s : SubmissionStore} {tid : Nat}
  {call : SubmitCall} {stage : Submitting} {casing : Casing} {draft placed : LeadRequest}
  {hold : Option BatchHold} {r : LeadRequest} {other : Nat}

theorem submissionKey_eq {userId : Uuid} {key : String} :
    r.submissionKey = some (userId, key) ↔ (r.userId, r.idempotencyKey) = (userId, some key) := by
  unfold LeadRequest.submissionKey
  rw [map_eq_some_iff]
  constructor
  · rintro ⟨k, named, same⟩
    cases same
    rw [named]
  intro same
  obtain ⟨user, named⟩ := Prod.mk.inj same
  exact ⟨key, named, congrArg (Prod.mk · key) user⟩

theorem SubmitCall.draft_key (done : call.draft casing db = .ok draft) :
    draft.submissionKey = some call.key := by
  obtain ⟨blocker, _, rest⟩ := bind_ok done
  split at rest
  · cases rest
  split at rest
  · cases rest
  split at rest
  · cases rest
  obtain ⟨licensed, _, rest⟩ := bind_ok rest
  obtain ⟨states, _, rest⟩ := bind_ok rest
  cases rest
  rfl

theorem SubmitCall.terms_placed (named : draft.submissionKey = some call.key)
    (done : call.terms db draft = .ok (placed, hold)) : PlacedFor call placed hold := by
  unfold SubmitCall.terms at done
  split at done
  · cases done
  unfold placeBatchHold at done
  split at done
  · split at done
    · cases done
    split at done
    · cases done
      refine ⟨named, fun h same => ?_, fun h same => ?_, fun h same => ?_⟩ <;>
      · cases same
        rfl
    · cases done
  · cases done
    refine ⟨named, fun h same => ?_, fun h same => ?_, fun h same => ?_⟩ <;> cases same

theorem flushedRow_put (found : (s.put tid call stage).flushedRow other = some r) :
    (other = tid ∧ stage.row = some r) ∨ (other ≠ tid ∧ s.flushedRow other = some r) := by
  obtain ⟨entry, held, row⟩ := bind_eq_some_iff.mp found
  rcases get?_set_cases held with ⟨same, rfl⟩ | ⟨differ, before⟩
  · exact .inl ⟨same, row⟩
  · exact .inr ⟨differ, bind_eq_some_iff.mpr ⟨entry, before, row⟩⟩

theorem flushedRow_leave (found : (s.leave tid).flushedRow other = some r) :
    other ≠ tid ∧ s.flushedRow other = some r := by
  obtain ⟨entry, held, row⟩ := bind_eq_some_iff.mp found
  obtain ⟨differ, before⟩ := get?_erase_cases held
  exact ⟨differ, bind_eq_some_iff.mpr ⟨entry, before, row⟩⟩

section
variable (sound : s.Sound P start)
include sound

theorem SubmissionStore.Sound.relock (locks : Nat → Option Nat) : Sound P start { s with locks } :=
  { sound with }

theorem SubmissionStore.Sound.put_calls (meets : P call) (fits : stage.Fits call) (other : Nat)
    (c : SubmitCall) (st : Submitting)
    (found : get? other (s.put tid call stage).inFlight = some (c, st)) : P c ∧ st.Fits c := by
  rcases get?_set_cases found with ⟨_, same⟩ | ⟨_, before⟩
  · cases same
    exact ⟨meets, fits⟩
  · exact sound.calls other c st before

theorem SubmissionStore.Sound.put (meets : P call) (fits : stage.Fits call)
    (unflushed : stage.row = none) : (s.put tid call stage).Sound P start := by
  refine ⟨sound.placements, sound.index.fewer fun other r found => ?_, sound.put_calls meets fits,
    sound.answers⟩
  rcases flushedRow_put found with ⟨_, row⟩ | ⟨_, before⟩
  · exact nomatch unflushed.symm.trans row
  · exact before

theorem SubmissionStore.Sound.leave (tid : Nat) : (s.leave tid).Sound P start :=
  ⟨sound.placements, sound.index.fewer fun _ _ found => (flushedRow_leave found).2,
    fun other c st found => sound.calls other c st (get?_erase_cases found).2, sound.answers⟩

theorem SubmissionStore.Sound.rollback (meets : P call) : (s.rollback tid call).Sound P start :=
  have refused : (s.put tid call .refused).Sound P start := sound.put meets trivial rfl
  refused.relock _

theorem SubmissionStore.Sound.lookUp (meets : P call) {absent : SubmissionStore}
    (goesOn : absent.Sound P start) : (s.lookUp tid call absent).Sound P start := by
  unfold SubmissionStore.lookUp
  split
  case h_1 existing found =>
    obtain ⟨placements, index, calls, answers⟩ := sound.leave tid
    refine ⟨placements, index, calls, fun a given => ?_⟩
    rcases mem_append.mp given with before | here
    · exact answers a before
    cases mem_singleton.mp here
    obtain ⟨member, named⟩ := lookup_some found
    exact ⟨⟨call, meets, rfl⟩, existing, member, submissionKey_eq.mpr named, rfl⟩
  · exact goesOn

end

theorem insertRequest_unclaimed {after : Db} (done : insertRequest db placed hold = .ok after)
    (k : Uuid × String) (named : placed.submissionKey = some k) :
    k ∉ db.requests.filterMap LeadRequest.submissionKey := by
  obtain ⟨userId, key⟩ := k
  obtain ⟨user, keyed⟩ := Prod.mk.inj (submissionKey_eq.mp named)
  unfold insertRequest at done
  split at done
  · cases done
  · cases done
  case h_3 unclaimed =>
  rw [keyed, user] at unclaimed
  intro listed
  obtain ⟨r, member, named⟩ := mem_filterMap.mp listed
  exact lookup_none.mp unclaimed r member (submissionKey_eq.mp named)

theorem uncontested (free : s.contested tid placed = false) {k : Uuid × String}
    (differ : other ≠ tid) (flushed : s.flushedRow other = some r)
    (named : placed.submissionKey = some k) : r.submissionKey ≠ some k := by
  intro same
  obtain ⟨entry, held, row⟩ := bind_eq_some_iff.mp flushed
  refine eq_false_iff.mp free (any_eq_true.mpr ⟨(other, entry), mem_of_get? held, ?_⟩)
  rw [row, named, any_some, any_some, decide_eq_true differ, decide_eq_true same, Bool.or_true,
    Bool.and_true]

/-- The flush succeeds only where neither a committed nor a flushed row has the key. -/
theorem SubmissionStore.Sound.flush (sound : s.Sound P start) (meets : P call)
    (fits : PlacedFor call placed hold) (free : s.contested tid placed = false) {after : Db}
    (done : insertRequest s.db placed hold = .ok after) :
    (s.put tid call (.flushed placed hold)).Sound P start := by
  have others : ∀ other r, (s.put tid call (.flushed placed hold)).flushedRow other = some r →
      other = tid ∧ r = placed ∨ other ≠ tid ∧ s.flushedRow other = some r := by
    intro other r found
    rcases flushedRow_put found with ⟨same, row⟩ | before
    · cases row
      exact .inl ⟨same, rfl⟩
    · exact .inr before
  refine ⟨sound.placements, ?_, sound.put_calls meets fits, sound.answers⟩
  exact sound.index.flush (insertRequest_unclaimed done)
    (fun other r k differ flushed named => uncontested free differ flushed named) others

theorem SubmissionStore.Sound.proceed (sound : s.Sound P start)
    (found : get? tid s.inFlight = some (call, stage)) :
    (s.proceed casing tid call stage).Sound P start := by
  obtain ⟨meets, fits⟩ := sound.calls tid call stage found
  cases stage with
  | looking =>
    refine sound.lookUp meets ?_
    split
    · exact sound.leave tid
    case h_2 draft done => exact sound.put meets (SubmitCall.draft_key done) rfl
  | waiting draft =>
    dsimp only [SubmissionStore.proceed]
    split
    · have moved : (s.put tid call (.locked draft)).Sound P start := sound.put meets fits rfl
      exact moved.relock _
    · exact sound
  | locked draft => exact sound.lookUp meets (sound.put meets fits rfl)
  | unclaimed draft =>
    dsimp only [SubmissionStore.proceed]
    split
    · exact sound.rollback meets
    · exact sound.leave tid
    case h_3 placed hold done => exact sound.put meets (SubmitCall.terms_placed fits done) rfl
  | prepared placed hold =>
    dsimp only [SubmissionStore.proceed]
    split
    · exact sound
    case isFalse free =>
    split
    · exact sound.rollback meets
    case h_2 after done => exact sound.flush meets fits (eq_false_iff.mpr free) done
  | flushed placed hold => exact sound
  | refused => exact sound.lookUp meets (sound.leave tid)

theorem SubmissionStore.Sound.commit (sound : s.Sound P start)
    (found : get? tid s.inFlight = some (call, stage)) :
    (s.commit tid call stage).Sound P start := by
  cases stage with
  | flushed placed hold =>
    obtain ⟨meets, fits⟩ := sound.calls tid call _ found
    obtain ⟨ps, replayed, each⟩ := sound.placements
    have own : s.flushedRow tid = some placed := bind_eq_some_iff.mpr ⟨_, found, rfl⟩
    have index : UniqueIndex.Respected LeadRequest.submissionKey (s.db.requests ++ [placed])
      (s.leave tid).flushedRow := sound.index.commit own fun _ _ => flushedRow_leave
    have left := sound.leave tid
    refine ⟨⟨ps ++ [⟨placed, hold, call.now⟩], ?_, fun p inside => ?_⟩, index, left.calls, fun a given => ?_⟩
    · rw [foldl_append, ← replayed]
      rfl
    · rcases mem_append.mp inside with before | here
      · exact each p before
      cases mem_singleton.mp here
      exact ⟨call, meets, fits⟩
    rcases mem_append.mp given with before | here
    · obtain ⟨called, r, member, named⟩ := sound.answers a before
      exact ⟨called, r, mem_append_left _ member, named⟩
    · cases mem_singleton.mp here
      exact ⟨⟨call, meets, rfl⟩, placed, mem_append_right _ mem_cons_self, fits.key, rfl⟩
  | looking => exact sound
  | waiting draft => exact sound
  | locked draft => exact sound
  | unclaimed draft => exact sound
  | prepared placed hold => exact sound
  | refused => exact sound

def SubmitOp.Starts (P : SubmitCall → Prop) : SubmitOp → Prop
  | .start _ call => P call
  | _ => True

instance (P : SubmitCall → Prop) [DecidablePred P] (op : SubmitOp) : Decidable (op.Starts P) := by
  unfold SubmitOp.Starts
  split <;> infer_instance

theorem SubmissionStore.Sound.step (s : SubmissionStore) (op : SubmitOp) (starts : op.Starts P)
    (sound : s.Sound P start) : (submitStep casing s op).Sound P start := by
  cases op with
  | start tid call =>
    dsimp only [submitStep]
    split
    · exact sound
    · exact sound.put starts trivial rfl
  | proceed tid =>
    dsimp only [submitStep]
    cases found : get? tid s.inFlight with
    | none => exact sound
    | some entry => exact sound.proceed found
  | commit tid =>
    dsimp only [submitStep]
    cases found : get? tid s.inFlight with
    | none => exact sound
    | some entry => exact sound.commit found
  | abort tid =>
    dsimp only [submitStep]
    cases get? tid s.inFlight with
    | none => exact sound
    | some entry => exact sound.leave tid

theorem SubmissionStore.sound_idle
    (index : UniqueIndex.Holds LeadRequest.submissionKey start.requests) : Sound P start { db := start } :=
  ⟨⟨[], rfl, fun _ none => (nomatch none)⟩,
    ⟨index, fun _ _ _ none => (nomatch none), fun _ _ _ _ _ none => (nomatch none)⟩,
    fun _ _ _ none => (nomatch none), fun _ none => (nomatch none)⟩

end

/-- What the placement takes from a Customer's available balance. -/
def Placement.heldFor (customerId : Nat) : Int :=
  p.hold.elim 0 fun h => if h.customerId = customerId then h.amountCents else 0

theorem availableCents_commit (active : ∀ h ∈ p.hold, h.status = .active) (customerId : Nat) :
    availableCents (Placement.commit db p) customerId =
    availableCents db customerId - p.heldFor customerId := by
  obtain ⟨request, hold, now⟩ := p
  cases hold with
  | none =>
    change balanceCents db customerId - sumWhere _ _ (db.holds ++ []) = availableCents db customerId - 0
    rw [append_nil, sub_zero]
    rfl
  | some h =>
  change balanceCents db customerId - sumWhere _ _ (db.holds ++ [h]) =
    availableCents db customerId - if h.customerId = customerId then h.amountCents else 0
  rw [Rows.sumWhere_append_one]
  unfold availableCents activeHoldsCents share
  simp only [active h rfl, and_true, decide_eq_true_eq]
  exact (sub_sub _ _ _).symm

theorem requests_replayed (start : Db) (ps : List Placement) :
    (ps.foldl Placement.commit start).requests = start.requests ++ ps.map Placement.request := by
  induction ps generalizing start with
  | nil => exact (append_nil _).symm
  | cons p ps ih =>
    rw [foldl_cons, ih, map_cons]
    exact append_assoc _ [p.request] _

/-- However many calls of one user run with one key and however they interleave:
every call that is answered is answered with the one Batch Request of the key, and
the calls together write that request with its hold and notice, or nothing. -/
theorem submissions_idempotent (casing : Casing) {db : Db}
    (index : UniqueIndex.Holds LeadRequest.submissionKey db.requests) {key : Uuid × String}
    {ops : List SubmitOp}
    (calls : ∀ op ∈ ops, op.Starts (fun call => call.key = key)) :
    let s := run (submitStep casing) { db } ops
    (∀ a ∈ s.answers, ∃ r, s.db.requests.filter (fun r => decide (r.submissionKey = some key)) =
      [r] ∧ r.id = a.requestId) ∧
      (s.db = db ∨ ∃ p : Placement, s.db = Placement.commit db p ∧
        p.request.submissionKey = some key ∧ key ∉ db.requests.filterMap LeadRequest.submissionKey ∧
        (∀ h ∈ p.hold, h.requestId = p.request.id) ∧ ∀ customerId, availableCents s.db customerId =
        availableCents db customerId - p.heldFor customerId) := by
  intro s
  have sound : s.Sound (fun call => call.key = key) db :=
    run_invariant_of_meets SubmissionStore.Sound.step (SubmissionStore.sound_idle index)
      (Runs.meets_of_forall calls)
  obtain ⟨ps, replayed, placed⟩ := sound.placements
  refine ⟨fun a given => ?_, ?_⟩
  · obtain ⟨⟨call, named, same⟩, r, member, keyed, answered⟩ := sound.answers a given
    refine ⟨r, sound.index.committed.filter_eq member ?_, answered⟩
    rw [keyed, ← same, named]
  have keyed : ∀ r ∈ ps.map Placement.request, r.submissionKey = some key := by
    intro r member
    obtain ⟨p, inside, rfl⟩ := mem_map.mp member
    obtain ⟨call, named, fits⟩ := placed p inside
    rw [fits.key, named]
  have committed := sound.index.committed
  rw [replayed, requests_replayed] at committed
  rcases committed.added keyed with none | ⟨r, one, unclaimed⟩
  · cases List.map_eq_nil_iff.mp none
    exact .inl replayed
  obtain ⟨p, rfl, rfl⟩ := List.map_eq_singleton_iff.mp one
  obtain ⟨call, named, fits⟩ := placed p mem_cons_self
  refine .inr ⟨p, replayed, fits.key.trans (congrArg some named), unclaimed, fits.request,
    fun customerId => ?_⟩
  rw [replayed]
  exact availableCents_commit db p fits.active customerId

def twoCustomers : Db :=
  { customers := [{ billedCustomer with licensedStates := ["FL"] }, { id := 2, licensedStates := ["FL"] }]
    ledger := [fiveDollars] }

def mappedCall (customerId : Nat) (expectedLeadRate : Option Int) (requestId holdId : Uuid) : SubmitCall :=
  { userId := 9
    profile := { userId := 9, email := "login@x.io", licensedStates := ["FL"], customerId := some customerId
                 mappingConfirmedAt := some 0 }
    payload :=
      { leadCount := 100, expectedLeadRate, leadCountRange := by decide, idempotencyKey := "flow-0001" }
    fresh := { requestId, holdId }
    now := 3 }

/-- Three calls look at once. The second goes by another Customer, so it gets as far as the flush;
the third waits. -/
def contestedKey : List SubmitOp :=
  [.start 1 (mappedCall 1 (some 1000) 11 21), .start 2 (mappedCall 2 none 12 22), .start 3
    (mappedCall 1 (some 1000) 13 23),
    .proceed 1, .proceed 2, .proceed 3, .proceed 1, .proceed 2, .proceed 3, .proceed 1, .proceed 2,
      .proceed 1, .proceed 2,
    .proceed 1, .proceed 2, .commit 1, .proceed 2, .proceed 2, .proceed 3, .proceed 3]

theorem submissions_idempotent_contested :
    let after := run (submitStep plainCasing) { db := twoCustomers } contestedKey
    after.answers =
        [⟨(9, "flow-0001"), 11, true⟩, ⟨(9, "flow-0001"), 11, false⟩, ⟨(9, "flow-0001"), 11, false⟩] ∧
      after.db.holds.map BatchHold.requestId = [11] ∧
      ∃ p : Placement, after.db = Placement.commit twoCustomers p ∧ ∀ customerId,
        availableCents after.db customerId =
        availableCents twoCustomers customerId - p.heldFor customerId := by
  intro after
  have index : UniqueIndex.Holds LeadRequest.submissionKey twoCustomers.requests := nodup_nil
  have calls : ∀ op ∈ contestedKey, op.Starts (fun call => call.key = (9, "flow-0001")) := by decide +kernel
  refine ⟨by decide +kernel, by decide +kernel, ?_⟩
  rcases (submissions_idempotent plainCasing index calls).2 with unchanged | ⟨p, written, _, _, _, available⟩
  · have holds := congrArg (fun db : Db => db.holds.length) unchanged
    exact absurd holds (by decide +kernel)
  · exact ⟨p, written, available⟩

end Jawnix
