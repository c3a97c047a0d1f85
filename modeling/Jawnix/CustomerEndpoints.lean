import Jawnix.CustomerLinks
import Jawnix.Feedback
import Jawnix.LicensedStates

/-!
# The Customer's endpoints

The endpoints of `api.py` under `/api/me`, called with the session of a login. All
but the registration status and the older withdrawal cross
`_current_customer_profile`; what they show and change is then confined to the
Customer of the profile.
-/
namespace Jawnix

/-- The records an answer is made from; `wallets` are the Customers whose wallet it shows, `changes`
the requests a stream names. -/
structure Disclosure where
  requests : List LeadRequest := []
  changes : List Uuid := []
  artifacts : List BatchArtifact := []
  events : List DistributionEvent := []
  exclusionLists : List ExclusionList := []
  wallets : List Nat := []
  licensedStates : List String := []

/-- `decimal` is `\d` of the phone pattern, `digit` is `str.isdigit`, `icontains` the database's
case-insensitive `LIKE`. -/
structure PortalEnv where
  party : PartyEnv
  digests : ReviewDigests
  decimal : Char → Bool := Char.isDigit
  digit : Char → Bool := Char.isDigit
  casefold : String → String := id
  icontains : String → String → Bool
  billingEnabled : Bool := false

def endpointFault : Fault → Fault
  | .submission detail statusCode | .billing detail statusCode => .http statusCode detail
  | .stale detail => .http 409 detail
  | .review detail => .http 422 detail
  | .lookup detail => .http 404 detail
  | fault => fault

section
variable (env : PortalEnv) (db : Db) (x : Uuid) (profile : CustomerProfile) (requestId : Uuid)
  (eventId : Nat)

/-! ## Requests -/

def submittedLater (a b : LeadRequest) : Prop :=
    b.createdAt < a.createdAt ∨ (b.createdAt = a.createdAt ∧ b.id ≤ a.id)
  deriving Decidable

def requestHistory : List LeadRequest :=
  (db.requests.filter (requestHistoryScope profile x)).insertionSort submittedLater

def requestDetails (requests : List LeadRequest) : Disclosure :=
  { requests, artifacts := requests.filterMap (fun r => db.artifact? r.id) }

def listMyRequests : Except Fault (Db × Disclosure) := .ok (db, { requests := requestHistory db x profile })
def buildRequestWorkspace : Disclosure := requestDetails db ((requestHistory db x profile).take 20)
def buildCustomerOverview : Disclosure := requestDetails db (requestHistory db x profile)

def customerBatchRequestDetail : Except Fault (Db × Disclosure) :=
  match db.requests.find? (fun r => r.id = requestId && requestHistoryScope profile x r) with
  | none => .error (.http 404 "Request was not found.")
  | some item => .ok (db, requestDetails db [item])

/-- `submit_batch_request`. The request it answers with is the one under the submission key. -/
def submitBatchRequest (payload : CustomerRequestCreate) (fresh : NewRequest) (now : Instant) :
    Except Fault (Db × Disclosure) := do
  let (after, _) ← (submitRequest env.party.casing db x profile payload fresh now).mapError endpointFault
  .ok (after, requestDetails after (existingSubmission after x payload.idempotencyKey).toList)

def createBatchRequest (payload : RequestCreate) (fresh : NewRequest) (now : Instant) :
    Except Fault (Db × Disclosure) := do
  let (after, _) ← createRequest env.party.casing db x (some profile) payload fresh now
  .ok (after, { requests := (after.request? fresh.requestId).toList })

def cancelBatchRequest (now : Instant) : Except Fault (Db × Disclosure) := do
  let after ← (cancelRequest db x requestId "Canceled by customer." now).mapError endpointFault
  .ok (after, requestDetails after (after.request? requestId).toList)

def artifactAvailable (artifact : BatchArtifact) (now : Instant) : Bool :=
  db.files.any (fun f => f.path = artifact.path) && artifact.expiresAt.any fun expiry => now < expiry

def downloadBatchArtifact (now : Instant) : Except Fault (Db × Disclosure) :=
  match db.requests.find? (fun r =>
    r.id = requestId && profile.customerId = some r.customerId && r.status = .delivered) with
  | none => .error (.http 404 "Batch Artifact was not found.")
  | some item =>
    match db.artifact? item.id with
    | none => .error (.http 404 "Batch Artifact was not found.")
    | some artifact =>
      if artifactAvailable db artifact now then .ok (db, { artifacts := [artifact] })
      else .error (.http 410 "Batch Artifact has expired. Contact Jawnix to regenerate it.")

/-! ## Exclusion Lists -/

def exclusionTypes : List String := ["mixed", "landline", "dnc", "tcpa_litigator"]

inductive StoredUpload where
  | stored | tooLarge | unavailable

def uploadCustomerExclusionList (exclusionType filename : String) (upload : StoredUpload)
    (id : Uuid) (now : Instant) : Except Fault (Db × Disclosure) :=
  match profile.customerId with
  | none => .error (.http 404 "Customer was not found.")
  | some customerId =>
    if env.casefold (strip exclusionType) ∉ exclusionTypes then
      .error (.http 422 "Unknown Exclusion List type.")
    else if filename = "" ∨ ".csv".toList.isSuffixOf (env.casefold filename).toList = false then
      .error (.http 422 "Upload a CSV file.")
    else if id ∈ db.exclusionLists.map ExclusionList.id then .error (.integrity "exclusion_lists_pkey")
    else
      match upload with
      | .tooLarge => .error (.http 413 "CSV uploads must be 10 MB or smaller.")
      | .unavailable => .error (.http 503 "The Exclusion List could not be stored.")
      | .stored =>
        let item : ExclusionList := { id, customerId := some customerId }
        .ok (enqueueJob { db with exclusionLists := db.exclusionLists ++ [item] }
          (.other "ingest_exclusion_list") none
          (.upload id) now, { exclusionLists := [item] })

def listCustomerExclusionLists : Except Fault (Db × Disclosure) :=
  match profile.customerId with
  | none => .error (.http 404 "Customer was not found.")
  | some customerId =>
    .ok (db, { exclusionLists := db.exclusionLists.filter (fun l => l.customerId = some customerId) })

def customerExclusionListStatus (id : Uuid) : Except Fault (Db × Disclosure) :=
  match profile.customerId with
  | none => .error (.http 404 "Customer was not found.")
  | some customerId =>
    match db.exclusionLists.find? (fun l => l.id = id && l.customerId = some customerId) with
    | none => .error (.http 404 "Exclusion List was not found.")
    | some item => .ok (db, { exclusionLists := [item] })

/-! ## Wallet -/

def getMyBilling : Except Fault (Db × Disclosure) :=
  match profile.customerId.bind db.customer? with
  | none => .error (.http 404 "Customer was not found.")
  | some customer => .ok (db, { wallets := [customer.id] })

def createCreditPurchase (amountDollars : Int) (id : Uuid)
    (checkout : Except String CheckoutSession) (now : Instant) : Except Fault (Db × Disclosure) :=
  match profile.customerId.bind db.customer? with
  | none => .error (.http 404 "Customer was not found.")
  | some customer => do
    let after ← (startCreditPurchase db customer amountDollars id checkout now).mapError endpointFault
    .ok (after, { wallets := [customer.id] })

/-! ## Profile and Licensed States -/

structure ProfileUpdate where
  firstName : String := ""
  lastName : String := ""
  phone : String := ""
  licensedStates : List String

def updateProfile (payload : ProfileUpdate) : Except Fault (Db × Disclosure) := do
  let previous ← normalizeStates env.party.casing profile.licensedStates
  let next ← normalizeStates env.party.casing payload.licensedStates
  if next ≠ previous then
    .error (.http 409 ("Licensed State changes require an impact review. " ++
      "Use Account to review and confirm them."))
  else
    .ok (db.setProfile x (fun p =>
      { p with
        firstName := strip payload.firstName, lastName := strip payload.lastName
        phone := strip payload.phone }), { licensedStates := profile.licensedStates })

/-- `preview_licensed_state_changes`, whose impacts are on requests still unallocated. -/
def previewLicensedStateChanges (states : List String) (expectedVersion : String) :
    Except Fault (Db × Disclosure) := do
  let claims ← (preview env.party.casing env.digests db x profile states expectedVersion).mapError
    endpointFault
  .ok (db,
    { requests := profile.customerId.elim [] (reviewedRequests db),
      licensedStates := claims.proposedStates })

def applyLicensedStateChanges (claims : ReviewClaims) (now : Instant) : Except Fault (Db × Disclosure) := do
  let after ← (applyReview env.party.casing env.digests db x claims now).mapError endpointFault
  .ok (after, { buildCustomerOverview after x profile with licensedStates := claims.proposedStates })

/-! ## Feedback -/

def latestFirst (a b : DistributionEvent) : Prop :=
    b.deliveredAt < a.deliveredAt ∨ (b.deliveredAt = a.deliveredAt ∧ b.id ≤ a.id)
  deriving Decidable

def lookupFeedback (phone : String) : Except Fault (Db × Disclosure) :=
  match profile.customerId, normalizePhone env.decimal phone with
  | some customerId, some phone =>
    match ((db.events.filter fun e => e.customerId = some customerId && e.phone = phone).insertionSort
        latestFirst).head? with
    | none => .error (.http 404 "No delivered Lead found.")
    | some event => .ok (db, { events := [event] })
  | _, _ => .error (.http 404 "No delivered Lead found.")

def searchFeedback (query : String) : Except Fault (Db × Disclosure) :=
  match profile.customerId with
  | none => .ok (db, {})
  | some customerId =>
    let digits := query.toList.filter env.digit
    let matching := db.events.filter (fun e => e.customerId = some customerId &&
      db.requests.any (fun r =>
        e.requestId = some r.id && r.customerId = customerId && r.status = .delivered) &&
      (env.icontains e.title query || (digits ≠ [] && digits <:+: e.phone.toList)))
    .ok (db, { events := (matching.insertionSort latestFirst).take 20 })

def listDispositions : Except Fault (Db × Disclosure) := do
  let (_, event) ← customerFeedbackDistribution db x eventId
  .ok (db, { events := [event] })

def listOutcomes : Except Fault (Db × Disclosure) := do
  let (_, event) ← customerDistribution db x eventId
  .ok (db, { events := [event] })

def createLeadReport (reason : ReportReason) (details : String) (id : Uuid) (now : Instant) :
    Except Fault (Db × Disclosure) := do
  let (customerId, event) ← customerDistribution db x eventId
  let after ← insertReport db
    { id, distributionEventId := event.id, customerId, reason, details := strip details, createdAt := now }
  .ok (after, { events := [event] })

end

/-! ## Calls -/

/-- A call of an endpoint behind `_current_customer_profile`. Identifiers of new rows, the
provider's answers and the time are inputs. -/
inductive ScreenCall where
  | uploadExclusionList (exclusionType filename : String) (upload : StoredUpload) (id : Uuid) (now : Instant)
  | exclusionList (id : Uuid)
  | exclusionLists
  | profile
  | billing
  | purchase (amountDollars : Int) (id : Uuid) (checkout : Except String CheckoutSession) (now : Instant)
  | licensedStates
  | previewStates (states : List String) (expectedVersion : String)
  | applyStates (claims : ReviewClaims) (now : Instant)
  | overview
  | workspace
  | detail (requestId : Uuid)
  | submit (payload : CustomerRequestCreate) (fresh : NewRequest) (now : Instant)
  | cancel (requestId : Uuid) (now : Instant)
  | artifact (requestId : Uuid) (now : Instant)
  | updateProfile (payload : ProfileUpdate)
  | requests
  | lookupFeedback (phone : String)
  | searchFeedback (query : String)
  | dispositions (eventId : Nat)
  | feedback (payload : FeedbackCreate) (ids : FeedbackIds) (now : Instant)
  | outcomes (eventId : Nat)
  | outcome (eventId : Nat) (payload : OutcomeCreate) (id : Uuid) (now : Instant)
  | report (eventId : Nat) (reason : ReportReason) (details : String) (id : Uuid) (now : Instant)
  | create (payload : RequestCreate) (fresh : NewRequest) (now : Instant)

def ScreenCall.serve (env : PortalEnv) (db : Db) (x : Uuid) (profile : CustomerProfile) :
    ScreenCall → Except Fault (Db × Disclosure)
  | .uploadExclusionList exclusionType filename upload id now =>
    uploadCustomerExclusionList env db profile exclusionType filename upload id now
  | .exclusionList id => customerExclusionListStatus db profile id
  | .exclusionLists => listCustomerExclusionLists db profile
  | .profile | .licensedStates => .ok (db, { licensedStates := profile.licensedStates })
  | .billing => getMyBilling db profile
  | .purchase amountDollars id checkout now => createCreditPurchase db profile amountDollars id checkout now
  | .previewStates states expectedVersion =>
      previewLicensedStateChanges env db x profile states expectedVersion
  | .applyStates claims now => applyLicensedStateChanges env db x profile claims now
  | .overview => .ok (db, buildCustomerOverview db x profile)
  | .workspace => .ok (db, buildRequestWorkspace db x profile)
  | .detail requestId => customerBatchRequestDetail db x profile requestId
  | .submit payload fresh now => submitBatchRequest env db x profile payload fresh now
  | .cancel requestId now => cancelBatchRequest db x requestId now
  | .artifact requestId now => downloadBatchArtifact db profile requestId now
  | .updateProfile payload => Jawnix.updateProfile env db x profile payload
  | .requests => listMyRequests db x profile
  | .lookupFeedback phone => Jawnix.lookupFeedback env db profile phone
  | .searchFeedback query => Jawnix.searchFeedback env db profile query
  | .dispositions eventId => listDispositions db x eventId
  | .feedback payload ids now => do
    let (_, event) ← customerFeedbackDistribution db x payload.distributionEventId
    let after ← createFeedback db x payload ids now
    .ok (after, { events := [event] })
  | .outcomes eventId => listOutcomes db x eventId
  | .outcome eventId payload id now => do
    let (_, event) ← customerDistribution db x eventId
    let after ← createOutcome db x eventId payload id now
    .ok (after, { events := [event] })
  | .report eventId reason details id now => createLeadReport db x eventId reason details id now
  | .create payload fresh now => createBatchRequest env db x profile payload fresh now

/-- Purchases are refused before the guard where billing is off. -/
def ScreenCall.closed (env : PortalEnv) : ScreenCall → Bool
  | .purchase .. => !env.billingEnabled
  | _ => false

inductive CustomerCall where
  | screen (call : ScreenCall)
  | registration
  | withdraw (requestId : Uuid) (now : Instant)

/-- An endpoint called by a login. `my_registration` and the older `cancel_request` have no
guard. -/
def CustomerCall.run (env : PortalEnv) (db : Db) (x : Uuid) : CustomerCall → Except Fault (Db × Disclosure)
  | .screen call =>
    if call.closed env then .error (.http 503 "Stripe payments are temporarily unavailable.")
    else do
      let profile ← currentCustomerProfile db x
      call.serve env db x profile
  | .registration =>
    .ok (db, (db.registration? x).elim {}
    (fun registration => { licensedStates := registration.licensedStates }))
  | .withdraw requestId now => do
    let after ← (cancelRequest db x requestId "Canceled by customer." now).mapError endpointFault
    .ok (after, {})

/-! ## Confinement -/

def Db.mapped (db : Db) (x : Uuid) : Option Nat := (db.profile? x).bind CustomerProfile.customerId

/-- What a request keeps: its id, who submitted it and whose it is. -/
def LeadRequest.owner (r : LeadRequest) : Uuid × Uuid × Nat := (r.id, r.userId, r.customerId)

def CustomerProfile.link (p : CustomerProfile) : Uuid × Option Nat × Option Instant :=
  (p.userId, p.customerId, p.mappingConfirmedAt)

@[mk_iff]
structure SameLinks (db after : Db) : Prop where
  customers : after.customers.map Customer.id = db.customers.map Customer.id
  accounts : after.userAccounts = db.userAccounts
  invitations : after.invitations = db.invitations
  profiles : after.profiles.map CustomerProfile.link = db.profiles.map CustomerProfile.link

/-- A change of requests in scope, or one more request. -/
inductive RequestsMove (scope : LeadRequest → Bool) (may : LeadRequest → Prop)
    (before after : List LeadRequest) : Prop
  | changed (f : LeadRequest → LeadRequest) (owner : ∀ r, (f r).owner = r.owner)
      (others : ∀ r ∈ before, scope r = false → f r = r) (rows : after = before.map f)
  | placed (r : LeadRequest) (allowed : may r) (fresh : r.id ∉ before.map LeadRequest.id)
      (rows : after = before ++ [r])

/-- A new request is the login's own, for a Customer to which its mapping is confirmed. -/
def MayPlace (db : Db) (x : Uuid) (r : LeadRequest) : Prop :=
  r.userId = x ∧ withdrawalScope db x r ∧ db.Has (.confirmed x r.customerId)

/-- The answer holds requests in scope, or the one replayed, and other records of the Customer
mapped to. -/
structure Discloses (db : Db) (x : Uuid) (replayed : Option LeadRequest) (after : Db)
    (answer : Disclosure) : Prop where
  requests : ∀ r ∈ answer.requests, r ∈ after.requests ∧ (withdrawalScope db x r ∨ replayed = some r)
  artifacts : ∀ a ∈ answer.artifacts, ∃ r ∈ after.requests, a.requestId = r.id ∧
    (withdrawalScope db x r ∨ replayed = some r)
  events : ∀ e ∈ answer.events, ∃ c, db.mapped x = some c ∧ e.customerId = some c
  exclusionLists : ∀ l ∈ answer.exclusionLists, ∃ c, db.mapped x = some c ∧ l.customerId = some c
  wallets : ∀ c ∈ answer.wallets, db.mapped x = some c
  changes : answer.changes = []

structure Serves (db : Db) (x : Uuid) (replayed : Option LeadRequest) (after : Db)
    (answer : Disclosure) : Prop where
  shown : Discloses db x replayed after answer
  links : SameLinks db after
  rows : RequestsMove (withdrawalScope db x) (MayPlace db x) db.requests after.requests

def ScreenCall.replays (db : Db) (x : Uuid) : ScreenCall → Option LeadRequest
  | .submit payload .. => existingSubmission db x payload.idempotencyKey
  | _ => none

section
variable {scope : LeadRequest → Bool} {may : LeadRequest → Prop}
  {before mid after : List LeadRequest} {r s : LeadRequest}

theorem owner_id (same : r.owner = s.owner) : r.id = s.id := congrArg Prod.fst same

theorem withdrawalScope_owner {db : Db} {x : Uuid} (same : r.owner = s.owner) :
    withdrawalScope db x r = withdrawalScope db x s := by
  have user : r.userId = s.userId := congrArg (fun owner => owner.2.1) same
  have customer : r.customerId = s.customerId := congrArg (fun owner => owner.2.2) same
  unfold withdrawalScope requestHistoryScope
  rw [user, customer]

theorem RequestsMove.refl (rows : List LeadRequest) : RequestsMove scope may rows rows :=
  .changed id (fun _ => rfl) (fun _ _ _ => rfl) (map_id rows).symm

theorem RequestsMove.keyed (keyed : Keyed LeadRequest.id before)
    (move : RequestsMove scope may before after) : Keyed LeadRequest.id after := by
  cases move with
  | changed f owner others rows =>
    subst rows
    have same : LeadRequest.id ∘ f = LeadRequest.id := funext fun r => owner_id (owner r)
    unfold Keyed
    rw [map_map, same]
    exact keyed
  | placed r allowed fresh rows =>
    subst rows
    exact keyed_append.mpr ⟨keyed, fun s member same => fresh (mem_map.mpr ⟨s, member, same⟩)⟩

theorem RequestsMove.mem (move : RequestsMove scope may before after) (member : r ∈ after) :
    (∃ s ∈ before, r.owner = s.owner ∧ (r = s ∨ scope s)) ∨ may r ∧ r.id ∉ before.map LeadRequest.id := by
  cases move with
  | changed f owner others rows =>
    subst rows
    obtain ⟨s, stored, rfl⟩ := mem_map.mp member
    refine .inl ⟨s, stored, owner s, ?_⟩
    cases inside : scope s with
    | true => exact .inr rfl
    | false => exact .inl (others s stored inside)
  | placed new allowed fresh rows =>
    subst rows
    rcases mem_append.mp member with stored | added
    · exact .inl ⟨r, stored, rfl, .inl rfl⟩
    cases mem_singleton.mp added
    exact .inr ⟨allowed, fresh⟩

theorem RequestsMove.ids (move : RequestsMove scope may before after) {id : Uuid}
    (member : id ∈ before.map LeadRequest.id) : id ∈ after.map LeadRequest.id := by
  obtain ⟨r, stored, rfl⟩ := mem_map.mp member
  cases move with
  | changed f owner others rows =>
    subst rows
    exact mem_map.mpr ⟨f r, mem_map_of_mem stored, owner_id (owner r)⟩
  | placed new allowed fresh rows =>
    subst rows
    exact mem_map.mpr ⟨r, mem_append_left _ stored, rfl⟩

theorem adjust_moves (keyed : Keyed LeadRequest.id before) {item : LeadRequest} (stored : item ∈ before)
    (inside : scope item) {f : LeadRequest → LeadRequest} (owner : ∀ r, (f r).owner = r.owner) :
    RequestsMove scope may before (adjust LeadRequest.id item.id f before) := by
  refine .changed (fun r => if r.id = item.id then f r else r) (fun r => ?_) (fun r member outside => ?_) rfl
  · split
    · exact owner r
    · rfl
  refine if_neg fun same => ?_
  cases eq_of_mem_of_key keyed member stored same
  rw [inside] at outside
  exact absurd outside.symm false_ne_true

theorem SameLinks.refl (db : Db) : SameLinks db db := ⟨rfl, rfl, rfl, rfl⟩

theorem setProfile_links {db : Db} {x : Uuid} {f : CustomerProfile → CustomerProfile}
    (link : ∀ p, (f p).link = p.link) :
    (db.setProfile x f).profiles.map CustomerProfile.link = db.profiles.map CustomerProfile.link :=
  map_adjust_of_preserves CustomerProfile.link fun p _ => link p

end

section
variable {db after : Db} {x : Uuid} {replayed : Option LeadRequest} {requests : List LeadRequest}

theorem requestDetails_discloses
    (each : ∀ r ∈ requests, r ∈ after.requests ∧ (withdrawalScope db x r ∨ replayed = some r)) :
    Discloses db x replayed after (requestDetails after requests) where
  requests := each
  artifacts := by
    intro a member
    obtain ⟨r, listed, found⟩ := mem_filterMap.mp member
    exact ⟨r, (each r listed).1, (lookup_some found).2, (each r listed).2⟩
  events := fun _ member => absurd member not_mem_nil
  exclusionLists := fun _ member => absurd member not_mem_nil
  wallets := fun _ member => absurd member not_mem_nil
  changes := rfl

theorem discloses_of {answer : Disclosure} (artifacts : answer.artifacts = [])
    (changes : answer.changes = [])
    (requests : ∀ r ∈ answer.requests, r ∈ after.requests ∧ (withdrawalScope db x r ∨ replayed = some r))
    (events : ∀ e ∈ answer.events, ∃ c, db.mapped x = some c ∧ e.customerId = some c)
    (exclusionLists : ∀ l ∈ answer.exclusionLists, ∃ c, db.mapped x = some c ∧ l.customerId = some c)
    (wallets : ∀ c ∈ answer.wallets, db.mapped x = some c) : Discloses db x replayed after answer where
  requests := requests
  artifacts := fun _ member => absurd (artifacts ▸ member) not_mem_nil
  events := events
  exclusionLists := exclusionLists
  wallets := wallets
  changes := changes

theorem states_discloses (states : List String) :
    Discloses db x replayed after { licensedStates := states } :=
  discloses_of rfl rfl (fun _ member => absurd member not_mem_nil)
    (fun _ member => absurd member not_mem_nil)
    (fun _ member => absurd member not_mem_nil) fun _ member => absurd member not_mem_nil

theorem requests_discloses {states : List String}
    (each : ∀ r ∈ requests, r ∈ after.requests ∧ (withdrawalScope db x r ∨ replayed = some r)) :
    Discloses db x replayed after { requests := requests, licensedStates := states } :=
  discloses_of rfl rfl each (fun _ member => absurd member not_mem_nil)
    (fun _ member => absurd member not_mem_nil) fun _ member => absurd member not_mem_nil

theorem events_discloses {events : List DistributionEvent}
    (each : ∀ e ∈ events, ∃ c, db.mapped x = some c ∧ e.customerId = some c) :
    Discloses db x replayed after { events := events } :=
  discloses_of rfl rfl (fun _ member => absurd member not_mem_nil) each
    (fun _ member => absurd member not_mem_nil) fun _ member => absurd member not_mem_nil

theorem exclusions_discloses {lists : List ExclusionList}
    (each : ∀ l ∈ lists, ∃ c, db.mapped x = some c ∧ l.customerId = some c) :
    Discloses db x replayed after { exclusionLists := lists } :=
  discloses_of rfl rfl (fun _ member => absurd member not_mem_nil)
    (fun _ member => absurd member not_mem_nil) each fun _ member => absurd member not_mem_nil

theorem wallet_discloses {c : Nat} (mapped : db.mapped x = some c) :
    Discloses db x replayed after { wallets := [c] } :=
  discloses_of rfl rfl (fun _ member => absurd member not_mem_nil)
    (fun _ member => absurd member not_mem_nil)
    (fun _ member => absurd member not_mem_nil) fun _ member => mem_singleton.mp member ▸ mapped

theorem Discloses.serves {answer : Disclosure} (shown : Discloses db x replayed db answer) :
    Serves db x replayed db answer := ⟨shown, .refl db, .refl _⟩

theorem Discloses.serves_of {answer : Disclosure} (shown : Discloses db x replayed after answer)
    (customers : after.customers = db.customers) (accounts : after.userAccounts = db.userAccounts)
    (invitations : after.invitations = db.invitations) (profiles : after.profiles = db.profiles)
    (requests : after.requests = db.requests) : Serves db x replayed after answer :=
  ⟨shown, ⟨congrArg _ customers, accounts, invitations, congrArg _ profiles⟩, requests ▸ .refl _⟩

end

theorem mapError_ok {α : Type} {f : Fault → Fault} {outcome : Except Fault α} {a : α}
    (done : outcome.mapError f = .ok a) : outcome = .ok a := by
  cases outcome with
  | error fault => cases done
  | ok value => exact done

/-! ### Endpoints behind the guard -/

section
variable {env : PortalEnv} {db after : Db} {x : Uuid} {profile : CustomerProfile}
  {answer : Disclosure} {now : Instant} {replayed : Option LeadRequest} {c eventId : Nat}
  {event : DistributionEvent} {customer : Customer} {requestId : Uuid} {draft : LeadRequest}
  {expected : Option Int} {holdId : Uuid} {fresh : NewRequest} {states : List String}
  {claims : ReviewClaims} {call : ScreenCall}

theorem currentCustomerProfile_ok (guard : currentCustomerProfile db x = .ok profile) :
    db.profile? x = some profile := by
  unfold currentCustomerProfile at guard
  split at guard
  · cases guard
  split at guard
  · cases guard
  split at guard
  · cases guard
  case h_2 found =>
  cases guard
  exact found

theorem withdrawalScope_profile (found : db.profile? x = some profile) (r : LeadRequest) :
    withdrawalScope db x r = requestHistoryScope profile x r := by
  unfold withdrawalScope
  rw [found]

theorem mapped_profile (found : db.profile? x = some profile) : db.mapped x = profile.customerId := by
  unfold Db.mapped
  rw [found, bind_some]

theorem scope_of_mapped (mapped : db.mapped x = some c) {r : LeadRequest} :
    withdrawalScope db x r ↔ r.customerId = c := by
  obtain ⟨profile, found, named⟩ := bind_eq_some_iff.mp mapped
  rw [withdrawalScope_profile found]
  unfold requestHistoryScope
  rw [named]
  exact decide_eq_true_iff

theorem mem_requestHistory (found : db.profile? x = some profile) (r : LeadRequest) :
    r ∈ requestHistory db x profile ↔ r ∈ db.requests ∧ withdrawalScope db x r := by
  unfold requestHistory
  rw [List.mem_insertionSort, mem_filter, withdrawalScope_profile found]

theorem customerDistribution_ok (done : customerDistribution db x eventId = .ok (c, event)) :
    db.mapped x = some c ∧ event.customerId = some c := by
  obtain ⟨profile, guard, rest⟩ := bind_ok done
  split at rest
  · cases rest
  case h_2 customerId mapped =>
  split at rest
  · cases rest
  case h_2 found =>
  cases rest
  refine ⟨(mapped_profile (currentCustomerProfile_ok guard)).trans mapped, ?_⟩
  have chosen := find?_some found
  exact of_decide_eq_true (and_eq_true_iff.mp chosen).2

theorem customerFeedbackDistribution_ok
    (done : customerFeedbackDistribution db x eventId = .ok (c, event)) :
    db.mapped x = some c ∧ event.customerId = some c := by
  unfold customerFeedbackDistribution at done
  split at done
  · cases done
  exact customerDistribution_ok done

theorem event_discloses (own : db.mapped x = some c ∧ event.customerId = some c) :
    Discloses db x replayed after { events := [event] } := by
  refine events_discloses fun e member => ?_
  cases mem_singleton.mp member
  exact ⟨c, own⟩

theorem insertSubmission_placed (done : insertSubmission db draft expected holdId now = .ok after) :
    ∃ placed : LeadRequest, placed.owner = draft.owner ∧ placed.idempotencyKey = draft.idempotencyKey ∧
    db.request? draft.id = none ∧ after.requests = db.requests ++ [placed] ∧ SameLinks db after := by
  obtain ⟨inserted, places, last⟩ := bind_ok done
  cases last
  obtain ⟨absent, placed, hold, rfl, ⟨_, _, _, _, terms⟩, _⟩ := billedSubmission_placed places
  have owner : placed.owner = draft.owner := terms ▸ rfl
  have key : placed.idempotencyKey = draft.idempotencyKey := terms ▸ rfl
  exact ⟨placed, owner, key, absent, rfl, ⟨rfl, rfl, rfl, rfl⟩⟩

section
variable (found : db.profile? x = some profile)
include found

theorem placed_moves (confirmed : profile.mappingConfirmedAt.isSome)
    (mapped : profile.customerId.bind db.customer? = some customer) (user : draft.userId = x)
    (named : draft.customerId = customer.id)
    (done : insertSubmission db draft expected holdId now = .ok after) :
    ∃ placed : LeadRequest, placed.id = draft.id ∧ placed.userId = x ∧
    placed.idempotencyKey = draft.idempotencyKey ∧
    withdrawalScope db x placed ∧ after.requests = db.requests ++ [placed] ∧ db.request? draft.id = none ∧
    SameLinks db after ∧ RequestsMove (withdrawalScope db x) (MayPlace db x) db.requests after.requests := by
  obtain ⟨placed, owner, key, absent, rows, links⟩ := insertSubmission_placed done
  obtain ⟨c, chosen, stored⟩ := bind_eq_some_iff.mp mapped
  have sameId : customer.id = c := (lookup_some stored).2
  have sameUser : placed.userId = draft.userId := congrArg (fun owner => owner.2.1) owner
  have sameCustomer : placed.customerId = draft.customerId := congrArg (fun owner => owner.2.2) owner
  have theirs : placed.customerId = c := sameCustomer.trans (named.trans sameId)
  have inside : withdrawalScope db x placed :=
    (scope_of_mapped ((mapped_profile found).trans chosen)).mpr theirs
  have fresh : placed.id ∉ db.requests.map LeadRequest.id := by
    intro member
    obtain ⟨r, older, same⟩ := mem_map.mp member
    exact lookup_none.mp absent r older (same.trans (owner_id owner))
  have has : db.Has (.confirmed x placed.customerId) :=
    ⟨profile, (lookup_some found).1, (lookup_some found).2, theirs ▸ chosen, confirmed⟩
  exact ⟨placed, owner_id owner, sameUser.trans user, key, inside, rows, absent, links,
    .placed placed ⟨sameUser.trans user, inside, has⟩ fresh rows⟩

theorem submitBatchRequest_serves {payload : CustomerRequestCreate}
    (done : submitBatchRequest env db x profile payload fresh now = .ok (after, answer)) :
    Serves db x (existingSubmission db x payload.idempotencyKey) after answer := by
  obtain ⟨⟨submitted, result⟩, submits, last⟩ := bind_ok done
  cases last
  rcases submitRequest_cases (mapError_ok submits) with
    rfl | ⟨customer, licensed, states, unsubmitted, confirmed, mapped, _, _, inserts⟩
  · refine (requestDetails_discloses fun r member => ?_).serves
    have replays := mem_toList.mp member
    exact ⟨(lookup_some replays).1, .inr replays⟩
  obtain ⟨placed, _, user, key, inside, rows, _, links, moves⟩ :=
    placed_moves found confirmed mapped rfl rfl inserts
  refine ⟨requestDetails_discloses fun r member => ?_, links, moves⟩
  have answered : existingSubmission after x payload.idempotencyKey = some placed := by
    unfold existingSubmission
    rw [rows, lookup_append_new unsubmitted (Prod.ext user key), if_pos rfl]
  cases answered.symm.trans (mem_toList.mp member)
  exact ⟨rows ▸ mem_append_right _ (mem_singleton.mpr rfl), .inl inside⟩

theorem createBatchRequest_serves {payload : RequestCreate}
    (done : createBatchRequest env db x profile payload fresh now = .ok (after, answer)) :
    Serves db x replayed after answer := by
  obtain ⟨⟨created, id⟩, creates, last⟩ := bind_ok done
  cases last
  obtain ⟨p, customer, saved, states, same, confirmed, mapped, _, _, inserts⟩ := createRequest_cases creates
  cases same
  obtain ⟨placed, named, user, _, inside, rows, absent, links, moves⟩ :=
    placed_moves found confirmed mapped rfl rfl inserts
  refine ⟨requests_discloses fun r member => ?_, links, moves⟩
  have answered : after.request? fresh.requestId = some placed := by
    unfold Db.request?
    rw [rows, lookup_append_new absent named]
    exact if_pos rfl
  cases answered.symm.trans (mem_toList.mp member)
  exact ⟨rows ▸ mem_append_right _ (mem_singleton.mpr rfl), .inl inside⟩

end

theorem cancelRequest_moves {message : String} (keyed : Keyed LeadRequest.id db.requests)
    (done : cancelRequest db x requestId message now = .ok after) :
    ∃ item, withdrawalScope db x item ∧ after.request? requestId =
    some (canceledByCustomer message now item) ∧
    SameLinks db after ∧ RequestsMove (withdrawalScope db x) (MayPlace db x) db.requests after.requests := by
  unfold cancelRequest at done
  split at done
  · cases done
  case h_2 item found =>
  obtain ⟨stored, named⟩ := lookup_some found
  obtain ⟨inside, done⟩ := guard_ok done
  split at done
  · cases done
  cases done
  obtain ⟨holds, released⟩ :=
    releaseBatchHold_frame (db.setRequest item.id (canceledByCustomer message now)) item now
  rw [released]
  refine ⟨item, Bool.not_eq_false _ ▸ inside, ?_, ⟨rfl, rfl, rfl, rfl⟩, ?_⟩
  · rw [← named]
    exact lookup_adjust_self (fun _ _ => rfl) (named ▸ found)
  · exact adjust_moves keyed stored (Bool.not_eq_false _ ▸ inside) fun _ => rfl

theorem cancelBatchRequest_serves (keyed : Keyed LeadRequest.id db.requests)
    (done : cancelBatchRequest db x requestId now = .ok (after, answer)) :
    Serves db x replayed after answer := by
  obtain ⟨canceled, cancels, last⟩ := bind_ok done
  cases last
  obtain ⟨item, inside, answered, links, moves⟩ := cancelRequest_moves keyed (mapError_ok cancels)
  refine ⟨requestDetails_discloses fun r member => ?_, links, moves⟩
  have shown := mem_toList.mp member
  cases answered.symm.trans shown
  exact ⟨(lookup_some shown).1, .inl ((withdrawalScope_owner rfl).trans inside)⟩

theorem setLicensedStates_links : SameLinks db (setLicensedStates db profile states) ∧
    (setLicensedStates db profile states).requests = db.requests := by
  unfold setLicensedStates
  split
  · exact ⟨⟨rfl, rfl, rfl, setProfile_links fun _ => rfl⟩, rfl⟩
  · exact ⟨⟨map_adjust_of_preserves Customer.id fun _ _ => rfl, rfl, rfl, setProfile_links fun _ =>
      rfl⟩, rfl⟩

theorem applyReview_moves (keyed : Keyed LeadRequest.id db.requests)
    (done : applyReview env.party.casing env.digests db x claims now = .ok after) :
    SameLinks db after ∧ RequestsMove (withdrawalScope db x) (MayPlace db x) db.requests after.requests := by
  obtain ⟨profile, c, impacts, added, removed, found, mapped, affects, _, rfl⟩ := applyReview_cases done
  have distinct := (affectedRequests_ids affects).nodup (reviewedRequests_nodup keyed c)
  obtain ⟨⟨_, _, _, _, frames⟩, rows⟩ := applyImpacts_rows added removed now db distinct
  have others : ∀ r ∈ db.requests, withdrawalScope db x r = false →
    reviewedBy removed now impacts r = r := by
    intro r stored outside
    rcases reviewedBy_cases removed now impacts r with ⟨_, same⟩ | ⟨impact, member, named, _⟩
    · exact same
    -- the impact is about a request of the Customer mapped to
    obtain ⟨item, reviewed, impacted⟩ := mem_affectedRequests affects member
    obtain ⟨older, owned, _⟩ := mem_reviewedRequests.mp reviewed
    obtain rfl := eq_of_mem_of_key keyed older stored ((impactOf_some impacted).1.symm.trans named)
    cases outside.symm.trans ((scope_of_mapped ((mapped_profile found).trans mapped)).mpr owned)
  rw [frames] at rows ⊢
  obtain ⟨links, requests⟩ :=
    @setLicensedStates_links (impacts.foldl (applyRequestImpact added removed now) db) profile
    claims.proposedStates
  rw [frames] at links requests
  exact ⟨{ links with }, .changed (reviewedBy removed now impacts)
      (fun _ => Prod.ext reviewedBy_owner.1 (Prod.ext reviewedBy_owner.2.1 reviewedBy_owner.2.2))
        others (requests.trans rows)⟩

theorem applyLicensedStateChanges_serves (keyed : Keyed LeadRequest.id db.requests)
    (found : db.profile? x = some profile)
    (done : applyLicensedStateChanges env db x profile claims now = .ok (after, answer)) :
    Serves db x replayed after answer := by
  obtain ⟨applied, applies, last⟩ := bind_ok done
  cases last
  obtain ⟨links, moves⟩ := applyReview_moves keyed (mapError_ok applies)
  have shown : Discloses db x replayed after (buildCustomerOverview after x profile) := by
    refine requestDetails_discloses fun r member => ?_
    unfold requestHistory at member
    rw [List.mem_insertionSort, mem_filter, ← withdrawalScope_profile found] at member
    exact ⟨member.1, .inl member.2⟩
  exact ⟨⟨shown.requests, shown.artifacts, shown.events, shown.exclusionLists, shown.wallets, rfl⟩,
    links, moves⟩

section
variable (found : db.profile? x = some profile)
include found

theorem previewLicensedStateChanges_serves {expectedVersion : String}
    (done : previewLicensedStateChanges env db x profile states expectedVersion = .ok (after, answer)) :
    Serves db x replayed after answer := by
  obtain ⟨claims, _, last⟩ := bind_ok done
  cases last
  refine (requests_discloses fun r member => ?_).serves
  cases mapped : profile.customerId with
  | none =>
    rw [mapped] at member
    cases member
  | some c =>
    rw [mapped, Option.elim_some, reviewedRequests, List.mem_insertionSort, mem_filter, and_eq_true,
      decide_eq_true_eq] at member
    exact ⟨member.1, .inl ((scope_of_mapped ((mapped_profile found).trans mapped)).mpr member.2.1)⟩

theorem uploadCustomerExclusionList_serves {exclusionType filename : String} {upload : StoredUpload}
    {id : Uuid}
    (done : uploadCustomerExclusionList env db profile exclusionType filename upload id now =
      .ok (after, answer)) :
    Serves db x replayed after answer := by
  unfold uploadCustomerExclusionList at done
  split at done
  · cases done
  case h_2 c mapped =>
  split at done
  · cases done
  split at done
  · cases done
  split at done
  · cases done
  split at done
  · cases done
  · cases done
  cases done
  refine (exclusions_discloses fun l member => ?_).serves_of rfl rfl rfl rfl rfl
  cases mem_singleton.mp member
  exact ⟨c, (mapped_profile found).trans mapped, rfl⟩

theorem exclusionList_serves {id : Uuid}
    (done : customerExclusionListStatus db profile id = .ok (after, answer)) :
    Serves db x replayed after answer := by
  unfold customerExclusionListStatus at done
  split at done
  · cases done
  case h_2 c mapped =>
  split at done
  · cases done
  case h_2 item stored =>
  cases done
  refine (exclusions_discloses fun l member => ?_).serves
  cases mem_singleton.mp member
  have chosen := find?_some stored
  exact ⟨c, (mapped_profile found).trans mapped, of_decide_eq_true (and_eq_true_iff.mp chosen).2⟩

theorem mapped_customer (stored : profile.customerId.bind db.customer? = some customer) :
    db.mapped x = some customer.id := by
  obtain ⟨c, chosen, row⟩ := bind_eq_some_iff.mp stored
  rw [mapped_profile found, chosen, (lookup_some row).2]

theorem billing_serves (done : getMyBilling db profile = .ok (after, answer)) :
    Serves db x replayed after answer := by
  unfold getMyBilling at done
  split at done
  · cases done
  case h_2 customer stored =>
  cases done
  exact (wallet_discloses (mapped_customer found stored)).serves

theorem artifact_serves
    (done : downloadBatchArtifact db profile requestId now = .ok (after, answer)) :
    Serves db x replayed after answer := by
  unfold downloadBatchArtifact at done
  split at done
  · cases done
  case h_2 item stored =>
  split at done
  · cases done
  case h_2 artifact filed =>
  split at done
  · cases done
    have chosen := find?_some stored
    have mapped : profile.customerId = some item.customerId :=
      of_decide_eq_true (and_eq_true_iff.mp (and_eq_true_iff.mp chosen).1).2
    have inside : withdrawalScope db x item :=
      (scope_of_mapped ((mapped_profile found).trans mapped)).mpr rfl
    refine Discloses.serves ⟨?_, fun a member => ?_, ?_, ?_, ?_, rfl⟩
    · exact fun _ member => absurd member not_mem_nil
    · cases mem_singleton.mp member
      exact ⟨item, mem_of_find?_eq_some stored, (lookup_some filed).2, .inl inside⟩
    · exact fun _ member => absurd member not_mem_nil
    · exact fun _ member => absurd member not_mem_nil
    · exact fun _ member => absurd member not_mem_nil
  · cases done

theorem lookupFeedback_serves {phone : String}
    (done : lookupFeedback env db profile phone = .ok (after, answer)) :
    Serves db x replayed after answer := by
  unfold lookupFeedback at done
  split at done
  case h_1 c normal mapped _ =>
    split at done
    · cases done
    case h_2 event first =>
    cases done
    have listed := mem_filter.mp ((List.mem_insertionSort _).mp (List.mem_of_mem_head? first))
    have theirs : event.customerId = some c := of_decide_eq_true (and_eq_true_iff.mp listed.2).1
    exact (event_discloses ⟨(mapped_profile found).trans mapped, theirs⟩).serves
  · cases done

theorem searchFeedback_serves {query : String}
    (done : searchFeedback env db profile query = .ok (after, answer)) :
    Serves db x replayed after answer := by
  unfold searchFeedback at done
  split at done
  · cases done
    exact (states_discloses []).serves
  case h_2 c mapped =>
  cases done
  refine (events_discloses fun e member => ?_).serves
  have listed := mem_filter.mp ((List.mem_insertionSort _).mp (List.mem_of_mem_take member))
  have theirs : e.customerId = some c :=
    of_decide_eq_true (and_eq_true_iff.mp (and_eq_true_iff.mp listed.2).1).1
  exact ⟨c, (mapped_profile found).trans mapped, theirs⟩

end

theorem serve_serves (keyed : Keyed LeadRequest.id db.requests)
    (guard : currentCustomerProfile db x = .ok profile)
    (done : call.serve env db x profile = .ok (after, answer)) :
    Serves db x (call.replays db x) after answer := by
  have found := currentCustomerProfile_ok guard
  cases call with
  | uploadExclusionList => exact uploadCustomerExclusionList_serves found done
  | exclusionList => exact exclusionList_serves found done
  | exclusionLists =>
    dsimp only [ScreenCall.serve, listCustomerExclusionLists] at done
    split at done
    · cases done
    case h_2 c mapped =>
    cases done
    refine (exclusions_discloses fun l member => ?_).serves
    exact ⟨c, (mapped_profile found).trans mapped, of_decide_eq_true (mem_filter.mp member).2⟩
  | profile | licensedStates =>
    cases done
    exact (states_discloses _).serves
  | billing => exact billing_serves found done
  | purchase =>
    dsimp only [ScreenCall.serve, createCreditPurchase] at done
    split at done
    · cases done
    case h_2 customer stored =>
    obtain ⟨bought, buys, last⟩ := bind_ok done
    cases last
    have started := mapError_ok buys
    unfold startCreditPurchase at started
    split at started
    · cases started
    split at started
    · cases started
    split at started
    · cases started
    unfold insertPurchase at started
    split at started
    · cases started
      exact (wallet_discloses (mapped_customer found stored)).serves_of rfl rfl rfl rfl rfl
    · cases started
    · cases started
  | previewStates => exact previewLicensedStateChanges_serves found done
  | applyStates => exact applyLicensedStateChanges_serves keyed found done
  | overview =>
    cases done
    exact (requestDetails_discloses fun r member =>
      ((mem_requestHistory found r).mp member).imp_right .inl).serves
  | workspace =>
    cases done
    refine (requestDetails_discloses fun r member => ?_).serves
    exact ((mem_requestHistory found r).mp (List.mem_of_mem_take member)).imp_right .inl
  | detail =>
    dsimp only [ScreenCall.serve, customerBatchRequestDetail] at done
    split at done
    · cases done
    case h_2 item stored =>
    cases done
    refine (requestDetails_discloses fun r member => ?_).serves
    cases mem_singleton.mp member
    have chosen := find?_some stored
    refine ⟨mem_of_find?_eq_some stored, .inl ?_⟩
    rw [withdrawalScope_profile found]
    exact (and_eq_true_iff.mp chosen).2
  | submit => exact submitBatchRequest_serves found done
  | cancel => exact cancelBatchRequest_serves keyed done
  | artifact => exact artifact_serves found done
  | updateProfile =>
    obtain ⟨previous, _, rest⟩ := bind_ok done
    obtain ⟨next, _, rest⟩ := bind_ok rest
    split at rest
    · cases rest
    cases rest
    exact ⟨states_discloses _, ⟨rfl, rfl, rfl, setProfile_links fun _ => rfl⟩, .refl _⟩
  | requests =>
    cases done
    exact (requests_discloses fun r member => ((mem_requestHistory found r).mp member).imp_right .inl).serves
  | lookupFeedback => exact lookupFeedback_serves found done
  | searchFeedback => exact searchFeedback_serves found done
  | dispositions =>
    obtain ⟨⟨c, event⟩, own, last⟩ := bind_ok done
    cases last
    exact (event_discloses (customerFeedbackDistribution_ok own)).serves
  | feedback =>
    obtain ⟨⟨c, event⟩, own, rest⟩ := bind_ok done
    obtain ⟨recorded, records, last⟩ := bind_ok rest
    cases last
    obtain ⟨_, _, _, _, _, rfl⟩ := createFeedback_frame records
    exact (event_discloses (customerFeedbackDistribution_ok own)).serves_of rfl rfl rfl rfl rfl
  | outcomes =>
    obtain ⟨⟨c, event⟩, own, last⟩ := bind_ok done
    cases last
    exact (event_discloses (customerDistribution_ok own)).serves
  | outcome =>
    obtain ⟨⟨c, event⟩, own, rest⟩ := bind_ok done
    obtain ⟨recorded, records, last⟩ := bind_ok rest
    cases last
    obtain ⟨_, _, rest⟩ := bind_ok records
    obtain ⟨outcome, _, inserts⟩ := bind_ok rest
    obtain ⟨_, rfl⟩ := insertOutcome_frame inserts
    exact (event_discloses (customerDistribution_ok own)).serves_of rfl rfl rfl rfl rfl
  | report =>
    obtain ⟨⟨c, event⟩, own, rest⟩ := bind_ok done
    obtain ⟨filed, files, last⟩ := bind_ok rest
    cases last
    obtain ⟨reports, rfl⟩ := insertReport_frame files
    exact (event_discloses (customerDistribution_ok own)).serves_of rfl rfl rfl rfl rfl
  | create => exact createBatchRequest_serves found done

theorem screen_ok (done : (CustomerCall.screen call).run env db x = .ok (after, answer)) :
    ∃ profile, currentCustomerProfile db x = .ok profile ∧
    call.serve env db x profile = .ok (after, answer) := by
  change (if call.closed env then .error (.http 503 "Stripe payments are temporarily unavailable.") else
    currentCustomerProfile db x >>= fun profile => call.serve env db x profile) = .ok (after, answer) at done
  split at done
  · cases done
  exact bind_ok done

end

end Jawnix
