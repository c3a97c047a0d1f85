import Jawnix.AccountAccess
import Jawnix.AgencyHistory
import Jawnix.Clock

/-!
# The lifecycle of a Customer

The endpoints of `api.py` that create, map, archive, erase and restore Customers,
sign-in (`create_session`) for the customer role, and `customer_registration.py`,
each one transaction. What the provider answers, the values of identity columns and
random keys are inputs.
-/
namespace Jawnix

/-! ## Names -/

def slugChar (c : Char) : Bool := ('a' ≤ c && c ≤ 'z') || ('0' ≤ c && c ≤ '9')

/-- `re.sub(r"[^a-z0-9]+", "-", text)` -/
def hyphenate : List Char → List Char
  | [] => []
  | c :: rest =>
    let done := hyphenate rest
    if slugChar c then c :: done else if done.head? = some '-' then done else '-' :: done

def slugText (text : String) : String :=
  let bare := (hyphenate text.toList).dropWhile (· == '-')
  ofList (bare.reverse.dropWhile (· == '-')).reverse

example : slugText "noah & co." = "noah-co" := by decide +kernel

/-- The order in which a set of texts is iterated over. -/
structure SetOrder where
  order : List String → List String
  perm : ∀ values, (order values).Perm values.dedup

def SetOrder.plain : SetOrder := ⟨List.dedup, fun _ => .refl _⟩

/-- `remember_customer_name`: the latest profile with a full name gives it, else the Customer's own
name. -/
def rememberedName (db : Db) (customer : Customer) (updatedAt : Uuid → Instant) : String × String :=
  let named := (db.profiles.filter (fun p =>
    p.customerId = some customer.id && p.firstName ≠ "" && p.lastName ≠ "")).insertionSort
      (fun p q => updatedAt q.userId < updatedAt p.userId ∨
        (updatedAt p.userId = updatedAt q.userId ∧ p.userId ≤ q.userId))
  match named.head? with
  | some profile => (strip profile.firstName, strip profile.lastName)
  | none =>
    let name := (strip customer.name).toList
    (ofList (name.takeWhile (· ≠ ' ')), strip (ofList ((name.dropWhile (· ≠ ' ')).drop 1)))

def rememberCustomerName (db : Db) (customer : Customer) (updatedAt : Uuid → Instant) : Db :=
  let (first, last) := rememberedName db customer updatedAt
  if first = "" ∨ last = "" ∨ 120 < first.length ∨ 120 < last.length then db
  else
    { db with
      historyIdentities := upsert CustomerHistoryIdentity.customerId (fun _ new => new) db.historyIdentities
        { customerId := customer.id, firstName := first, lastName := last } }

def Db.erased (db : Db) (customerId : Nat) : Bool :=
  db.tombstones.any fun t => t.formerCustomerId = customerId

/-- `archived_customer_matches`, as the ids of the matches. -/
def archivedCustomerMatches (db : Db) (firstName lastName : String) : List Nat :=
  let first := strip firstName
  let last := strip lastName
  if first = "" ∨ last = "" then []
  else
    ((db.customers.filter (fun c => c.deletedAt.isSome && !c.active && !db.erased c.id &&
      db.historyIdentities.any (fun i =>
        i.customerId = c.id && i.firstName = first && i.lastName = last))).map Customer.id).insertionSort
      (· ≤ ·)

/-! ## Requests that are open, agencies that are gone -/

def RequestStatus.closed : RequestStatus → Bool
  | .delivered | .rejected | .canceled => true
  | _ => false

def Db.openRequests (db : Db) (customerIds : List Nat) : Nat :=
  (db.requests.filter fun r => r.customerId ∈ customerIds && !r.status.closed).length

def Db.agencyStands (db : Db) (customer : Customer) : Bool :=
  (customer.agencyId.bind db.agency?).all fun a => a.active && a.deletedAt.isNone

def restoredAgency (db : Db) (customer : Customer) : Option Nat :=
  if db.agencyStands customer then customer.agencyId else none

/-! ## New Customers -/

structure BillingDefaults where
  enabled : Bool := false
  db1Rate : Option Int := none
  rateRange : ∀ rate ∈ db1Rate, 100 ≤ rate ∧ rate ≤ 2000 := by first | exact unset_rateRange | decide

/-- `initialize_customer_billing` for a new Customer, who is in DB1. -/
def newCustomer (billing : BillingDefaults) (id : Nat) (slug name historyKey : String)
    (licensedStates : List String) : Customer :=
  match billing.enabled, rate : billing.db1Rate with
  | true, some cents =>
    { id, slug, name, licensedStates, permanentHistoryKey := historyKey, billingEnabled := true
      leadRateCentsPerThousand := some cents
      rateRequired := fun _ => rfl
      rateRange := fun r member => billing.rateRange r (rate ▸ member) }
  | _, _ => { id, slug, name, licensedStates, permanentHistoryKey := historyKey }

structure NewIdentity where
  id : Nat
  historyKey : String := ""

def insertCustomer (db : Db) (customer : Customer) : Except Fault Db :=
  if customer.id ∈ db.customers.map Customer.id then .error (.integrity "agents_pkey")
  else if customer.slug ∈ db.customers.map Customer.slug then .error (.integrity "agents_slug_key")
  else .ok { db with customers := db.customers ++ [customer] }

def emailTaken (db : Db) (userId : Uuid) (email : String) : Bool :=
  db.profiles.any fun p => p.email = email && p.userId ≠ userId

/-- A profile that is new or has a new email, against `customer_profiles_email_key`. -/
def storeProfile (db : Db) (profile : CustomerProfile) : Except Fault Db :=
  if emailTaken db profile.userId profile.email then .error (.integrity "customer_profiles_email_key")
  else .ok { db with profiles := upsert CustomerProfile.userId (fun _ new => new) db.profiles profile }

/-! ## Registration -/

structure SignupDetails where
  firstName : String
  lastName : String
  phone : String
  licensedStates : List String := []

def registrationFault (message guard : String) : Fault := .access message guard

def Db.setRegistration (db : Db) (authUserId : Uuid)
    (f : CustomerRegistration → CustomerRegistration) : Db :=
  { db with registrations := adjust CustomerRegistration.authUserId authUserId f db.registrations }

structure PartyEnv where
  casing : Casing
  billing : BillingDefaults := {}
  sets : SetOrder := .plain

section
variable (env : PartyEnv)

def registeredCustomer (registration : CustomerRegistration) (fresh : NewIdentity) : Customer :=
  let fullName := registration.firstName ++ " " ++ registration.lastName
  let base := ofList ((slugText (env.casing.lower fullName)).toList.take 47)
  let slug := (if base = "" then "customer" else base) ++ "-" ++ ofList
    (hexDigits 32 registration.authUserId)
  newCustomer env.billing fresh.id slug fullName fresh.historyKey registration.licensedStates

def Customer.restored (db : Db) (licensedStates : List String) (customer : Customer) : Customer :=
  { customer with active := true, deletedAt := none, licensedStates, agencyId := restoredAgency db customer }

/-- The Customer that a registration is activated for: a new one, or the archived one restored. -/
def registrationCustomer (db : Db) (registration : CustomerRegistration)
    (archived : Option Customer) (fresh : NewIdentity) : Except Fault (Db × Customer) :=
  match archived with
  | none =>
    let customer := registeredCustomer env registration fresh
    (insertCustomer db customer).map (·, customer)
  | some customer =>
    if db.openRequests [customer.id] ≠ 0 then
      .error (registrationFault
        "Resolve the archived Customer's outstanding requests before restoration." "open_requests")
    else
      let restored := customer.restored db registration.licensedStates
      .ok (db.setCustomer customer.id (fun _ => restored), restored)

def activateRegistration (db : Db) (registration : CustomerRegistration)
    (archived : Option Customer) (fresh : NewIdentity) (actor : String) (now : Instant) :
    Except Fault Db :=
  if registration.licensedStates = [] then
    .error (registrationFault "Appointed states must be selected before activation."
      "registration_incomplete")
  else do
    let (db, customer) ← registrationCustomer env db registration archived fresh
    let granted ← activateRegisteredUserAccount env.casing db customer registration.authUserId
      registration.email now
    .ok (granted.setRegistration registration.authUserId (fun r =>
      { r with
        status := .active, customerId := some customer.id, decidedAt := some now, decidedBy := some actor }))

/-- `_finish_state_setup`: without an archived namesake a new Customer, else the operator
decides. -/
def finishStateSetup (db : Db) (registration : CustomerRegistration) (fresh : NewIdentity)
    (now : Instant) : Except Fault Db :=
  if archivedCustomerMatches db registration.firstName registration.lastName = [] then
    activateRegistration env db registration none fresh
      ("user_account:" ++ uuidText registration.authUserId) now
  else .ok db

def completeRegistration (db : Db) (userId : Uuid) (email : String) (details : SignupDetails)
    (fresh : NewIdentity) (now : Instant) : Except Fault Db :=
  match db.registration? userId with
  | some _ => .ok db
  | none =>
    let registration : CustomerRegistration :=
      { authUserId := userId, email, firstName := details.firstName, lastName := details.lastName,
        phone := details.phone
        licensedStates := details.licensedStates, status := .awaitingReview }
    let profile := (db.profile? userId).getD { userId, email }
    do
      let stored ← storeProfile { db with registrations := db.registrations ++ [registration] }
        { profile with
          firstName := details.firstName, lastName := details.lastName, phone := details.phone
          licensedStates := details.licensedStates }
      if details.licensedStates = [] then .ok stored else finishStateSetup env stored registration fresh now

def setRegistrationStates (db : Db) (userId : Uuid) (states : List String) (fresh : NewIdentity)
    (now : Instant) : Except Fault Db :=
  if (db.userAccount? userId).any (fun a => !a.active) then
    .error (registrationFault "This User Account has been replaced or deactivated." "account_inactive")
  else
    match db.registration? userId with
    | none => .error
        (registrationFault "This registration cannot complete state setup." "registration_closed")
    | some registration =>
      if registration.status = .rejected then
        .error (registrationFault "This registration cannot complete state setup." "registration_closed")
      else if registration.licensedStates ≠ [] then .ok db
      else if registration.status ≠ .awaitingReview then
        .error (registrationFault "This registration no longer needs state setup." "registration_closed")
      else if (db.profile? userId).all (fun p => p.customerId.isSome) ∨ (db.userAccount? userId).isSome then
        .error (registrationFault "This User Account is already mapped to a Customer." "account_mapped")
      else
        let chosen :=
          (db.setRegistration userId fun r => { r with licensedStates := states }).setProfile userId
          (fun p => { p with licensedStates := states })
        finishStateSetup env chosen { registration with licensedStates := states } fresh now

inductive RegistrationDecision where
  | new
  | restore (customerId : Nat)
  | reject
  deriving DecidableEq

def restorable (db : Db) (matches_ : List Nat) (customerId : Nat) (mismatch gone : Fault) :
    Except Fault Customer :=
  if customerId ∉ matches_ then .error mismatch
  else
    match db.customer? customerId with
    | none => .error gone
    | some customer =>
      if customer.active ∨ customer.deletedAt = none ∨
        db.erased customerId then .error gone else .ok customer

def decideRegistration (db : Db) (userId : Uuid) (decision : RegistrationDecision)
    (fresh : NewIdentity) (actor : String) (now : Instant) : Except Fault Db :=
  match db.registration? userId with
  | none => .error
      (registrationFault "This registration is no longer awaiting review." "registration_closed")
  | some registration =>
    if registration.status ≠ .awaitingReview then
      .error (registrationFault "This registration is no longer awaiting review." "registration_closed")
    else if registration.licensedStates = [] ∧ decision ≠ .reject then
      .error (registrationFault "Appointed states must be selected before activation."
        "registration_incomplete")
    else
      match decision with
      | .reject =>
        .ok (db.setRegistration userId (fun r =>
          { r with status := .rejected, decidedAt := some now, decidedBy := some actor }))
      | .new => activateRegistration env db registration none fresh actor now
      | .restore customerId => do
        let customer ← restorable db
          (archivedCustomerMatches db registration.firstName registration.lastName) customerId
          (registrationFault "Select a matching archived Customer." "name_mismatch")
          (registrationFault "This archived Customer is no longer available." "customer_unavailable")
        activateRegistration env db registration (some customer) fresh actor now

/-! ## Sign-in -/

/-- A verified provider token of the customer role. `signup` is its signup profile, `none` inside
where it is invalid. -/
structure SignIn where
  userId : Uuid
  email : String
  firstName : String := ""
  lastName : String := ""
  signup : Option (Option SignupDetails) := none
  emailVerified : Bool := true

def signInAccount (db : Db) (login : SignIn) (account : Option UserAccount) (customerId : Nat)
    (now : Instant) : Except Fault Db :=
  match account with
  | none =>
    if (activeUserAccount db customerId).isSome then
      .error (.http 409
        "This Customer already has an active User Account. Ask an administrator to replace it.")
    else
      .ok { db with
        userAccounts := db.userAccounts ++
          [{ authUserId := login.userId, customerId := some customerId, email := login.email, active := true
             createdAt := now }] }
  | some account =>
    if account.customerId ≠ some customerId then
      .error (.http 409 "User Account and Customer mapping do not match.")
    else .ok db

def signInProfile (db : Db) (login : SignIn) (account : Option UserAccount) (now : Instant) :
    Except Fault Db :=
  match db.profile? login.userId with
  | none =>
    storeProfile db
      { userId := login.userId, email := login.email, firstName := login.firstName,
        lastName := login.lastName }
  | some profile => do
    let stored ← storeProfile db { profile with email := login.email }
    match profile.customerId with
    | none => .ok stored
    | some customerId => signInAccount stored login account customerId now

def createSession (db : Db) (login : SignIn) (fresh : NewIdentity) (now : Instant) : Except Fault Db := do
  let (db, _) ← acceptUserAccountInvitation env.casing db login.userId login.email now
  let account := db.userAccount? login.userId
  if account.any (fun a => !a.active) then
    .error (.http 403 "This User Account has been replaced or deactivated.")
  else do
    let stored ← signInProfile db login account now
    match login.signup with
    | none => .ok stored
    | some signup =>
      if account.isSome then .ok stored
      else if login.emailVerified = false then
        .error (.http 403 "Verify your email before completing signup.")
      else
        match signup with
        | none => .error (.http 422 "The signup details are invalid.")
        | some details => completeRegistration env stored login.userId login.email details fresh now

/-! ## Synchronisation and mapping -/

structure ProviderUser where
  id : Uuid
  email : String
  firstName : String := ""
  lastName : String := ""

def mappableCustomers (db : Db) : List Customer :=
  db.customers.filter fun c => c.active && c.deletedAt.isNone && db.agencyStands c

def proposedCustomer (customers : List Customer) (email firstName lastName : String) : Option Customer :=
  let lower := env.casing.lower
  let candidates := [slugText (ofList (email.toList.takeWhile (· ≠ '@'))),
    slugText (lower firstName), slugText (lower (firstName ++ " " ++ lastName))]
  (env.sets.order candidates).findSome? fun slug => lookup Customer.slug slug customers

def syncedProfile (customers : List Customer) (db : Db) (user : ProviderUser) : CustomerProfile :=
  let email := env.casing.lower (strip user.email)
  let profile : CustomerProfile :=
    match db.profile? user.id with
    | none => { userId := user.id, email, firstName := user.firstName, lastName := user.lastName }
    | some profile => { profile with email }
  match profile.customerId with
  | some _ => profile
  | none =>
    match proposedCustomer env customers email profile.firstName profile.lastName with
    | none => profile
    | some customer => { profile with customerId := some customer.id, mappingConfirmedAt := none }

def syncUserAccounts (db : Db) (users : List ProviderUser) : Except Fault Db :=
  users.foldlM (fun current user => storeProfile current
    (syncedProfile env (mappableCustomers db) current user)) db

end

def mapUserAccountCustomer (db : Db) (userId : Uuid) (customerId : Nat) (confirmed : Bool)
    (now : Instant) : Except Fault Db :=
  match db.profile? userId, db.customer? customerId with
  | some profile, some customer =>
    if customer.active = false ∨ customer.deletedAt.isSome ∨ db.agencyStands customer = false then
      .error (.http 409 "User Accounts can only be mapped to an active Customer and Agency.")
    else if profile.customerId = some customer.id ∧ profile.mappingConfirmedAt.isSome = confirmed then .ok db
    else
      .ok (db.setProfile userId (fun p =>
        { p with
          customerId := some customer.id, mappingConfirmedAt := if confirmed then some now else none }))
  | _, _ => .error (.http 404 "User Account or Customer was not found.")

/-! ## Archiving and erasure -/

def UserAccount.deactivated (now : Instant) (account : UserAccount) : UserAccount :=
  { account with active := false, replacedAt := some now }

def Db.updateProfiles (db : Db) (customerIds : List Nat) (f : CustomerProfile → CustomerProfile) : Db :=
  { db with
    profiles := db.profiles.map fun p => if p.customerId.any (fun c => c ∈ customerIds) then f p else p }

def Db.updateAccounts (db : Db) (customerId : Nat) (f : UserAccount → UserAccount) : Db :=
  { db with
    userAccounts := db.userAccounts.map (fun a => if a.customerId = some customerId then f a else a) }

def CustomerProfile.unmapped (profile : CustomerProfile) : CustomerProfile :=
  { profile with customerId := none, mappingConfirmedAt := none }

def CustomerProfile.archived (profile : CustomerProfile) : CustomerProfile :=
  { profile.unmapped with email := "archived-" ++ uuidText profile.userId ++ "@invalid.local" }

/-- `customer_dependency_counts`: whether any record keeps the Customer from being deleted. -/
def Db.hasDependents (db : Db) (customerId : Nat) : Bool :=
  db.requests.any (fun r => r.customerId = customerId) ||
  db.events.any (fun e => e.customerId = some customerId) ||
  db.outcomes.any (fun o => o.customerId = customerId) ||
  db.reports.any (fun r => r.customerId = customerId) ||
  db.transitions.any (fun t => t.customerId = customerId) ||
  db.profiles.any (fun p => p.customerId = some customerId) ||
  db.registrations.any (fun r => r.customerId = some customerId) ||
  db.userAccounts.any (fun a => a.customerId = some customerId) ||
  db.invitations.any (fun i => i.customerId = customerId) ||
  db.agencyMemberships.any (fun m => m.customerId = customerId) ||
  db.exclusionLists.any (fun l => l.customerId = some customerId) ||
  db.ledger.any (fun e => e.customerId = customerId) ||
  db.purchases.any (fun p => p.customerId = customerId) ||
  db.holds.any fun h => h.customerId = customerId

def Db.dropCustomer (db : Db) (customerId : Nat) : Db :=
  { db with
    customers := db.customers.filter (fun c => c.id ≠ customerId)
    historyIdentities := db.historyIdentities.filter (fun i => i.customerId ≠ customerId) }

/-- What `delete_customer` writes where the history is kept. -/
def archiveCustomer (db : Db) (customer : Customer) (updatedAt : Uuid → Instant) (now : Instant) : Db :=
  let remembered := rememberCustomerName db customer updatedAt
  let archived :=
    (remembered.updateProfiles [customer.id] CustomerProfile.archived).updateAccounts customer.id
    (UserAccount.deactivated now)
  (cancelUserAccountInvitation archived customer now).1.setCustomer customer.id fun c =>
    { c with deletedAt := some now }

def deleteCustomer (db : Db) (customerId : Nat) (confirmSlug : String) (hardDelete : Bool)
    (updatedAt : Uuid → Instant) (now : Instant) : Except Fault Db := do
  let customer ← lockedCustomer db customerId
  if confirmSlug ≠ customer.slug then .error (.http 409 "Customer slug confirmation did not match.")
  else if customer.active then .error (.http 409 "Deactivate the Customer before deletion.")
  else if hardDelete then
    if db.hasDependents customer.id then
      .error (.http 409 "Hard deletion is blocked while Customer dependencies exist.")
    else .ok (db.dropCustomer customer.id)
  else .ok (archiveCustomer db customer updatedAt now)

/-- What `delete_agent` writes: the accounts and invitations of the Customer stay. -/
def archiveAgent (db : Db) (agentId : Nat) (now : Instant) : Db :=
  (db.updateProfiles [agentId] CustomerProfile.unmapped).setCustomer agentId (fun c =>
    { c with active := false, deletedAt := some now })

def deleteAgent (db : Db) (agentId : Nat) (confirmSlug : String) (now : Instant) : Except Fault Db :=
  match db.customer? agentId with
  | none => .error (.http 404 "Agent was not found.")
  | some agent =>
    if agent.deletedAt.isSome then .error (.http 404 "Agent was not found.")
    else if confirmSlug ≠ agent.slug then .error (.http 409 "Agent slug confirmation did not match.")
    else if db.openRequests [agent.id] ≠ 0 then
      .error (.http 409
        s!"Resolve {db.openRequests [agent.id]} active request(s) before deleting this agent.")
    else .ok (archiveAgent db agent.id now)

def Db.customersOf (db : Db) (agencyId : Nat) : List Customer :=
  db.customers.filter fun c => c.agencyId = some agencyId

def Customer.deletedWith (agencyId : Nat) (now : Instant) (customer : Customer) : Customer :=
  if customer.agencyId = some agencyId then
    { customer with active := false, deletedAt := some (customer.deletedAt.getD now) }
  else customer

/-- What `delete_agency` writes: the accounts and invitations of its Customers stay. -/
def archiveAgency (db : Db) (agencyId : Nat) (now : Instant) : Db :=
  let unmapped := db.updateProfiles ((db.customersOf agencyId).map Customer.id) CustomerProfile.unmapped
  { unmapped with customers := unmapped.customers.map (Customer.deletedWith agencyId now) }.setAgency
    agencyId (fun a => { a with active := false, deletedAt := some now })

def deleteAgency (db : Db) (agencyId : Nat) (confirmSlug : String) (hardDelete : Bool)
    (now : Instant) : Except Fault Db :=
  match db.agency? agencyId with
  | none => .error (.http 404 "Agency was not found.")
  | some agency =>
    let customers := db.customersOf agency.id
    if agency.deletedAt.isSome then .error (.http 404 "Agency was not found.")
    else if confirmSlug ≠ agency.slug then .error (.http 409 "Agency slug confirmation did not match.")
    else if agency.active then .error (.http 409 "Deactivate the Agency before deletion.")
    else if customers.any (fun c => c.active && c.deletedAt.isNone) then
      .error (.http 409 "Deactivate every Customer before deleting the Agency.")
    else if hardDelete then
      if customers ≠ [] ∨ db.events.any (fun e => e.agencyId = some agency.id) ∨
          db.agencyMemberships.any (fun m => m.agencyId = agency.id) then
        .error (.http 409 "Hard deletion is blocked while Agency dependencies exist.")
      else .ok { db with agencies := db.agencies.filter (fun a => a.id ≠ agency.id) }
    else if db.openRequests (customers.map Customer.id) ≠ 0 then
      .error (.http 409
        s!"Resolve {db.openRequests (customers.map Customer.id)} active request(s) before deleting this agency.")
    else .ok (archiveAgency db agency.id now)

variable (email : String) (now : Instant)

def CustomerProfile.erased (profile : CustomerProfile) : CustomerProfile :=
  { profile with
    email, firstName := "", lastName := "", phone := "", licensedStates := [], mappingConfirmedAt := none }

def UserAccount.erased (account : UserAccount) : UserAccount :=
  { account.deactivated now with email }

def UserAccountInvitation.erased (invitation : UserAccountInvitation) : UserAccountInvitation :=
  let anonymous := { invitation with email }
  if anonymous.isPending then anonymous.canceled now else anonymous

def CustomerRegistration.erased (registration : CustomerRegistration) : CustomerRegistration :=
  { registration with
    email, firstName := "", lastName := "", phone := "", licensedStates := [], status := .rejected }

def Customer.erased (customer : Customer) : Customer :=
  { customer with
    name := "Deleted Customer", slug := s!"deleted-customer-{customer.id}", licensedStates := []
    deletedAt := some (customer.deletedAt.getD now) }

def anonymousEmail (opaqueKey : String) : String :=
  "erased-" ++ ofList (opaqueKey.toList.take 20) ++ "@invalid.local"

/-- What `erase_customer_personal_data` writes: the profiles stay mapped. -/
def erasePersonalData (db : Db) (customerId : Nat) (opaqueKey : String) (now : Instant) : Db :=
  let email := anonymousEmail opaqueKey
  let rows := (db.updateProfiles [customerId] (CustomerProfile.erased email)).updateAccounts customerId
    (UserAccount.erased email now)
  { rows.setCustomer customerId (Customer.erased now) with
    tombstones := db.tombstones ++ [{ formerCustomerId := customerId, opaqueKey }]
    invitations := db.invitations.map (fun i => if i.customerId = customerId then i.erased email now else i)
    registrations :=
      db.registrations.map (fun r => if r.customerId = some customerId then r.erased email else r)
    historyIdentities := db.historyIdentities.filter (fun i => i.customerId ≠ customerId) }

/-- `erase_customer_personal_data`. All mapped profiles get one email, so with two of them the
unique key refuses. -/
def eraseCustomerPersonalData (db : Db) (customerId : Nat) (opaqueKey : String) (now : Instant) :
    Except Fault Db :=
  match db.customer? customerId with
  | none => .error (.http 404 "Customer was not found.")
  | some customer =>
    if customer.active then .error (.http 409 "Deactivate the Customer before personal-data erasure.")
    else if db.erased customer.id then .ok db
    else if ((erasePersonalData db customer.id opaqueKey now).profiles.map CustomerProfile.email).Nodup then
      .ok (erasePersonalData db customer.id opaqueKey now)
    else .error (.integrity "customer_profiles_email_key")

/-! ## Provisioning -/

section
variable (env : PartyEnv)

def replaceUserAccount (db : Db) (customerId : Nat) (offer : Invite) (id : Uuid) (now : Instant) :
    Except Fault Db := do
  let customer ← lockedCustomer db customerId
  (inviteUserAccount env.casing db customer offer id now).map Prod.fst

/-- `invite_customer_user_account`, with the identity the provider answered. -/
def inviteCustomerUserAccount (db : Db) (customerId : Nat) (offer : Invite) (id : Uuid)
    (now : Instant) : Except Fault Db := do
  let customer ← lockedCustomer db customerId
  if customer.active = false then
    .error (.http 409 "A User Account cannot be provisioned for a deactivated Customer.")
  else if (pendingInvitation db customer.id).isSome then
    .error (.http 409 ("This Customer already has an outstanding User Account invitation. " ++
      "Cancel it before inviting a different account."))
  else (inviteUserAccount env.casing db customer offer id now).map Prod.fst

def cancelCustomerInvitation (db : Db) (customerId : Nat) (now : Instant) : Except Fault Db := do
  let customer ← lockedCustomer db customerId
  match cancelUserAccountInvitation db customer now with
  | (_, none) => .error (.http 404 "This Customer has no outstanding invitation.")
  | (canceled, some _) => .ok canceled

/-- `_customer_slug`: one of the first candidates is free, as there are more of them than
Customers. -/
def customerSlug (db : Db) (name : String) (requested : Option String) : String :=
  let text := ofList ((slugText (env.casing.lower (requested.getD name))).toList.take 70)
  let base := if text = "" then "customer" else text
  let numbered := (List.range db.customers.length).map (fun n => base ++ "-" ++ toString (n + 2))
  ((base :: numbered).find? fun slug => slug ∉ db.customers.map Customer.slug).getD base

structure CustomerCreate where
  name : String
  email : String
  slug : Option String := none
  agencyId : Option Nat := none
  firstName : String := ""
  lastName : String := ""
  restoreCustomerId : Option Nat := none
  createNewIdentity : Bool := false

def invitedProfile (db : Db) (payload : CustomerCreate) (authUserId : Uuid) : CustomerProfile :=
  let first := strip payload.firstName
  let last := strip payload.lastName
  match db.profile? authUserId with
  | none =>
      { userId := authUserId, email := env.casing.lower payload.email, firstName := first, lastName := last }
  | some profile =>
    { profile with
      firstName := if first = "" then profile.firstName else first
      lastName := if last = "" then profile.lastName else last }

def provisionCustomer (db : Db) (customer : Customer) (payload : CustomerCreate) (offer : Invite)
    (invitationId : Uuid) (now : Instant) : Except Fault Db := do
  let stored ← storeProfile db (invitedProfile env db payload offer.authUserId)
  (inviteUserAccount env.casing stored customer
    { offer with email := payload.email } invitationId now).map Prod.fst

/-- `create_customer`, which makes a Customer or restores an archived one. -/
def createCustomer (db : Db) (payload : CustomerCreate) (fresh : NewIdentity) (offer : Invite)
    (invitationId : Uuid) (now : Instant) : Except Fault Db :=
  let name := strip payload.name
  let matches_ := archivedCustomerMatches db payload.firstName payload.lastName
  let mismatch : Fault := .http 409 "The selected archived Customer does not match this first and last name."
  if name = "" then .error (.http 422 "Customer name is required.")
  else if payload.agencyId.isSome then
    .error (.http 409 "Create the Customer first, then preview and confirm its Agency assignment.")
  else
    match payload.restoreCustomerId with
    | some customerId =>
      if payload.createNewIdentity then .error mismatch
      else do
        let archived ← restorable db matches_ customerId mismatch
          (.http 409 "This Customer has already been restored.")
        let customer := archived.restored db archived.licensedStates
        provisionCustomer env (db.setCustomer customer.id fun _ =>
          customer) customer payload offer invitationId now
    | none =>
      if matches_ ≠ [] ∧ payload.createNewIdentity = false then
        .error (.http 409 ("Archived customer history matches this first and last name. " ++
          "Confirm which Customer to restore, or create a separate Customer."))
      else do
        let customer :=
          newCustomer env.billing fresh.id
          (customerSlug env db name payload.slug) name fresh.historyKey []
        let inserted ← insertCustomer db customer
        provisionCustomer env inserted customer payload offer invitationId now

end

/-! ## Runs -/

inductive PartyOp where
  | updateCustomer (customerId : Nat) (name : String) (active : Bool) (agencyId : Option Nat)
  | updateAgency (agencyId : Nat) (name reason : String) (active : Bool)
  | deleteCustomer (customerId : Nat) (confirmSlug : String) (hardDelete : Bool)
      (updatedAt : Uuid → Instant) (now : Instant)
  | deleteAgent (agentId : Nat) (confirmSlug : String) (now : Instant)
  | deleteAgency (agencyId : Nat) (confirmSlug : String) (hardDelete : Bool) (now : Instant)
  | erase (customerId : Nat) (opaqueKey : String) (now : Instant)
  | replaceAccount (customerId : Nat) (offer : Invite) (id : Uuid) (now : Instant)
  | inviteAccount (customerId : Nat) (offer : Invite) (id : Uuid) (now : Instant)
  | cancelInvitation (customerId : Nat) (now : Instant)
  | create (payload : CustomerCreate) (fresh : NewIdentity) (offer : Invite) (invitationId : Uuid)
      (now : Instant)
  | signIn (login : SignIn) (fresh : NewIdentity) (now : Instant)
  | setStates (userId : Uuid) (states : List String) (fresh : NewIdentity) (now : Instant)
  | decide (userId : Uuid) (decision : RegistrationDecision) (fresh : NewIdentity) (actor : String)
      (now : Instant)
  | sync (users : List ProviderUser)
  | map (userId : Uuid) (customerId : Nat) (confirmed : Bool) (now : Instant)

def PartyOp.run (env : PartyEnv) (db : Db) : PartyOp → Except Fault Db
  | .updateCustomer customerId name active agencyId =>
      Jawnix.updateCustomer db customerId name active agencyId
  | .updateAgency agencyId name reason active => Jawnix.updateAgency db agencyId name reason active
  | .deleteCustomer customerId confirmSlug hardDelete updatedAt now =>
    Jawnix.deleteCustomer db customerId confirmSlug hardDelete updatedAt now
  | .deleteAgent agentId confirmSlug now => Jawnix.deleteAgent db agentId confirmSlug now
  | .deleteAgency agencyId confirmSlug hardDelete now =>
      Jawnix.deleteAgency db agencyId confirmSlug hardDelete now
  | .erase customerId opaqueKey now => eraseCustomerPersonalData db customerId opaqueKey now
  | .replaceAccount customerId offer id now => replaceUserAccount env db customerId offer id now
  | .inviteAccount customerId offer id now => inviteCustomerUserAccount env db customerId offer id now
  | .cancelInvitation customerId now => cancelCustomerInvitation db customerId now
  | .create payload fresh offer invitationId now =>
      createCustomer env db payload fresh offer invitationId now
  | .signIn login fresh now => createSession env db login fresh now
  | .setStates userId states fresh now => setRegistrationStates env db userId states fresh now
  | .decide userId decision fresh actor now => decideRegistration env db userId decision fresh actor now
  | .sync users => syncUserAccounts env db users
  | .map userId customerId confirmed now => mapUserAccountCustomer db userId customerId confirmed now

def partyStep (env : PartyEnv) (db : Db) (op : PartyOp) : Db := commit db (op.run env db)

end Jawnix
