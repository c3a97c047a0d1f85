import Jawnix.States

/-!
# User Account provisioning

`customer_accounts.py`: a Customer is durable, a User Account is replaceable
authentication. The first account of a Customer is activated at once; a later one is
invited and replaces the active account when the invited person accepts. The partial
unique indexes are not modelled: the guards below keep what they state.
-/
namespace Jawnix

def UserAccount.activeFor (customerId : Nat) (account : UserAccount) : Bool :=
  account.customerId = some customerId && account.active

def UserAccountInvitation.isPending (invitation : UserAccountInvitation) : Bool :=
  decide (invitation.status = .pending)

def UserAccountInvitation.accepted (now : Instant) (invitation : UserAccountInvitation) :
    UserAccountInvitation :=
  { invitation with status := .accepted, acceptedAt := some now }

def UserAccountInvitation.canceled (now : Instant) (invitation : UserAccountInvitation) :
    UserAccountInvitation :=
  { invitation with status := .canceled, canceledAt := some now }

def UserAccount.withEmail (email : String) (account : UserAccount) : UserAccount := { account with email }

variable (db : Db) (casing : Casing)

def activeUserAccount (customerId : Nat) : Option UserAccount :=
  db.userAccounts.find? (UserAccount.activeFor customerId)

def pendingInvitation (customerId : Nat) : Option UserAccountInvitation :=
  db.invitations.find? fun i => i.customerId = customerId && i.isPending

def lockedAccounts (customerId : Nat) : List UserAccount :=
  (db.userAccounts.filter fun a => a.customerId = some customerId).insertionSort (fun a b =>
    a.createdAt < b.createdAt ∨ (a.createdAt = b.createdAt ∧ a.authUserId ≤ b.authUserId))

def refuseForeignAccount (authUserId : Uuid) (customerId : Nat) : Except Fault Unit :=
  if (db.userAccount? authUserId).any (fun a => a.active && a.customerId.any fun c => c ≠ customerId) then
    .error (.access "That User Account is already the active account for another Customer." "account_in_use")
  else if db.invitations.any (fun i =>
      i.authUserId = authUserId && i.isPending && i.customerId ≠ customerId) then
    .error (.access "That email already has an outstanding invitation for another Customer."
      "identity_invited_elsewhere")
  else .ok ()

/-- The profile of an identity points at the Customer and mirrors its Licensed States. -/
def confirmProfile (db : Db) (customer : Customer) (authUserId : Uuid) (email : String)
    (now : Instant) : Except Fault Db := do
  let licensedStates ← normalizeStates casing customer.licensedStates
  if db.profiles.any (fun p => p.email = email && p.userId ≠ authUserId) then
    .error (.integrity "customer_profiles_email_key")
  else
    .ok { db with
      profiles := upsert CustomerProfile.userId
        (fun old new => { old with
          email := new.email, licensedStates := new.licensedStates, customerId := new.customerId
          mappingConfirmedAt := new.mappingConfirmedAt })
        db.profiles
        { userId := authUserId, email, licensedStates, customerId := some customer.id,
          mappingConfirmedAt := some now } }

/-- An account that exists keeps its identity and age. -/
def UserAccount.regranted (old new : UserAccount) : UserAccount :=
  { old with
    customerId := new.customerId, email := new.email, active := true,
      replacedAt := none, replacedByAuthUserId := none }

def grantAccount (account : UserAccount) : Db :=
  { db with userAccounts := upsert UserAccount.authUserId UserAccount.regranted db.userAccounts account }

/-- `_activate`: the account of an identity, new or not, becomes the Customer's. -/
def activate (db : Db) (customer : Customer) (authUserId : Uuid) (email : String) (now : Instant) :
    Except Fault Db :=
  confirmProfile casing
    (grantAccount db { authUserId, customerId := some customer.id, email, active := true, createdAt := now })
    customer authUserId email now

structure ProvisionResult where
  customerId : Nat
  authUserId : Uuid
  email : String
  activated : Bool
  invitationId : Option Uuid := none
  replacesAuthUserId : Option Uuid := none

structure Invite where
  authUserId : Uuid
  email : String
  actorId : String
  reason : String

/-- The answer where an invitation is outstanding already. -/
def repeatInvitation (customerId : Nat) (authUserId : Uuid) (outstanding : UserAccountInvitation) :
    Except Fault (Db × ProvisionResult) :=
  if outstanding.authUserId = authUserId then
    .ok (db,
      { customerId, authUserId, email := outstanding.email, activated := false,
        invitationId := some outstanding.id
        replacesAuthUserId := outstanding.replacesAuthUserId })
  else
    .error (.access ("This Customer already has an outstanding User Account invitation. " ++
      "Cancel it before inviting a different account.") "pending_invitation")

def inviteUserAccount (db : Db) (customer : Customer) (invite : Invite) (id : Uuid)
    (now : Instant) : Except Fault (Db × ProvisionResult) :=
  let email := casing.lower (strip invite.email)
  let activated : ProvisionResult :=
    { customerId := customer.id, authUserId := invite.authUserId, email, activated := true }
  if customer.deletedAt.isSome ∨ customer.active = false then
    .error (.access "A User Account cannot be provisioned for a deactivated Customer." "inactive_customer")
  else do
    refuseForeignAccount db invite.authUserId customer.id
    match (lockedAccounts db customer.id).find? UserAccount.active with
    | some current =>
      if current.authUserId = invite.authUserId then
        let confirmed ← confirmProfile casing db customer invite.authUserId email now
        .ok (confirmed.setUserAccount current.authUserId (UserAccount.withEmail email), activated)
      else
        match pendingInvitation db customer.id with
        | some outstanding => repeatInvitation db customer.id invite.authUserId outstanding
        | none =>
          if id ∈ db.invitations.map UserAccountInvitation.id then
            .error (.integrity "user_account_invitations_pkey")
          else
            .ok ({ db with
              invitations := db.invitations ++
                [{ id, customerId := customer.id, authUserId := invite.authUserId, email, status := .pending
                   replacesAuthUserId := some current.authUserId,
                     invitedBy := invite.actorId, reason := invite.reason }] },
              { activated with
                activated := false, invitationId := some id, replacesAuthUserId := some current.authUserId })
    | none =>
      match pendingInvitation db customer.id with
      | some outstanding => repeatInvitation db customer.id invite.authUserId outstanding
      | none =>
        let granted ← activate casing db customer invite.authUserId email now
        .ok (granted, activated)

def UserAccount.retired (by_ : Uuid) (now : Instant) (account : UserAccount) : UserAccount :=
  { account with active := false, replacedAt := some now, replacedByAuthUserId := some by_ }

def retireAccounts (customerId : Nat) (authUserId : Uuid) (now : Instant) : Db :=
  { db with
    userAccounts := db.userAccounts.map (fun a =>
      if a.activeFor customerId && a.authUserId ≠ authUserId then a.retired authUserId now else a) }

/-- The only moment access changes hands. -/
def acceptUserAccountInvitation (db : Db) (authUserId : Uuid) (email : String) (now : Instant) :
    Except Fault (Db × Option Uuid) :=
  match db.invitations.find? (fun i => i.authUserId = authUserId && i.isPending) with
  | none => .ok (db, none)
  | some invitation =>
    match db.customer? invitation.customerId with
    | none => .error (.access "The invited Customer is no longer available." "missing_customer")
    | some customer =>
      if customer.deletedAt.isSome then
        .error (.access "The invited Customer is no longer available." "missing_customer")
      else if customer.active = false then
        .error (.access "This invitation belongs to a deactivated Customer." "inactive_customer")
      else do
        let granted ← activate casing (retireAccounts db customer.id authUserId now) customer authUserId
          (if email = "" then invitation.email else email) now
        .ok (granted.setInvitation invitation.id (UserAccountInvitation.accepted now), some invitation.id)

def cancelUserAccountInvitation (customer : Customer) (now : Instant) : Db × Option Uuid :=
  match pendingInvitation db customer.id with
  | none => (db, none)
  | some invitation =>
    (db.setInvitation invitation.id (UserAccountInvitation.canceled now), some invitation.id)

/-- A registration whose email is verified gets access without an invitation. -/
def activateRegisteredUserAccount (db : Db) (customer : Customer) (authUserId : Uuid)
    (email : String) (now : Instant) : Except Fault Db := do
  refuseForeignAccount db authUserId customer.id
  if (activeUserAccount db customer.id).isSome ∨ (pendingInvitation db customer.id).isSome then
    .error (.access "This Customer already has access or an invitation." "account_in_use")
  else activate casing db customer authUserId email now

end Jawnix
