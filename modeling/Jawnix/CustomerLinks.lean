import Jawnix.CustomerLifecycle

/-!
# Links between logins and Customers

A login reaches a Customer by an active User Account, a pending invitation or a
profile that is mapped to the Customer, with the mapping confirmed or not. `Relinks`
says which links an operation can make.
-/
namespace Jawnix

inductive Link where
  | access (login : Uuid) (customerId : Nat)
  | offer (login : Uuid) (customerId : Nat)
  | mapping (login : Uuid) (customerId : Nat)
  | confirmed (login : Uuid) (customerId : Nat)

def Link.login : Link → Uuid
  | .access x _ | .offer x _ | .mapping x _ | .confirmed x _ => x

def Link.customerId : Link → Nat
  | .access _ c | .offer _ c | .mapping _ c | .confirmed _ c => c

def Link.Of (login : Uuid) (customerId : Nat) (link : Link) : Prop :=
  link.login = login ∧ link.customerId = customerId

def CustomerProfile.maps (customerId : Nat) (profile : CustomerProfile) : Prop :=
    profile.customerId = some customerId
  deriving Decidable

def Db.Has (db : Db) : Link → Prop
  | .access x c => ∃ a ∈ db.userAccounts, a.authUserId = x ∧ a.activeFor c
  | .offer x c => ∃ i ∈ db.invitations, i.isPending ∧ i.authUserId = x ∧ i.customerId = c
  | .mapping x c => ∃ p ∈ db.profiles, p.userId = x ∧ p.maps c
  | .confirmed x c => ∃ p ∈ db.profiles, p.userId = x ∧ p.maps c ∧ p.mappingConfirmedAt.isSome

instance (db : Db) (link : Link) : Decidable (db.Has link) := by
  unfold Db.Has
  split <;> infer_instance

section
variable (may : Link → Prop)

def AccountsGrow (before after : List UserAccount) : Prop :=
  ∀ a ∈ after, ∀ c, a.activeFor c → (∃ b ∈ before, b.authUserId = a.authUserId ∧ b.activeFor c) ∨
    may (.access a.authUserId c)

def InvitationsGrow (before after : List UserAccountInvitation) : Prop :=
  ∀ i ∈ after, i.isPending → (∃ j ∈ before, j.isPending ∧ j.authUserId = i.authUserId ∧
      j.customerId = i.customerId) ∨ may (.offer i.authUserId i.customerId)

/-- Where a mapping is new, it and its confirmation need a reason each. -/
def ProfileGrows (before : List CustomerProfile) (p : CustomerProfile) : Prop :=
  ∀ c, p.maps c → (∃ q ∈ before, q.userId = p.userId ∧ q.maps c ∧
    (p.mappingConfirmedAt.isSome → q.mappingConfirmedAt.isSome)) ∨
      (may (.mapping p.userId c) ∧ (p.mappingConfirmedAt.isSome → may (.confirmed p.userId c)))

def ProfilesGrow (before after : List CustomerProfile) : Prop := ∀ p ∈ after, ProfileGrows may before p

end

def PendingUnique (invitations : List UserAccountInvitation) : Prop :=
  Keyed UserAccountInvitation.customerId (invitations.filter UserAccountInvitation.isPending)

/-- A change that leaves Customers and Batch Requests alone and makes only the links it may. -/
structure Relinks (may : Link → Prop) (db after : Db) : Prop where
  customers : after.customers = db.customers
  requests : after.requests = db.requests
  accounts : AccountsGrow may db.userAccounts after.userAccounts
  invitations : InvitationsGrow may db.invitations after.invitations
  profiles : ProfilesGrow may db.profiles after.profiles
  pending : PendingUnique db.invitations → PendingUnique after.invitations

section
variable {may may' : Link → Prop} {db mid after : Db}

theorem AccountsGrow.refl (rows : List UserAccount) : AccountsGrow may rows rows :=
  fun a member _ active => .inl ⟨a, member, rfl, active⟩

theorem InvitationsGrow.refl (rows : List UserAccountInvitation) : InvitationsGrow may rows rows :=
  fun i member pending => .inl ⟨i, member, pending, rfl, rfl⟩

theorem ProfilesGrow.refl (rows : List CustomerProfile) : ProfilesGrow may rows rows :=
  fun p member _ maps => .inl ⟨p, member, rfl, maps, id⟩

theorem Relinks.same (customers : after.customers = db.customers) (requests : after.requests = db.requests)
    (accounts : after.userAccounts = db.userAccounts) (invitations : after.invitations = db.invitations)
    (profiles : after.profiles = db.profiles) : Relinks may db after where
  customers := customers
  requests := requests
  accounts := accounts ▸ .refl _
  invitations := invitations ▸ .refl _
  profiles := profiles ▸ .refl _
  pending := invitations ▸ id

theorem Relinks.refl (db : Db) : Relinks may db db := .same rfl rfl rfl rfl rfl

theorem Relinks.mono (weaker : ∀ link, may link → may' link) (relinks : Relinks may db after) :
    Relinks may' db after where
  customers := relinks.customers
  requests := relinks.requests
  accounts := fun a member c active => (relinks.accounts a member c active).imp_right (weaker _)
  invitations := fun i member pending => (relinks.invitations i member pending).imp_right (weaker _)
  profiles := fun p member c maps =>
    (relinks.profiles p member c maps).imp_right fun reason =>
      ⟨weaker _ reason.1, fun yes => weaker _ (reason.2 yes)⟩
  pending := relinks.pending

theorem Relinks.trans (first : Relinks may db mid) (second : Relinks may mid after) :
    Relinks may db after where
  customers := second.customers.trans first.customers
  requests := second.requests.trans first.requests
  accounts := by
    intro a member c active
    rcases second.accounts a member c active with ⟨b, stored, same, held⟩ | reason
    · rw [← same]
      exact first.accounts b stored c held
    · exact .inr reason
  invitations := by
    intro i member pending
    rcases second.invitations i member pending with ⟨j, stored, open_, login, customer⟩ | reason
    · rw [← login, ← customer]
      exact first.invitations j stored open_
    · exact .inr reason
  profiles := by
    intro p member c maps
    rcases second.profiles p member c maps with ⟨q, stored, same, mapped, confirmed⟩ | reason
    · rcases first.profiles q stored c mapped with ⟨r, older, same', mapped', confirmed'⟩ | reason
      · exact .inl ⟨r, older, same'.trans same, mapped', fun yes => confirmed' (confirmed yes)⟩
      rw [same] at reason
      exact .inr ⟨reason.1, fun yes => reason.2 (confirmed yes)⟩
    · exact .inr reason
  pending := fun unique => second.pending (first.pending unique)

theorem Relinks.has (relinks : Relinks may db after) {link : Link} (has : after.Has link) :
    db.Has link ∨ may link := by
  cases link with
  | access x c =>
    obtain ⟨a, member, rfl, active⟩ := has
    exact relinks.accounts a member c active
  | offer x c =>
    obtain ⟨i, member, pending, rfl, rfl⟩ := has
    exact relinks.invitations i member pending
  | mapping x c =>
    obtain ⟨p, member, rfl, maps⟩ := has
    rcases relinks.profiles p member c maps with ⟨q, stored, same, mapped, _⟩ | reason
    · exact .inl ⟨q, stored, same, mapped⟩
    · exact .inr reason.1
  | confirmed x c =>
    obtain ⟨p, member, rfl, maps, confirmed⟩ := has
    rcases relinks.profiles p member c maps with ⟨q, stored, same, mapped, already⟩ | reason
    · exact .inl ⟨q, stored, same, mapped, already confirmed⟩
    · exact .inr (reason.2 confirmed)

theorem pendingUnique_map {f : UserAccountInvitation → UserAccountInvitation}
    (customer : ∀ i, (f i).customerId = i.customerId) (opens : ∀ i, (f i).isPending → i.isPending)
    {rows : List UserAccountInvitation} (unique : PendingUnique rows) : PendingUnique (rows.map f) := by
  have sublist :
    List.Sublist
    (((rows.map f).filter UserAccountInvitation.isPending).map UserAccountInvitation.customerId)
      ((rows.filter UserAccountInvitation.isPending).map UserAccountInvitation.customerId) := by
    clear unique
    induction rows with
    | nil => exact .slnil
    | cons i rows ih =>
    rw [map_cons, List.filter_cons, List.filter_cons]
    by_cases open_ : (f i).isPending
    · rw [if_pos open_, if_pos (opens i open_), map_cons, map_cons, customer]
      exact ih.cons_cons _
    rw [if_neg open_]
    split
    · exact ih.cons _
    · exact ih
  exact List.Nodup.sublist sublist unique

theorem AccountsGrow.map {f : UserAccount → UserAccount} (login : ∀ a, (f a).authUserId = a.authUserId)
    (active : ∀ a c, (f a).activeFor c → a.activeFor c) (rows : List UserAccount) :
    AccountsGrow may rows (rows.map f) := by
  intro a member c held
  obtain ⟨b, stored, rfl⟩ := mem_map.mp member
  exact .inl ⟨b, stored, (login b).symm, active b c held⟩

theorem InvitationsGrow.map {f : UserAccountInvitation → UserAccountInvitation}
    (login : ∀ i, (f i).authUserId = i.authUserId) (customer : ∀ i, (f i).customerId = i.customerId)
    (opens : ∀ i, (f i).isPending → i.isPending) (rows : List UserAccountInvitation) :
    InvitationsGrow may rows (rows.map f) := by
  intro i member pending
  obtain ⟨j, stored, rfl⟩ := mem_map.mp member
  exact .inl ⟨j, stored, opens j pending, (login j).symm, (customer j).symm⟩

end

section
variable {env : PartyEnv} {casing : Casing} {may : Link → Prop} {db after : Db}
  {customer : Customer} {x : Uuid} {email : String} {now : Instant} {p : CustomerProfile} {c : Nat}
  {account : UserAccount} {result : ProvisionResult} {answer : Option Uuid}

theorem storeProfile_relinks (done : storeProfile db p = .ok after)
    (grows : ProfileGrows may db.profiles p) : Relinks may db after := by
  unfold storeProfile at done
  split at done
  · cases done
  cases done
  refine ⟨rfl, rfl, .refl _, .refl _, fun q member => ?_, id⟩
  dsimp only at member
  rcases Rows.mem_upsert_cases member with stored | rfl | ⟨_, _, _, rfl⟩
  · exact ProfilesGrow.refl db.profiles q stored
  · exact grows
  · exact grows

theorem profile_grows (found : db.profile? x = some p) {q : CustomerProfile}
    (login : q.userId = p.userId) (customer : q.customerId = p.customerId)
    (confirmed : q.mappingConfirmedAt = p.mappingConfirmedAt) : ProfileGrows may db.profiles q := by
  intro c maps
  exact .inl ⟨p, (lookup_some found).1, login.symm, customer.symm.trans maps, fun yes => confirmed ▸ yes⟩

theorem unmapped_grows (unmapped : p.customerId = none) (rows : List CustomerProfile) :
    ProfileGrows may rows p :=
  fun c maps => absurd (maps.symm.trans unmapped) (some_ne_none c)

theorem confirmProfile_relinks (done : confirmProfile casing db customer x email now = .ok after) :
    Relinks (Link.Of x customer.id) db after := by
  obtain ⟨states, _, rest⟩ := bind_ok done
  split at rest
  · cases rest
  cases rest
  refine ⟨rfl, rfl, .refl _, .refl _, fun p member c maps => ?_, id⟩
  dsimp only at member
  rcases Rows.mem_upsert_cases member with stored | rfl | ⟨old, _, named, rfl⟩
  · exact ProfilesGrow.refl db.profiles p stored c maps
  · cases maps
    exact .inr ⟨⟨rfl, rfl⟩, fun _ => ⟨rfl, rfl⟩⟩
  · cases maps
    exact .inr ⟨⟨named, rfl⟩, fun _ => ⟨named, rfl⟩⟩

theorem grantAccount_relinks (login : account.authUserId = x)
    (granted : account.customerId = some c) : Relinks (Link.Of x c) db (grantAccount db account) := by
  refine ⟨rfl, rfl, fun a member d held => ?_, .refl _, .refl _, id⟩
  rcases Rows.mem_upsert_cases member with stored | rfl | ⟨old, _, named, rfl⟩
  · exact AccountsGrow.refl db.userAccounts a stored d held
  · cases granted.symm.trans (activeFor_iff.mp held).1
    exact .inr ⟨login, rfl⟩
  have customer : account.customerId = some d := (activeFor_iff.mp held).1
  cases granted.symm.trans customer
  exact .inr ⟨named.trans login, rfl⟩

theorem activate_relinks (done : activate casing db customer x email now = .ok after) :
    Relinks (Link.Of x customer.id) db after := by
  refine Relinks.trans ?_ (confirmProfile_relinks done)
  exact grantAccount_relinks rfl rfl

theorem withEmail_relinks (x : Uuid) (email : String) :
    Relinks may db (db.setUserAccount x (UserAccount.withEmail email)) := by
  refine ⟨rfl, rfl, .map (fun a => ?_) (fun a c held => ?_) _, .refl _, .refl _, id⟩
  · split <;> rfl
  split at held <;> exact held

theorem setInvitation_relinks (id : Uuid) {f : UserAccountInvitation → UserAccountInvitation}
    (login : ∀ i, (f i).authUserId = i.authUserId) (customer : ∀ i, (f i).customerId = i.customerId)
    (closes : ∀ i, (f i).isPending = false) : Relinks may db (db.setInvitation id f) := by
  have keeps : ∀ i, (if i.id = id then f i else i).authUserId = i.authUserId ∧
    (if i.id = id then f i else i).customerId = i.customerId ∧
      ((if i.id = id then f i else i).isPending → i.isPending) := by
    intro i
    split
    · exact ⟨login i, customer i, fun pending => absurd ((closes i).symm.trans pending) false_ne_true⟩
    · exact ⟨rfl, rfl, fun pending => pending⟩
  refine ⟨rfl, rfl, .refl _, .map (fun i => (keeps i).1) (fun i => (keeps i).2.1)
    (fun i => (keeps i).2.2) _, .refl _, ?_⟩
  exact pendingUnique_map (fun i => (keeps i).2.1) (fun i => (keeps i).2.2)

theorem repeatInvitation_same {authUserId : Uuid} {outstanding : UserAccountInvitation}
    (done : repeatInvitation db c authUserId outstanding = .ok (after, result)) : after = db := by
  unfold repeatInvitation at done
  split at done
  · cases done
    rfl
  · cases done

theorem appendInvitation_relinks {i : UserAccountInvitation} (login : i.authUserId = x)
    (customer : i.customerId = c) (absent : pendingInvitation db c = none) :
    Relinks (Link.Of x c) db { db with invitations := db.invitations ++ [i] } := by
  refine ⟨rfl, rfl, .refl _, fun j member pending => ?_, .refl _, fun unique => ?_⟩
  · rcases mem_append.mp member with stored | new
    · exact InvitationsGrow.refl db.invitations j stored pending
    cases mem_singleton.mp new
    exact .inr ⟨login, customer⟩
  unfold PendingUnique
  rw [filter_append, List.filter_cons, List.filter_nil]
  split
  · refine keyed_append.mpr ⟨unique, fun j member same => ?_⟩
    obtain ⟨stored, pending⟩ := mem_filter.mp member
    refine find?_eq_none.mp absent j stored ?_
    rw [pending, Bool.and_true, decide_eq_true_eq]
    exact same.trans customer
  · rw [append_nil]
    exact unique

theorem inviteUserAccount_relinks {offer : Invite} {id : Uuid}
    (done : inviteUserAccount casing db customer offer id now = .ok (after, result)) :
    customer.deletedAt = none ∧ customer.active ∧
    Relinks (Link.Of offer.authUserId customer.id) db after := by
  obtain ⟨standing, done⟩ := guard_ok done
  obtain ⟨undeleted, active⟩ := not_or.mp standing
  refine ⟨not_isSome_iff_eq_none.mp undeleted, eq_true_of_ne_false active, ?_⟩
  obtain ⟨_, _, rest⟩ := bind_ok done
  split at rest
  · split at rest
    · obtain ⟨confirmed, confirms, last⟩ := bind_ok rest
      cases last
      exact (confirmProfile_relinks confirms).trans (withEmail_relinks _ _)
    split at rest
    · rw [repeatInvitation_same rest]
      exact .refl db
    case h_2 absent =>
    split at rest
    · cases rest
    cases rest
    exact appendInvitation_relinks rfl rfl absent
  split at rest
  · rw [repeatInvitation_same rest]
    exact .refl db
  obtain ⟨granted, grants, last⟩ := bind_ok rest
  cases last
  exact activate_relinks grants

theorem retireAccounts_relinks (c : Nat) (x : Uuid) : Relinks may db (retireAccounts db c x now) := by
  refine ⟨rfl, rfl, .map (fun a => ?_) (fun a d held => ?_) _, .refl _, .refl _, id⟩
  · split <;> rfl
  split at held
  · exact absurd (activeFor_iff.mp held).2 false_ne_true
  · exact held

def Db.Live (db : Db) (c : Nat) : Prop := ∃ customer, db.customer? c = some customer ∧
    customer.deletedAt = none

def Db.waiting (db : Db) (x : Uuid) : Option UserAccountInvitation :=
  db.invitations.find? fun i => i.authUserId = x && i.isPending

theorem accept_relinks (done : acceptUserAccountInvitation casing db x email now = .ok (after, answer)) :
    Relinks (fun link => ∃ i, db.waiting x = some i ∧ db.Live i.customerId ∧
    link.Of x i.customerId) db after := by
  unfold acceptUserAccountInvitation at done
  split at done
  · cases done
    exact .refl db
  case h_2 invitation waiting =>
  split at done
  · cases done
  case h_2 customer found =>
  obtain ⟨undeleted, done⟩ := guard_ok done
  split at done
  · cases done
  obtain ⟨granted, grants, last⟩ := bind_ok done
  cases last
  have named : customer.id = invitation.customerId := (lookup_some found).2
  have live : db.Live invitation.customerId := ⟨customer, found, not_isSome_iff_eq_none.mp undeleted⟩
  have made : ∀ link, Link.Of x customer.id link → ∃ i, db.waiting x = some i ∧
    db.Live i.customerId ∧ Link.Of x i.customerId link :=
    fun link of => ⟨invitation, waiting, live, named ▸ of⟩
  refine (retireAccounts_relinks customer.id x).trans (((activate_relinks grants).mono made).trans ?_)
  exact setInvitation_relinks _ (fun _ => rfl) (fun _ => rfl) (fun _ => rfl)

theorem grantAccount_found (same : after.userAccounts = (grantAccount db account).userAccounts)
    (login : account.authUserId = x) : (after.userAccount? x).isSome := by
  unfold Db.userAccount?
  rw [same]
  unfold grantAccount
  rw [Rows.lookup_upsert fun _ _ => rfl, if_pos login]
  rfl

theorem accept_account (done : acceptUserAccountInvitation casing db x email now = .ok (after, answer)) :
    (db.waiting x = none ∧ after = db) ∨ (after.userAccount? x).isSome := by
  unfold acceptUserAccountInvitation at done
  split at done
  case h_1 idle =>
    cases done
    exact .inl ⟨idle, rfl⟩
  · split at done
    · cases done
    split at done
    · cases done
    split at done
    · cases done
    obtain ⟨granted, grants, last⟩ := bind_ok done
    cases last
    obtain ⟨profiles, rfl⟩ := confirmProfile_frame grants
    refine .inr ?_
    apply grantAccount_found
    · rfl
    · rfl

theorem activateRegistered_relinks
    (done : activateRegisteredUserAccount casing db customer x email now = .ok after) :
    Relinks (Link.Of x customer.id) db after := by
  obtain ⟨_, _, rest⟩ := bind_ok done
  split at rest
  · cases rest
  exact activate_relinks rest

end

/-- A change in which only the Customers named by `gone` are newly deleted, and only the links it
may are new. -/
structure Turn (may : Link → Prop) (gone : Nat → Prop) (db after : Db) : Prop where
  requests : after.requests = db.requests
  accounts : AccountsGrow may db.userAccounts after.userAccounts
  invitations : InvitationsGrow may db.invitations after.invitations
  profiles : ProfilesGrow may db.profiles after.profiles
  pending : PendingUnique db.invitations → PendingUnique after.invitations
  keyed : Keyed Customer.id db.customers → Keyed Customer.id after.customers
  deleted : ∀ c ∈ after.customers, c.deletedAt.isSome →
    (∃ b ∈ db.customers, b.id = c.id ∧ b.deletedAt.isSome) ∨ gone c.id

section
variable {may may' : Link → Prop} {gone : Nat → Prop} {db mid after : Db}

theorem Turn.refl (db : Db) : Turn may gone db db :=
  ⟨rfl, .refl _, .refl _, .refl _, id, id, fun c member deleted => .inl ⟨c, member, rfl, deleted⟩⟩

theorem Relinks.turn (relinks : Relinks may db after) : Turn may gone db after where
  requests := relinks.requests
  accounts := relinks.accounts
  invitations := relinks.invitations
  profiles := relinks.profiles
  pending := relinks.pending
  keyed := fun keyed => relinks.customers ▸ keyed
  deleted := fun c member deleted => .inl ⟨c, relinks.customers ▸ member, rfl, deleted⟩

theorem Turn.trans (first : Turn may gone db mid) (second : Turn may gone mid after) :
    Turn may gone db after := by
  have before : Relinks may db { mid with customers := db.customers } :=
    ⟨rfl, first.requests, first.accounts, first.invitations, first.profiles, first.pending⟩
  have later : Relinks may { mid with customers := db.customers } { after with customers := db.customers } :=
    ⟨rfl, second.requests, second.accounts, second.invitations, second.profiles, second.pending⟩
  have both := before.trans later
  refine ⟨both.requests, both.accounts, both.invitations, both.profiles, both.pending,
    fun keyed => second.keyed (first.keyed keyed), fun c member deleted => ?_⟩
  rcases second.deleted c member deleted with ⟨b, stored, same, already⟩ | now
  · rw [← same]
    exact first.deleted b stored already
  · exact .inr now

theorem Turn.mono (weaker : ∀ link, may link → may' link) (turn : Turn may gone db after) :
    Turn may' gone db after := by
  have linked : Relinks may' { db with customers := after.customers } after :=
    Relinks.mono weaker ⟨rfl, turn.requests, turn.accounts, turn.invitations, turn.profiles, turn.pending⟩
  exact ⟨linked.requests, linked.accounts, linked.invitations, linked.profiles, linked.pending,
    turn.keyed, turn.deleted⟩

theorem Turn.has (turn : Turn may gone db after) {link : Link} (has : after.Has link) :
    db.Has link ∨ may link := by
  have linked : Relinks may { db with customers := after.customers } after :=
    ⟨rfl, turn.requests, turn.accounts, turn.invitations, turn.profiles, turn.pending⟩
  cases link with
  | access | offer | mapping | confirmed => exact linked.has has

theorem setCustomer_turn {id : Nat} {f : Customer → Customer} (same : ∀ c, c.id = id → (f c).id = c.id)
    (deletes : ∀ c, c.id = id → (f c).deletedAt.isSome → c.deletedAt.isSome ∨ gone id) :
    Turn may gone db (db.setCustomer id f) := by
  refine ⟨rfl, .refl _, .refl _, .refl _, fun unique => unique, keyed_adjust same,
    fun c member deleted => ?_⟩
  rcases mem_adjust.mp member with ⟨b, stored, here, rfl⟩ | ⟨stored, _⟩
  · rcases deletes b here deleted with already | now
    · exact .inl ⟨b, stored, (same b here).symm, already⟩
    rw [same b here, here]
    exact .inr now
  · exact .inl ⟨c, stored, rfl, deleted⟩

theorem insertCustomer_turn {customer : Customer} (undeleted : customer.deletedAt = none)
    (done : insertCustomer db customer = .ok after) :
    Turn may gone db after ∧ after.Live customer.id ∧ customer.id ∉ db.customers.map Customer.id := by
  obtain ⟨fresh, done⟩ := guard_ok done
  split at done
  · cases done
  cases done
  have absent : ∀ c ∈ db.customers, c.id ≠ customer.id :=
    fun c member same => fresh (mem_map.mpr ⟨c, member, same⟩)
  refine ⟨⟨rfl, .refl _, .refl _, .refl _, id, fun keyed => keyed_append.mpr ⟨keyed, absent⟩,
    fun c member deleted => ?_⟩, ⟨customer, ?_, undeleted⟩, fresh⟩
  · rcases mem_append.mp member with stored | new
    · exact .inl ⟨c, stored, rfl, deleted⟩
    cases mem_singleton.mp new
    rw [undeleted] at deleted
    exact absurd deleted false_ne_true
  · exact (lookup_append_new (lookup_none.mpr absent) rfl customer.id).trans (if_pos rfl)

theorem live_congr (same : after.customers = db.customers) {c : Nat} : after.Live c ↔ db.Live c := by
  unfold Db.Live Db.customer?
  rw [same]

theorem newCustomer_id (billing : BillingDefaults) (id : Nat) (slug name key : String)
    (states : List String) :
    (newCustomer billing id slug name key states).id = id ∧
    (newCustomer billing id slug name key states).deletedAt = none := by
  unfold newCustomer
  split <;> exact ⟨rfl, rfl⟩

theorem restored_turn {customer : Customer} (found : db.customer? customer.id = some customer)
    (states : List String) :
    Turn may gone db (db.setCustomer customer.id fun _ => customer.restored db states) ∧
    (db.setCustomer customer.id fun _ => customer.restored db states).Live customer.id := by
  have same : ∀ c : Customer, c.id = customer.id → (customer.restored db states).id = c.id :=
    fun _ named => named.symm
  refine ⟨setCustomer_turn same fun _ _ deleted => absurd deleted false_ne_true,
    customer.restored db states, ?_, rfl⟩
  exact lookup_adjust_self same found

end

def CustomerCreate.customer (fresh : NewIdentity) (payload : CustomerCreate) : Nat :=
  payload.restoreCustomerId.getD fresh.id

def Created (db after : Db) (x : Uuid) (c : Nat) (link : Link) : Prop :=
  after.Live c ∧ c ∉ db.customers.map Customer.id ∧ link.Of x c

inductive Made (db after : Db) : PartyOp → Link → Prop
  | replaced {customerId : Nat} {offer : Invite} {id : Uuid} {now : Instant} {link : Link}
      (live : db.Live customerId)
      (of : link.Of offer.authUserId customerId) :
      Made db after (.replaceAccount customerId offer id now) link
  | invited {customerId : Nat} {offer : Invite} {id : Uuid} {now : Instant} {link : Link}
      (live : db.Live customerId)
      (of : link.Of offer.authUserId customerId) :
      Made db after (.inviteAccount customerId offer id now) link
  | created {payload : CustomerCreate} {fresh : NewIdentity} {offer : Invite} {invitationId : Uuid}
      {now : Instant} {link : Link}
      (live : after.Live (payload.customer fresh)) (of : link.Of offer.authUserId (payload.customer fresh)) :
      Made db after (.create payload fresh offer invitationId now) link
  /-- Signing in accepts a pending invitation. -/
  | accepted {login : SignIn} {fresh : NewIdentity} {now : Instant} {link : Link} {i : UserAccountInvitation}
      (waiting : db.waiting login.userId = some i) (live : db.Live i.customerId)
      (of : link.Of login.userId i.customerId) :
      Made db after (.signIn login fresh now) link
  /-- Signing in gives a mapped login without an account one, whether or not the mapping is
  confirmed. -/
  | signedIn {login : SignIn} {fresh : NewIdentity} {now : Instant} {c : Nat} {profile : CustomerProfile}
      (idle : db.waiting login.userId = none) (found : db.profile? login.userId = some profile)
      (maps : profile.maps c) :
      Made db after (.signIn login fresh now) (.access login.userId c)
  | signedUp {login : SignIn} {fresh : NewIdentity} {now : Instant} {link : Link}
      (created : Created db after login.userId fresh.id link) : Made db after (.signIn login fresh now) link
  | statesSet {userId : Uuid} {states : List String} {fresh : NewIdentity} {now : Instant}
      {link : Link} (created : Created db after userId fresh.id link) :
      Made db after (.setStates userId states fresh now) link
  | approved {userId : Uuid} {fresh : NewIdentity} {actor : String} {now : Instant} {link : Link}
      (created : Created db after userId fresh.id link) :
      Made db after (.decide userId .new fresh actor now) link
  | restored {userId : Uuid} {c : Nat} {fresh : NewIdentity} {actor : String} {now : Instant}
      {link : Link} (live : after.Live c) (of : link.Of userId c) :
      Made db after (.decide userId (.restore c) fresh actor now) link
  /-- A synchronisation proposes and confirms nothing. -/
  | proposed {users : List ProviderUser} {user : ProviderUser} {c : Nat} (member : user ∈ users)
      (live : db.Live c) :
      Made db after (.sync users) (.mapping user.id c)
  | mapped {userId : Uuid} {c : Nat} {confirmed : Bool} {now : Instant} (live : db.Live c) :
      Made db after (.map userId c confirmed now) (.mapping userId c)
  | confirmed {userId : Uuid} {c : Nat} {now : Instant} (live : db.Live c) :
      Made db after (.map userId c true now) (.confirmed userId c)

/-- The Customers that an operation deletes, where it succeeds. -/
def Archives (db : Db) (c : Nat) : PartyOp → Prop
  | .deleteCustomer id .. | .deleteAgent id .. | .erase id .. => c = id
  | .deleteAgency agencyId .. => ∃ customer ∈ db.customersOf agencyId, customer.id = c
  | _ => False

section
variable {env : PartyEnv} {db after : Db} {x : Uuid} {fresh : NewIdentity} {now : Instant}
  {gone : Nat → Prop} {c customerId : Nat} {registration : CustomerRegistration} {offer : Invite}
  {login : SignIn} {confirmSlug : String} {archived : Option Customer} {actor email : String}
  {payload : CustomerCreate} {invitationId : Uuid} {account : Option UserAccount}
  {hardDelete : Bool}

theorem Created.before {mid : Db} {link : Link} (same : mid.customers = db.customers)
    (created : Created mid after x c link) : Created db after x c link :=
  ⟨created.1, same ▸ created.2.1, created.2.2⟩

section
variable (found : ∀ customer, archived = some customer → db.customer? customer.id = some customer)
include found

theorem registrationCustomer_turn {customer : Customer} {may : Link → Prop}
    (done : registrationCustomer env db registration archived fresh = .ok (after, customer)) :
    Turn may gone db after ∧ after.Live customer.id ∧ customer.id = archived.elim fresh.id Customer.id ∧
    (archived = none → fresh.id ∉ db.customers.map Customer.id) := by
  unfold registrationCustomer at done
  cases archived with
  | none =>
    dsimp only at done
    cases inserted : insertCustomer db (registeredCustomer env registration fresh) with
    | error fault =>
      rw [inserted] at done
      cases done
    | ok stored =>
      rw [inserted] at done
      cases done
      obtain ⟨turn, live, new⟩ := insertCustomer_turn (newCustomer_id ..).2 inserted
      have named : (registeredCustomer env registration fresh).id = fresh.id := (newCustomer_id ..).1
      exact ⟨turn, live, named, fun _ => named ▸ new⟩
  | some archived =>
  dsimp only at done
  split at done
  · cases done
  cases done
  obtain ⟨turn, live⟩ := restored_turn (found archived rfl) registration.licensedStates
  exact ⟨turn, live, rfl, fun none_ => absurd none_ (some_ne_none _)⟩

theorem activateRegistration_turn
    (done : activateRegistration env db registration archived fresh actor now = .ok after) :
    Turn (Link.Of registration.authUserId (archived.elim fresh.id Customer.id)) gone db after ∧
    after.Live (archived.elim fresh.id Customer.id) ∧
    (archived = none → fresh.id ∉ db.customers.map Customer.id) := by
  unfold activateRegistration at done
  split at done
  · cases done
  obtain ⟨⟨mid, customer⟩, prepared, rest⟩ := bind_ok done
  obtain ⟨granted, grants, last⟩ := bind_ok rest
  cases last
  obtain ⟨turn, live, named, new⟩ := registrationCustomer_turn found prepared
  rw [← named]
  have linked := activateRegistered_relinks grants
  have recorded : Relinks (Link.Of registration.authUserId customer.id) mid
    (granted.setRegistration registration.authUserId
      (fun r => { r with
        status := .active, customerId := some customer.id, decidedAt := some now,
          decidedBy := some actor })) :=
    linked.trans (.same rfl rfl rfl rfl rfl)
  exact ⟨turn.trans recorded.turn, (live_congr recorded.customers).mpr live, new⟩

end

theorem finishStateSetup_turn (done : finishStateSetup env db registration fresh now = .ok after) :
    Turn (Created db after registration.authUserId fresh.id) gone db after := by
  unfold finishStateSetup at done
  split at done
  · obtain ⟨turn, live, new⟩ :=
      activateRegistration_turn (fun _ some_ => absurd some_.symm (some_ne_none _)) done
    exact turn.mono fun link of => ⟨live, new rfl, of⟩
  · cases done
    exact .refl db

theorem completeRegistration_turn {details : SignupDetails}
    (done : completeRegistration env db x email details fresh now = .ok after) :
    Turn (Created db after x fresh.id) gone db after := by
  unfold completeRegistration at done
  split at done
  · cases done
    exact .refl db
  obtain ⟨stored, stores, rest⟩ := bind_ok done
  have grows : ProfileGrows (Created db after x fresh.id) db.profiles
      { (db.profile? x).getD { userId := x, email } with
        firstName := details.firstName, lastName := details.lastName, phone := details.phone
        licensedStates := details.licensedStates } := by
    cases found : db.profile? x with
    | none => exact unmapped_grows rfl _
    | some profile => exact profile_grows found rfl rfl rfl
  have stored_ := storeProfile_relinks stores grows
  have kept : Relinks (Created db after x fresh.id) db stored := by
    refine Relinks.trans ?_ stored_
    exact .same rfl rfl rfl rfl rfl
  split at rest
  · cases rest
    exact kept.turn
  · have finished : Turn (Created stored after x fresh.id) gone stored after := finishStateSetup_turn rest
    exact kept.turn.trans (finished.mono fun link created => created.before kept.customers)

theorem setRegistrationStates_turn {states : List String}
    (done : setRegistrationStates env db x states fresh now = .ok after) :
    Turn (Created db after x fresh.id) gone db after := by
  unfold setRegistrationStates at done
  split at done
  · cases done
  split at done
  · cases done
  case h_2 registration found =>
  have named : registration.authUserId = x := (lookup_some found).2
  split at done
  · cases done
  split at done
  · cases done
    exact .refl db
  split at done
  · cases done
  split at done
  · cases done
  have finished : Turn _ gone _ after := finishStateSetup_turn done
  rw [named] at finished
  have chosen : Relinks (Created db after x fresh.id) db
      (db.setRegistration x fun r => { r with licensedStates := states }) := .same rfl rfl rfl rfl rfl
  refine Turn.trans (chosen.trans ?_).turn (finished.mono fun link created => created.before rfl)
  refine ⟨rfl, rfl, .refl _, .refl _, fun p member c mapped => ?_, id⟩
  rcases mem_adjust.mp member with ⟨q, stored, _, rfl⟩ | ⟨stored, _⟩
  · exact .inl ⟨q, stored, rfl, mapped, id⟩
  · exact .inl ⟨p, stored, rfl, mapped, id⟩

theorem restorable_ok {matches_ : List Nat} {mismatch missing : Fault} {customer : Customer}
    (done : restorable db matches_ customerId mismatch missing = .ok customer) :
    customer.id = customerId ∧ db.customer? customer.id = some customer ∧ customer.deletedAt ≠ none := by
  unfold restorable at done
  split at done
  · cases done
  split at done
  · cases done
  case h_2 stored found =>
  obtain ⟨archived, done⟩ := guard_ok done
  cases done
  have named : customer.id = customerId := (lookup_some found).2
  exact ⟨named, named ▸ found, (not_or.mp (not_or.mp archived).2).1⟩

theorem decideRegistration_turn {decision : RegistrationDecision}
    (done : decideRegistration env db x decision fresh actor now = .ok after) :
    Turn (Made db after (.decide x decision fresh actor now)) gone db after := by
  unfold decideRegistration at done
  split at done
  · cases done
  case h_2 registration found =>
  have named : registration.authUserId = x := (lookup_some found).2
  subst named
  split at done
  · cases done
  split at done
  · cases done
  cases decision with
  | reject =>
    cases done
    exact Relinks.turn (.same rfl rfl rfl rfl rfl)
  | new =>
    obtain ⟨turn, live, new⟩ :=
      activateRegistration_turn (fun _ some_ => absurd some_.symm (some_ne_none _)) done
    exact turn.mono fun link of => .approved ⟨live, new rfl, of⟩
  | restore customerId =>
  obtain ⟨customer, chosen, rest⟩ := bind_ok done
  obtain ⟨rfl, stored, _⟩ := restorable_ok chosen
  have given : ∀ other, some customer = some other → db.customer? other.id = some other := by
    rintro other ⟨⟩
    exact stored
  obtain ⟨turn, live, _⟩ := activateRegistration_turn given rest
  exact turn.mono fun link of => .restored live of

theorem lockedCustomer_ok {customer : Customer} (done : lockedCustomer db customerId = .ok customer) :
    customer.id = customerId ∧ db.customer? customerId = some customer ∧ customer.deletedAt = none := by
  unfold lockedCustomer at done
  split at done
  · cases done
  case h_2 stored found =>
  obtain ⟨undeleted, done⟩ := guard_ok done
  cases done
  exact ⟨(lookup_some found).2, found, not_isSome_iff_eq_none.mp undeleted⟩

theorem invite_turn {customer : Customer} {id : Uuid} (locked : lockedCustomer db customerId = .ok customer)
    (done : (inviteUserAccount env.casing db customer offer id now).map Prod.fst = .ok after) :
    Turn (fun link => db.Live customerId ∧ link.Of offer.authUserId customerId) gone db after := by
  obtain ⟨rfl, found, undeleted⟩ := lockedCustomer_ok locked
  obtain ⟨result, invited⟩ := map_fst_ok done
  exact ((inviteUserAccount_relinks invited).2.2.mono fun link of => ⟨⟨customer, found, undeleted⟩, of⟩).turn

theorem provisionCustomer_relinks {customer : Customer}
    (done : provisionCustomer env db customer payload offer invitationId now = .ok after) :
    Relinks (Link.Of offer.authUserId customer.id) db after := by
  obtain ⟨stored, stores, rest⟩ := bind_ok done
  obtain ⟨result, invited⟩ := map_fst_ok rest
  have grows : ProfileGrows (Link.Of offer.authUserId customer.id) db.profiles
    (invitedProfile env db payload offer.authUserId) := by
    unfold invitedProfile
    split
    · exact unmapped_grows rfl _
    case h_2 profile found => exact profile_grows found rfl rfl rfl
  exact (storeProfile_relinks stores grows).trans (inviteUserAccount_relinks invited).2.2

theorem createCustomer_turn (done : createCustomer env db payload fresh offer invitationId now = .ok after) :
    Turn (fun link => after.Live (payload.customer fresh) ∧
    link.Of offer.authUserId (payload.customer fresh)) gone db after := by
  rw [createCustomer] at done
  split at done
  · cases done
  split at done
  · cases done
  split at done
  case h_1 customerId restores =>
    have named : payload.customer fresh = customerId := by rw [CustomerCreate.customer, restores, getD_some]
    rw [named]
    split at done
    · cases done
    obtain ⟨archived, chosen, rest⟩ := bind_ok done
    obtain ⟨rfl, stored, _⟩ := restorable_ok chosen
    obtain ⟨turn, live⟩ := restored_turn stored archived.licensedStates
    have linked := provisionCustomer_relinks rest
    have still := (live_congr linked.customers).mpr live
    exact turn.trans (linked.mono fun link of => ⟨still, of⟩).turn
  case h_2 absent =>
  have named : payload.customer fresh = fresh.id := by rw [CustomerCreate.customer, absent, getD_none]
  rw [named]
  split at done
  · cases done
  obtain ⟨inserted, inserts, rest⟩ := bind_ok done
  obtain ⟨turn, live, _⟩ := insertCustomer_turn (newCustomer_id ..).2 inserts
  have linked := provisionCustomer_relinks rest
  have still := (live_congr linked.customers).mpr live
  rw [(newCustomer_id ..).1] at linked still
  exact turn.trans (linked.mono fun link of => ⟨still, of⟩).turn

theorem signInAccount_relinks (done : signInAccount db login account c now = .ok after) :
    Relinks (fun link => account = none ∧ link = .access login.userId c) db after := by
  unfold signInAccount at done
  cases account with
  | none =>
    dsimp only at done
    split at done
    · cases done
    cases done
    refine ⟨rfl, rfl, fun a member d held => ?_, .refl _, .refl _, id⟩
    rcases mem_append.mp member with stored | new
    · exact .inl ⟨a, stored, rfl, held⟩
    cases mem_singleton.mp new
    cases (activeFor_iff.mp held).1
    exact .inr ⟨rfl, rfl⟩
  | some account =>
    dsimp only at done
    split at done
    · cases done
    cases done
    exact .refl db

theorem signInProfile_relinks (done : signInProfile db login account now = .ok after) :
    Relinks (fun link => account = none ∧ ∃ c profile, db.profile? login.userId = some profile ∧
    profile.maps c ∧
    link = .access login.userId c) db after := by
  unfold signInProfile at done
  split at done
  · exact storeProfile_relinks done (unmapped_grows rfl _)
  case h_2 profile found =>
  obtain ⟨stored, stores, rest⟩ := bind_ok done
  have kept :
    Relinks (fun link => account = none ∧ ∃ c profile, db.profile? login.userId = some profile ∧
    profile.maps c ∧
      link = .access login.userId c) db stored :=
    storeProfile_relinks stores (profile_grows found rfl rfl rfl)
  split at rest
  · cases rest
    exact kept
  case h_2 c mapped =>
    exact kept.trans ((signInAccount_relinks rest).mono fun link made =>
      ⟨made.1, c, profile, found, mapped, made.2⟩)

theorem createSession_turn (done : createSession env db login fresh now = .ok after) :
    Turn (Made db after (.signIn login fresh now)) gone db after := by
  obtain ⟨⟨joined, answer⟩, accepts, rest⟩ := bind_ok done
  have first : Relinks (Made db after (.signIn login fresh now)) db joined :=
    (accept_relinks accepts).mono fun link made => made.elim fun i reason =>
      .accepted reason.1 reason.2.1 reason.2.2
  dsimp only at rest
  split at rest
  · cases rest
  obtain ⟨stored, signs, last⟩ := bind_ok rest
  have second : Relinks (Made db after (.signIn login fresh now)) joined stored := by
    refine (signInProfile_relinks signs).mono fun link made => ?_
    obtain ⟨absent, c, profile, found, maps, rfl⟩ := made
    -- a login that has just accepted has an account, so this one accepted nothing
    rcases accept_account accepts with ⟨idle, rfl⟩ | account
    · exact .signedIn idle found maps
    rw [absent] at account
    exact absurd account false_ne_true
  have both : Turn (Made db after (.signIn login fresh now)) gone db stored := (first.trans second).turn
  split at last
  · cases last
    exact both
  split at last
  · cases last
    exact both
  split at last
  · cases last
  split at last
  · cases last
  have registered : Turn _ gone stored after := completeRegistration_turn last
  exact both.trans (registered.mono fun link created =>
    .signedUp (created.before (second.customers.trans first.customers)))

theorem proposedCustomer_mem {customers : List Customer} {firstName lastName : String} {customer : Customer}
    (proposed : proposedCustomer env customers email firstName lastName = some customer) :
    customer ∈ customers := by
  obtain ⟨slug, _, found⟩ := List.exists_of_findSome?_eq_some proposed
  exact (lookup_some found).1

section
variable (keyed : Keyed Customer.id db.customers)
include keyed

theorem mappable_live {customer : Customer} (member : customer ∈ mappableCustomers db) :
    db.Live customer.id := by
  obtain ⟨stored, standing⟩ := mem_filter.mp member
  simp only [and_eq_true, Option.isNone_iff_eq_none] at standing
  exact ⟨customer, lookup_of_mem keyed stored, standing.1.2⟩

theorem syncedProfile_grows {may : Link → Prop} {current : Db} {user : ProviderUser}
    (proposes : ∀ c, db.Live c → may (.mapping user.id c)) :
    ProfileGrows may current.profiles (syncedProfile env (mappableCustomers db) current user) := by
  unfold syncedProfile
  cases found : current.profile? user.id with
  | none =>
    dsimp only
    split
    · exact unmapped_grows rfl _
    case h_2 customer proposed =>
    intro c maps
    cases maps
    exact .inr ⟨proposes _ (mappable_live keyed (proposedCustomer_mem proposed)), fun yes =>
      absurd yes false_ne_true⟩
  | some profile =>
  have login : profile.userId = user.id := (lookup_some found).2
  dsimp only
  split
  · exact profile_grows found rfl rfl rfl
  case h_2 unmapped =>
  split
  · exact profile_grows found rfl rfl rfl
  case h_2 customer proposed =>
  intro c maps
  cases maps
  refine .inr ⟨?_, fun yes => absurd yes false_ne_true⟩
  rw [login]
  exact proposes _ (mappable_live keyed (proposedCustomer_mem proposed))

theorem syncUserAccounts_turn {users : List ProviderUser}
    (done : syncUserAccounts env db users = .ok after) :
    Turn (Made db after (.sync users)) gone db after := by
  -- the loop's step says what user it is at, so the users done so far are part of the invariant
  have loop : ∀ (rest : List ProviderUser), (∀ user ∈ rest, user ∈ users) →
    ∀ current, Relinks (Made db after (.sync users)) db current →
      rest.foldlM (fun current user => storeProfile current
        (syncedProfile env (mappableCustomers db) current user)) current =
        .ok after → Relinks (Made db after (.sync users)) db after := by
    intro rest
    induction rest with
    | nil =>
      intro _ current linked last
      cases last
      exact linked
    | cons user rest ih =>
    intro listed current linked turns
    rw [List.foldlM_cons] at turns
    obtain ⟨next, stores, later⟩ := bind_ok turns
    have here : user ∈ users := listed user mem_cons_self
    have grows : ProfileGrows (Made db after (.sync users)) current.profiles
        (syncedProfile env (mappableCustomers db) current user) :=
      syncedProfile_grows keyed fun c live => .proposed here live
    exact ih (fun other member => listed other (mem_cons_of_mem user member)) next
      (linked.trans (storeProfile_relinks stores grows)) later
  exact (loop users (fun _ member => member) db (.refl db) done).turn

end

theorem mapUserAccountCustomer_turn {confirmed : Bool}
    (done : mapUserAccountCustomer db x c confirmed now = .ok after) :
    Turn (Made db after (.map x c confirmed now)) gone db after := by
  unfold mapUserAccountCustomer at done
  split at done
  case h_1 profile customer known found =>
    obtain ⟨standing, done⟩ := guard_ok done
    split at done
    · cases done
      exact .refl db
    cases done
    have named : customer.id = c := (lookup_some found).2
    have live : db.Live c :=
      ⟨customer, found, not_isSome_iff_eq_none.mp (not_or.mp (not_or.mp standing).2).1⟩
    subst named
    refine Relinks.turn ⟨rfl, rfl, .refl _, .refl _, fun p member d maps => ?_, id⟩
    rcases mem_adjust.mp member with ⟨q, stored, here, rfl⟩ | ⟨stored, _⟩
    · cases maps
      refine .inr ⟨here ▸ .mapped live, fun yes => ?_⟩
      cases confirmed with
      | true => exact here ▸ .confirmed live
      | false => exact absurd yes false_ne_true
    · exact .inl ⟨p, stored, rfl, maps, id⟩
  · cases done

section
variable {may : Link → Prop}

theorem updateProfiles_relinks (ids : List Nat) {f : CustomerProfile → CustomerProfile}
    (login : ∀ p, (f p).userId = p.userId) (maps : ∀ p c, (f p).maps c → p.maps c)
    (unconfirmed : ∀ p, (f p).mappingConfirmedAt = none) :
    Relinks may db (db.updateProfiles ids f) := by
  refine ⟨rfl, rfl, .refl _, .refl _, fun p member c mapped => ?_, id⟩
  obtain ⟨q, stored, rfl⟩ := mem_map.mp member
  split at mapped
  case isTrue chosen =>
    rw [if_pos chosen]
    refine .inl ⟨q, stored, (login q).symm, maps q c mapped, fun yes => ?_⟩
    rw [unconfirmed q] at yes
    exact absurd yes false_ne_true
  case isFalse other =>
  rw [if_neg other]
  exact .inl ⟨q, stored, rfl, mapped, id⟩

theorem updateAccounts_relinks (c : Nat) {f : UserAccount → UserAccount}
    (login : ∀ a, (f a).authUserId = a.authUserId) (inactive : ∀ a, (f a).active = false) :
    Relinks may db (db.updateAccounts c f) := by
  refine ⟨rfl, rfl, .map (fun a => ?_) (fun a d held => ?_) _, .refl _, .refl _, id⟩
  · split
    · exact login a
    · rfl
  split at held
  · exact absurd ((inactive a).symm.trans (activeFor_iff.mp held).2) false_ne_true
  · exact held

theorem cancelInvitation_relinks (customer : Customer) :
    Relinks may db (cancelUserAccountInvitation db customer now).1 := by
  unfold cancelUserAccountInvitation
  split
  · exact .refl db
  · exact setInvitation_relinks _ (fun _ => rfl) (fun _ => rfl) fun _ => rfl

theorem rememberCustomerName_relinks (customer : Customer) (updatedAt : Uuid → Instant) :
    Relinks may db (rememberCustomerName db customer updatedAt) := by
  unfold rememberCustomerName
  dsimp only
  split
  · exact .refl db
  · exact .same rfl rfl rfl rfl rfl

end

theorem archiveCustomer_turn (customer : Customer) (updatedAt : Uuid → Instant) {may : Link → Prop} :
    Turn may (· = customer.id) db (archiveCustomer db customer updatedAt now) := by
  unfold archiveCustomer
  have remembered : Relinks may db (rememberCustomerName db customer updatedAt) :=
    rememberCustomerName_relinks customer updatedAt
  have unmapped :=
    remembered.trans (updateProfiles_relinks [customer.id] (f := CustomerProfile.archived)
    (fun _ => rfl) (fun _ c maps => absurd maps.symm (some_ne_none c)) fun _ => rfl)
  have inactive :=
    unmapped.trans (updateAccounts_relinks customer.id (f := UserAccount.deactivated now)
    (fun _ => rfl) fun _ => rfl)
  have canceled : Relinks may db (cancelUserAccountInvitation _ customer now).1 :=
    inactive.trans (cancelInvitation_relinks customer)
  exact canceled.turn.trans (setCustomer_turn (fun _ _ => rfl) fun _ _ _ => .inr rfl)

theorem dropCustomer_turn (c : Nat) {may : Link → Prop} : Turn may gone db (db.dropCustomer c) := by
  refine ⟨rfl, .refl _, .refl _, .refl _, id, fun keyed => ?_, fun customer member deleted => ?_⟩
  · exact List.Nodup.sublist (List.Sublist.map _ filter_sublist) keyed
  · exact .inl ⟨customer, (mem_filter.mp member).1, rfl, deleted⟩

theorem deleteCustomer_ok {updatedAt : Uuid → Instant}
    (done : deleteCustomer db c confirmSlug hardDelete updatedAt now = .ok after) :
    ∃ customer, customer.id = c ∧
    (after = db.dropCustomer c ∨ after = archiveCustomer db customer updatedAt now) := by
  obtain ⟨customer, locked, rest⟩ := bind_ok done
  obtain ⟨rfl, _, _⟩ := lockedCustomer_ok locked
  split at rest
  · cases rest
  split at rest
  · cases rest
  split at rest
  · split at rest
    · cases rest
    cases rest
    exact ⟨customer, rfl, .inl rfl⟩
  · cases rest
    exact ⟨customer, rfl, .inr rfl⟩

theorem archiveAgent_turn (c : Nat) {may : Link → Prop} : Turn may (· = c) db (archiveAgent db c now) := by
  have unmapped : Relinks may db (db.updateProfiles [c] CustomerProfile.unmapped) :=
    updateProfiles_relinks [c] (fun _ => rfl) (fun _ d maps => absurd maps.symm (some_ne_none d))
      fun _ => rfl
  exact unmapped.turn.trans (setCustomer_turn (fun _ _ => rfl) fun _ _ _ => .inr rfl)

theorem deleteAgent_ok (done : deleteAgent db c confirmSlug now = .ok after) :
    after = archiveAgent db c now := by
  unfold deleteAgent at done
  split at done
  · cases done
  case h_2 agent found =>
  have named : agent.id = c := (lookup_some found).2
  split at done
  · cases done
  split at done
  · cases done
  split at done
  · cases done
  cases done
  rw [named]

theorem deletedWith_id (agencyId : Nat) (customer : Customer) :
    (customer.deletedWith agencyId now).id = customer.id := by
  unfold Customer.deletedWith
  split <;> rfl

theorem archiveAgency_turn (agencyId : Nat) {may : Link → Prop} :
    Turn may (fun c => ∃ customer ∈ db.customersOf agencyId, customer.id = c) db
    (archiveAgency db agencyId now) := by
  have unmapped :
    Relinks may db
    (db.updateProfiles ((db.customersOf agencyId).map Customer.id) CustomerProfile.unmapped) :=
    updateProfiles_relinks _ (fun _ => rfl) (fun _ d maps => absurd maps.symm (some_ne_none d)) fun _ => rfl
  refine ⟨unmapped.requests, unmapped.accounts, unmapped.invitations, unmapped.profiles,
    unmapped.pending, fun keyed => ?_, fun c member deleted => ?_⟩
  · have same : (db.customers.map (Customer.deletedWith agencyId now)).map Customer.id =
      db.customers.map Customer.id := by
      rw [map_map]
      exact map_congr_left fun c _ => deletedWith_id agencyId c
    exact (congrArg List.Nodup same).mpr keyed
  obtain ⟨b, stored, rfl⟩ := mem_map.mp member
  by_cases joined : b.agencyId = some agencyId
  · exact .inr ⟨b, mem_filter.mpr ⟨stored, decide_eq_true joined⟩, (deletedWith_id agencyId b).symm⟩
  unfold Customer.deletedWith at deleted ⊢
  rw [if_neg joined] at deleted ⊢
  exact .inl ⟨b, stored, rfl, deleted⟩

theorem deleteAgency_ok {agencyId : Nat}
    (done : deleteAgency db agencyId confirmSlug hardDelete now = .ok after) :
    after = { db with agencies := db.agencies.filter (fun a => a.id ≠ agencyId) } ∨
      after = archiveAgency db agencyId now := by
  unfold deleteAgency at done
  split at done
  · cases done
  case h_2 agency found =>
  have named : agency.id = agencyId := (lookup_some found).2
  subst named
  dsimp only at done
  split at done
  · cases done
  split at done
  · cases done
  split at done
  · cases done
  split at done
  · cases done
  split at done
  · split at done
    · cases done
    cases done
    exact .inl rfl
  split at done
  · cases done
  cases done
  exact .inr rfl

theorem erasedInvitation (email : String) (at_ : Instant) (i : UserAccountInvitation) :
    (i.erased email at_).authUserId = i.authUserId ∧
    (i.erased email at_).customerId = i.customerId ∧ (i.erased email at_).isPending = false := by
  unfold UserAccountInvitation.erased
  dsimp only
  split
  · exact ⟨rfl, rfl, rfl⟩
  case isFalse closed => exact ⟨rfl, rfl, eq_false_of_ne_true closed⟩

theorem erasePersonalData_turn (c : Nat) (opaqueKey : String) {may : Link → Prop} :
    Turn may (· = c) db (erasePersonalData db c opaqueKey now) := by
  let email := anonymousEmail opaqueKey
  have profiles : Relinks may db (db.updateProfiles [c] (CustomerProfile.erased email)) :=
    updateProfiles_relinks [c] (fun _ => rfl) (fun _ _ maps => maps) fun _ => rfl
  have accounts : Relinks may db ((db.updateProfiles [c] (CustomerProfile.erased email)).updateAccounts c
      (UserAccount.erased email now)) :=
    profiles.trans (updateAccounts_relinks c (fun _ => rfl) fun _ => rfl)
  have keeps : ∀ i : UserAccountInvitation,
    (if i.customerId = c then i.erased email now else i).authUserId = i.authUserId ∧
      (if i.customerId = c then i.erased email now else i).customerId = i.customerId ∧
      ((if i.customerId = c then i.erased email now else i).isPending → i.isPending) := by
    intro i
    obtain ⟨login, customer, closed⟩ := erasedInvitation email now i
    split
    · exact ⟨login, customer, fun pending => absurd (closed.symm.trans pending) false_ne_true⟩
    · exact ⟨rfl, rfl, id⟩
  have customers : Turn may (· = c) db (db.setCustomer c (Customer.erased now)) :=
    setCustomer_turn (fun _ _ => rfl) fun _ _ _ => .inr rfl
  exact ⟨accounts.requests, accounts.accounts, .map (fun i => (keeps i).1) (fun i => (keeps i).2.1)
    (fun i => (keeps i).2.2) _, accounts.profiles,
    pendingUnique_map (fun i => (keeps i).2.1) fun i => (keeps i).2.2, customers.keyed, customers.deleted⟩

theorem erase_ok {opaqueKey : String} (done : eraseCustomerPersonalData db c opaqueKey now = .ok after) :
    after = db ∨ after = erasePersonalData db c opaqueKey now := by
  unfold eraseCustomerPersonalData at done
  split at done
  · cases done
  case h_2 customer found =>
  have named : customer.id = c := (lookup_some found).2
  subst named
  split at done
  · cases done
  split at done
  · cases done
    exact .inl rfl
  split at done
  · cases done
    exact .inr rfl
  · cases done

end

theorem run_turn {env : PartyEnv} {db after : Db} {op : PartyOp} (keyed : Keyed Customer.id db.customers)
    (done : op.run env db = .ok after) : Turn (Made db after op) (fun c => Archives db c op) db after := by
  cases op with
  | updateCustomer customerId name active agencyId =>
    cases updateCustomer_cases done
    exact setCustomer_turn (fun _ _ => rfl) fun _ _ deleted => .inl deleted
  | updateAgency agencyId name reason active =>
    cases updateAgency_cases done
    exact Relinks.turn (.same rfl rfl rfl rfl rfl)
  | deleteCustomer c confirmSlug hardDelete updatedAt now =>
    obtain ⟨customer, rfl, rfl | rfl⟩ := deleteCustomer_ok done
    · exact dropCustomer_turn customer.id
    · exact archiveCustomer_turn customer updatedAt
  | deleteAgent c confirmSlug now =>
    cases deleteAgent_ok done
    exact archiveAgent_turn c
  | deleteAgency agencyId confirmSlug hardDelete now =>
    rcases deleteAgency_ok done with rfl | rfl
    · exact Relinks.turn (.same rfl rfl rfl rfl rfl)
    · exact archiveAgency_turn agencyId
  | erase c opaqueKey now =>
    rcases erase_ok done with rfl | rfl
    · exact .refl _
    · exact erasePersonalData_turn c opaqueKey
  | replaceAccount c offer id now =>
    obtain ⟨customer, locked, rest⟩ := bind_ok done
    exact (invite_turn locked rest).mono fun link made => .replaced made.1 made.2
  | inviteAccount c offer id now =>
    obtain ⟨customer, locked, rest⟩ := bind_ok done
    split at rest
    · cases rest
    split at rest
    · cases rest
    exact (invite_turn locked rest).mono fun link made => .invited made.1 made.2
  | cancelInvitation c now =>
    obtain ⟨customer, locked, rest⟩ := bind_ok done
    have canceled : Relinks (Made db after (.cancelInvitation c now)) db
      (cancelUserAccountInvitation db customer now).1 := cancelInvitation_relinks customer
    split at rest
    · cases rest
    case h_2 named =>
    cases rest
    rw [named] at canceled
    exact canceled.turn
  | create payload fresh offer invitationId now =>
    exact (createCustomer_turn done).mono fun link made => .created made.1 made.2
  | signIn login fresh now => exact createSession_turn done
  | setStates userId states fresh now =>
    exact (setRegistrationStates_turn done).mono fun link created => .statesSet created
  | decide userId decision fresh actor now =>
    exact decideRegistration_turn done
  | sync users => exact syncUserAccounts_turn keyed done
  | map userId c confirmed now => exact mapUserAccountCustomer_turn done

end Jawnix
