import Jawnix.Library.Seats
import Jawnix.UserAccounts

/-!
# Access to a Customer along runs

Inviting, accepting, cancelling and activating a registration refine the handing
over of seats: a Customer is a seat, an active User Account its holder, a pending
invitation an offer.
-/
namespace Jawnix

inductive AccessOp where
  | invite (customerId : Nat) (offer : Invite) (id : Uuid) (now : Instant)
  | accept (authUserId : Uuid) (email : String) (now : Instant)
  | cancel (customerId : Nat) (now : Instant)
  | register (customerId : Nat) (authUserId : Uuid) (email : String) (now : Instant)

def lockedCustomer (db : Db) (customerId : Nat) : Except Fault Customer :=
  match db.customer? customerId with
  | none => .error (.http 404 "Customer was not found.")
  | some customer =>
    if customer.deletedAt.isSome then .error (.http 404 "Customer was not found.") else .ok customer

def AccessOp.run (casing : Casing) (db : Db) : AccessOp → Except Fault Db
  | .invite customerId offer id now => do
    let customer ← lockedCustomer db customerId
    (inviteUserAccount casing db customer offer id now).map Prod.fst
  | .accept authUserId email now => (acceptUserAccountInvitation casing db authUserId email now).map Prod.fst
  | .cancel customerId now => do
    let customer ← lockedCustomer db customerId
    .ok (cancelUserAccountInvitation db customer now).1
  | .register customerId authUserId email now =>
    match db.customer? customerId with
    | none => .error (.lookup "Customer was not found.")
    | some customer => activateRegisteredUserAccount casing db customer authUserId email now

def accessStep (casing : Casing) (db : Db) (op : AccessOp) : Db := commit db (op.run casing db)

def Db.Accesses (db : Db) (authUserId : Uuid) (customerId : Nat) : Prop :=
  ∃ account, db.userAccount? authUserId = some account ∧ account.activeFor customerId

instance (db : Db) (authUserId : Uuid) (customerId : Nat) : Decidable (db.Accesses authUserId customerId) :=
  decidable_of_iff _ (Option.any_eq_true (UserAccount.activeFor customerId) (db.userAccount? authUserId))

variable (db : Db)

def Db.Invited (authUserId : Uuid) (customerId : Nat) : Prop :=
  ∃ i ∈ db.invitations, i.isPending ∧ i.authUserId = authUserId ∧ i.customerId = customerId

def Db.seats : Seats.State Uuid Nat where
  held := {p | db.Accesses p.1 p.2}
  offered := {p | db.Invited p.1 p.2}

structure AccountSchema : Prop where
  accounts : Keyed UserAccount.authUserId db.userAccounts
  invitations : Keyed UserAccountInvitation.id db.invitations
  pending : Keyed UserAccountInvitation.customerId (db.invitations.filter UserAccountInvitation.isPending)

section
variable {db : Db} {x : Uuid} {c : Nat}

theorem activeFor_iff {account : UserAccount} :
    account.activeFor c ↔ account.customerId = some c ∧ account.active := by
  unfold UserAccount.activeFor
  rw [and_eq_true, decide_eq_true_eq]

theorem move_to {after : Db} {label : Seats.Label Uuid Nat} {t : Seats.State Uuid Nat}
    (move : Seats.Move db.seats label t) (held : ∀ y d, after.Accesses y d ↔ (y, d) ∈ t.held)
    (offered : ∀ y d, after.Invited y d ↔ (y, d) ∈ t.offered) :
    Seats.Move db.seats label after.seats := by
  have seats : after.seats = t := by
    unfold Db.seats
    congr 1
    · ext ⟨y, d⟩
      exact held y d
    · ext ⟨y, d⟩
      exact offered y d
  rw [seats]
  exact move

theorem mem_of_accesses (accesses : db.Accesses x c) :
    ∃ a ∈ db.userAccounts, a.authUserId = x ∧ a.activeFor c := by
  obtain ⟨account, found, active⟩ := accesses
  exact ⟨account, (lookup_some found).1, (lookup_some found).2, active⟩

theorem accesses_of_mem (schema : AccountSchema db) {a : UserAccount} (member : a ∈ db.userAccounts)
    (active : a.activeFor c) : db.Accesses a.authUserId c :=
  ⟨a, lookup_of_mem schema.accounts member, active⟩

theorem vacant_of_none (absent : activeUserAccount db c = none) (y : Uuid) : ¬db.Accesses y c := by
  intro accesses
  obtain ⟨a, member, _, active⟩ := mem_of_accesses accesses
  exact find?_eq_none.mp absent a member active

theorem unoffered_of_none (absent : pendingInvitation db c = none) (y : Uuid) : ¬db.Invited y c := by
  rintro ⟨i, member, pending, _, customer⟩
  exact find?_eq_none.mp absent i member (and_eq_true_iff.mpr ⟨decide_eq_true customer, pending⟩)

theorem refuseForeignAccount_ok (done : refuseForeignAccount db x c = .ok ()) : Seats.Free db.seats x c := by
  obtain ⟨unused, done⟩ := guard_ok done
  obtain ⟨uninvited, done⟩ := guard_ok done
  constructor
  · rintro d ⟨account, found, active⟩
    obtain ⟨named, active⟩ := activeFor_iff.mp active
    by_contra other
    refine unused ?_
    rw [found, any_some, active, named, any_some, Bool.true_and]
    exact decide_eq_true other
  rintro d ⟨i, member, pending, identity, customer⟩
  by_contra other
  refine uninvited (any_eq_true.mpr ⟨i, member, ?_⟩)
  rw [pending, Bool.and_true, and_eq_true, decide_eq_true_eq, decide_eq_true_eq, customer]
  exact ⟨identity, other⟩

/-- `next(active)` over the locked accounts finds the active account, whatever their order. -/
theorem lockedAccounts_none (absent : (lockedAccounts db c).find? UserAccount.active = none) :
    activeUserAccount db c = none := by
  refine find?_eq_none.mpr fun a member active => ?_
  obtain ⟨named, isActive⟩ := activeFor_iff.mp active
  refine find?_eq_none.mp absent a ?_ isActive
  unfold lockedAccounts
  rw [List.mem_insertionSort, mem_filter, decide_eq_true_eq]
  exact ⟨member, named⟩

theorem confirmProfile_frame {casing : Casing} {customer : Customer} {email : String}
    {now : Instant} {after : Db}
    (done : confirmProfile casing db customer x email now = .ok after) :
    ∃ profiles, after = { db with profiles } := by
  obtain ⟨states, _, rest⟩ := bind_ok done
  split at rest
  · cases rest
  cases rest
  exact ⟨_, rfl⟩

theorem accesses_grantAccount (account : UserAccount) (customerId : Nat)
    (named : account.customerId = some customerId) (active : account.active) (y : Uuid) (d : Nat) :
    (grantAccount db account).Accesses y d ↔
    (y = account.authUserId ∧ d = customerId) ∨ (db.Accesses y d ∧ y ≠ account.authUserId) := by
  unfold Db.Accesses Db.userAccount? grantAccount
  rw [Rows.lookup_upsert fun _ _ => rfl]
  by_cases here : account.authUserId = y
  · subst here
    rw [if_pos rfl]
    -- new or not, the account is active for the Customer alone
    have granted : ∀ e, ((lookup UserAccount.authUserId account.authUserId db.userAccounts).elim account
        (fun old => old.regranted account)).activeFor e ↔ e = customerId := by
      intro e
      rw [activeFor_iff]
      cases lookup UserAccount.authUserId account.authUserId db.userAccounts with
      | none =>
        rw [Option.elim_none, named, some.injEq]
        exact ⟨fun both => both.1.symm, fun same => ⟨same.symm, active⟩⟩
      | some old =>
        change account.customerId = some e ∧ true ↔ _
        rw [named, some.injEq]
        exact ⟨fun both => both.1.symm, fun same => ⟨same.symm, rfl⟩⟩
    constructor
    · rintro ⟨_, found, isActive⟩
      cases found
      exact .inl ⟨rfl, (granted d).mp isActive⟩
    rintro (⟨_, same⟩ | ⟨_, other⟩)
    · exact ⟨_, rfl, (granted d).mpr same⟩
    · exact absurd rfl other
  · rw [if_neg here]
    constructor
    · exact fun accesses => .inr ⟨accesses, Ne.symm here⟩
    rintro (⟨same, _⟩ | ⟨accesses, _⟩)
    · exact absurd same.symm here
    · exact accesses

theorem activate_ok {casing : Casing} {customer : Customer} {email : String} {now : Instant} {after : Db}
    (done : activate casing db customer x email now = .ok after) (schema : AccountSchema db) :
    AccountSchema after ∧ after.invitations = db.invitations ∧
    ∀ y d, after.Accesses y d ↔ (y = x ∧ d = customer.id) ∨ (db.Accesses y d ∧ y ≠ x) := by
  obtain ⟨profiles, rfl⟩ := confirmProfile_frame done
  exact ⟨⟨Rows.keyed_upsert (fun _ _ => rfl) schema.accounts, schema.invitations, schema.pending⟩,
    rfl, accesses_grantAccount _ customer.id rfl rfl⟩

theorem accesses_retireAccounts (db : Db) (customerId : Nat) (authUserId : Uuid) (now : Instant)
    (y : Uuid) (d : Nat) :
    (retireAccounts db customerId authUserId now).Accesses y d ↔
    db.Accesses y d ∧ (d = customerId → y = authUserId) := by
  unfold Db.Accesses Db.userAccount? retireAccounts
  rw [lookup_map]
  · constructor
    · rintro ⟨account, found, active⟩
      obtain ⟨before, stored, rfl⟩ := map_eq_some_iff.mp found
      split at active
      · cases (activeFor_iff.mp active).2
      case isFalse kept =>
      refine ⟨⟨before, stored, active⟩, ?_⟩
      rintro rfl
      by_contra other
      refine kept (and_eq_true_iff.mpr ⟨active, decide_eq_true ?_⟩)
      rw [(lookup_some stored).2]
      exact other
    rintro ⟨⟨account, stored, active⟩, own⟩
    refine ⟨account, map_eq_some_iff.mpr ⟨account, stored, if_neg fun retired => ?_⟩, active⟩
    obtain ⟨theirs, other⟩ := and_eq_true_iff.mp retired
    have same : d = customerId :=
      some.inj ((activeFor_iff.mp active).1.symm.trans (activeFor_iff.mp theirs).1)
    exact of_decide_eq_true other ((lookup_some stored).2.trans (own same))
  · intro account
    split <;> rfl

theorem retireAccounts_schema (schema : AccountSchema db) (customerId : Nat) (authUserId : Uuid)
    (now : Instant) : AccountSchema (retireAccounts db customerId authUserId now) := by
  refine ⟨?_, schema.invitations, schema.pending⟩
  unfold Keyed retireAccounts
  rw [map_map]
  have same : (UserAccount.authUserId ∘ fun a =>
      if a.activeFor customerId && a.authUserId ≠ authUserId then a.retired authUserId now else a) =
        UserAccount.authUserId := by
    funext a
    dsimp only [Function.comp]
    split <;> rfl
  rw [same]
  exact schema.accounts

theorem invited_close (schema : AccountSchema db) {i : UserAccountInvitation} (member : i ∈ db.invitations)
    (pending : i.isPending) {f : UserAccountInvitation → UserAccountInvitation}
    (closes : ∀ j, (f j).isPending = false)
    (y : Uuid) (d : Nat) : (db.setInvitation i.id f).Invited y d ↔ db.Invited y d ∧ d ≠ i.customerId := by
  constructor
  · rintro ⟨j, stored, open_, identity, customer⟩
    rcases mem_adjust.mp stored with ⟨before, _, _, rfl⟩ | ⟨stored, other⟩
    · exact nomatch (closes before).symm.trans open_
    refine ⟨⟨j, stored, open_, identity, customer⟩, fun same => other ?_⟩
    rw [eq_of_mem_of_key schema.pending (mem_filter.mpr ⟨stored, open_⟩) (mem_filter.mpr ⟨member, pending⟩)
      (customer.trans same)]
  rintro ⟨⟨j, stored, open_, identity, customer⟩, other⟩
  refine ⟨j, mem_adjust.mpr (.inr ⟨stored, fun same => other ?_⟩), open_, identity, customer⟩
  rw [← customer, eq_of_mem_of_key schema.invitations stored member same]

theorem setInvitation_schema (schema : AccountSchema db) (id : Uuid)
    {f : UserAccountInvitation → UserAccountInvitation} (closes : ∀ j, (f j).isPending = false)
    (same : ∀ j, (f j).id = j.id) : AccountSchema (db.setInvitation id f) := by
  refine ⟨schema.accounts, keyed_adjust (fun j _ => same j) schema.invitations, ?_⟩
  unfold Db.setInvitation
  rw [Rows.filter_adjust_of_not fun j _ => closes j]
  exact schema.pending.sublist (filter_sublist.map _)

end

/-- The tables stay in order and the seats move by a step other than an acceptance. -/
def Moves (after : Db) : Prop :=
  AccountSchema after ∧ ∃ label, Seats.Move db.seats label after.seats ∧ ∀ y d, label ≠ .accept y d

section
variable {db after : Db} {casing : Casing} {customer : Customer} {now : Instant} {authUserId : Uuid}
  {email : String}

theorem Moves.refl (schema : AccountSchema db) : Moves db db := ⟨schema, .idle, .idle, fun _ _ => nofun⟩

section
variable (schema : AccountSchema db)
include schema

theorem Moves.of_activate (free : Seats.Free db.seats authUserId customer.id)
    (vacant : ∀ y, ¬db.Accesses y customer.id)
    (done : activate casing db customer authUserId email now = .ok after) : Moves db after := by
  obtain ⟨schema', invitations, accesses⟩ := activate_ok done schema
  have held : ∀ y d, after.Accesses y d ↔ (y, d) ∈ insert (authUserId, customer.id) db.seats.held := by
    intro y d
    rw [accesses, Set.mem_insert_iff, Prod.mk.injEq]
    refine or_congr_right' fun other => ⟨And.left, fun held => ⟨held, ?_⟩⟩
    rintro rfl
    exact other ⟨rfl, free.held d held⟩
  have offered : ∀ y d, after.Invited y d ↔ (y, d) ∈ db.seats.offered := by
    intro y d
    unfold Db.Invited
    rw [invitations]
    exact Iff.rfl
  exact ⟨schema', .grant authUserId customer.id, move_to (.grant free vacant) held offered, fun _ _ => nofun⟩

theorem Moves.of_confirm (done : confirmProfile casing db customer authUserId email now = .ok after)
    (id : Uuid) : Moves db (after.setUserAccount id (UserAccount.withEmail email)) := by
  obtain ⟨profiles, rfl⟩ := confirmProfile_frame done
  have lookup : ∀ y, lookup UserAccount.authUserId y
      (adjust UserAccount.authUserId id (UserAccount.withEmail email) db.userAccounts) = _ :=
    fun y => lookup_adjust fun _ _ => rfl
  have held : ∀ y d, (Db.setUserAccount { db with profiles } id (UserAccount.withEmail email)).Accesses y d ↔
      (y, d) ∈ db.seats.held := by
    intro y d
    unfold Db.Accesses Db.userAccount? Db.setUserAccount
    rw [lookup]
    split
    · constructor
      · rintro ⟨account, found, active⟩
        obtain ⟨before, stored, rfl⟩ := map_eq_some_iff.mp found
        exact ⟨before, stored, active⟩
      · rintro ⟨account, stored, active⟩
        exact ⟨_, map_eq_some_iff.mpr ⟨account, stored, rfl⟩, active⟩
    · exact Iff.rfl
  exact ⟨⟨keyed_adjust (fun _ _ => rfl) schema.accounts, schema.invitations, schema.pending⟩, .idle,
    move_to .idle held fun y d => Iff.rfl, fun _ _ same => by cases same⟩

theorem Moves.of_invite {i : UserAccountInvitation} (pending : i.isPending)
    (free : Seats.Free db.seats i.authUserId i.customerId)
    (absent : pendingInvitation db i.customerId = none)
    (new : i.id ∉ db.invitations.map UserAccountInvitation.id) :
    Moves db { db with invitations := db.invitations ++ [i] } := by
  have offered : ∀ y d, ({ db with invitations := db.invitations ++ [i] } : Db).Invited y d ↔
      (y, d) ∈ insert (i.authUserId, i.customerId) db.seats.offered := by
    intro y d
    rw [Set.mem_insert_iff, Prod.mk.injEq]
    constructor
    · rintro ⟨j, member, open_, identity, named⟩
      rcases mem_append.mp member with stored | here
      · exact .inr ⟨j, stored, open_, identity, named⟩
      cases mem_singleton.mp here
      exact .inl ⟨identity.symm, named.symm⟩
    rintro (⟨rfl, rfl⟩ | ⟨j, stored, open_, identity, named⟩)
    · exact ⟨i, mem_append_right _ mem_cons_self, pending, rfl, rfl⟩
    · exact ⟨j, mem_append_left _ stored, open_, identity, named⟩
  refine ⟨⟨schema.accounts, keyed_append.mpr ⟨schema.invitations, fun j stored same => new ?_⟩, ?_⟩,
    .offer i.authUserId i.customerId, move_to (.offer free (unoffered_of_none absent))
      (fun y d => Iff.rfl) offered,
    fun _ _ => nofun⟩
  · exact same ▸ mem_map_of_mem stored
  change Keyed _ (List.filter _ (db.invitations ++ [i]))
  rw [filter_append, List.filter_cons_of_pos pending, List.filter_nil]
  refine keyed_append.mpr ⟨schema.pending, fun j inside same => ?_⟩
  obtain ⟨stored, open_⟩ := mem_filter.mp inside
  exact unoffered_of_none absent j.authUserId ⟨j, stored, open_, rfl, same⟩

theorem inviteUserAccount_moves {offer : Invite} {id : Uuid} {result : ProvisionResult}
    (done : inviteUserAccount casing db customer offer id now = .ok (after, result)) : Moves db after := by
  have repeated : ∀ {outstanding}, repeatInvitation db customer.id offer.authUserId outstanding =
    .ok (after, result) →
      Moves db after := by
    intro outstanding answered
    unfold repeatInvitation at answered
    split at answered
    · cases answered
      exact .refl schema
    · cases answered
  unfold inviteUserAccount at done
  split at done
  · cases done
  obtain ⟨_, refused, rest⟩ := bind_ok done
  have free := refuseForeignAccount_ok refused
  split at rest
  case h_1 current found =>
    split at rest
    case isTrue own =>
      obtain ⟨confirmed, confirms, last⟩ := bind_ok rest
      cases last
      exact .of_confirm schema confirms current.authUserId
    case isFalse other =>
    split at rest
    · exact repeated rest
    case h_2 absent =>
    obtain ⟨new, rest⟩ := guard_ok rest
    cases rest
    exact .of_invite schema rfl free absent new
  case h_2 absent =>
  split at rest
  · exact repeated rest
  obtain ⟨granted, activates, last⟩ := bind_ok rest
  cases last
  exact .of_activate schema free (vacant_of_none (lockedAccounts_none absent)) activates

theorem cancelUserAccountInvitation_moves (customer : Customer) (now : Instant) :
    Moves db (cancelUserAccountInvitation db customer now).1 := by
  unfold cancelUserAccountInvitation
  split
  · exact .refl schema
  case h_2 invitation found =>
  have matched := find?_some found
  rw [and_eq_true, decide_eq_true_eq] at matched
  have offered := invited_close schema (mem_of_find?_eq_some found) matched.2
    (f := UserAccountInvitation.canceled now) fun _ => rfl
  rw [matched.1] at offered
  exact ⟨setInvitation_schema schema invitation.id (fun _ => rfl) fun _ => rfl,
    .withdraw customer.id, move_to .withdraw (fun y d => Iff.rfl) offered, fun _ _ => nofun⟩

theorem acceptUserAccountInvitation_moves {answer : Option Uuid}
    (done : acceptUserAccountInvitation casing db authUserId email now = .ok (after, answer)) :
    AccountSchema after ∧ (after = db ∨ ∃ c, Seats.Move db.seats (.accept authUserId c) after.seats) := by
  unfold acceptUserAccountInvitation at done
  split at done
  · cases done
    exact ⟨schema, .inl rfl⟩
  case h_2 invitation found =>
  have matched := find?_some found
  rw [and_eq_true, decide_eq_true_eq] at matched
  have stored := mem_of_find?_eq_some found
  split at done
  · cases done
  case h_2 customer isCustomer =>
  have named : customer.id = invitation.customerId := (lookup_some isCustomer).2
  split at done
  · cases done
  split at done
  · cases done
  obtain ⟨granted, activates, last⟩ := bind_ok done
  cases last
  obtain ⟨schema', invitations, accesses⟩ :=
    activate_ok activates (retireAccounts_schema schema customer.id authUserId now)
  rw [named] at accesses activates
  have closed := invited_close schema' (invitations ▸ stored) matched.2
    (f := UserAccountInvitation.accepted now) fun _ => rfl
  have held : ∀ y d, granted.Accesses y d ↔ (y, d) ∈ insert (authUserId, invitation.customerId)
      {p | p ∈ db.seats.held ∧ p.1 ≠ authUserId ∧ p.2 ≠ invitation.customerId} := by
    intro y d
    rw [accesses, accesses_retireAccounts, Set.mem_insert_iff, Prod.mk.injEq]
    refine or_congr_right ⟨fun ⟨⟨held, own⟩, other⟩ => ⟨held, other, fun same => other (own same)⟩,
      fun ⟨held, other, elsewhere⟩ => ⟨⟨held, fun same => absurd same elsewhere⟩, other⟩⟩
  have offered :
    ∀ y d, (granted.setInvitation invitation.id (UserAccountInvitation.accepted now)).Invited y d ↔
      (y, d) ∈ db.seats.offered \ {(authUserId, invitation.customerId)} := by
    intro y d
    rw [closed, Set.mem_sdiff, Set.mem_singleton_iff, Prod.mk.injEq]
    unfold Db.Invited
    rw [invitations]
    refine and_congr_right fun ⟨j, member, open_, identity, customer⟩ =>
      not_congr ⟨fun same => ⟨?_, same⟩, And.right⟩
    -- the Customer has no other pending invitation
    rw [← identity, eq_of_mem_of_key schema.pending (mem_filter.mpr ⟨member, open_⟩)
      (mem_filter.mpr ⟨stored, matched.2⟩) (customer.trans same)]
    exact matched.1
  exact ⟨setInvitation_schema schema' invitation.id (fun _ => rfl) fun _ => rfl, .inr ⟨invitation.customerId,
    move_to (.accept ⟨invitation, stored, matched.2, matched.1, rfl⟩) held offered⟩⟩

end

end

section
variable {casing : Casing} {db : Db}

/-- The tables stay in order and the seats move, by an acceptance only if the operation is one. -/
def MovesBy (op : AccessOp) (db after : Db) : Prop :=
  AccountSchema after ∧ ∃ label, Seats.Move db.seats label after.seats ∧
    ∀ y d, label = .accept y d → ∃ email now, op = .accept y email now

theorem Moves.by_any {after : Db} (moves : Moves db after) (op : AccessOp) : MovesBy op db after := by
  obtain ⟨kept, label, move, other⟩ := moves
  exact ⟨kept, label, move, fun y d same => absurd same (other y d)⟩

theorem accessStep_moves (schema : AccountSchema db) (op : AccessOp) :
    MovesBy op db (accessStep casing db op) := by
  refine commit_cases (P := MovesBy op db) (Moves.by_any (.refl schema) op) fun after done => ?_
  cases op with
  | invite customerId offer id now =>
    obtain ⟨customer, _, invites⟩ := bind_ok done
    obtain ⟨result, invites⟩ := map_fst_ok invites
    exact (inviteUserAccount_moves schema invites).by_any _
  | accept authUserId email now =>
    obtain ⟨answer, accepts⟩ := map_fst_ok done
    obtain ⟨kept, rfl | ⟨c, move⟩⟩ := acceptUserAccountInvitation_moves schema accepts
    · exact Moves.by_any (.refl schema) _
    refine ⟨kept, .accept authUserId c, move, fun y d same => ?_⟩
    cases same
    exact ⟨email, now, rfl⟩
  | cancel customerId now =>
    obtain ⟨customer, _, cancels⟩ := bind_ok done
    cases cancels
    exact (cancelUserAccountInvitation_moves schema customer now).by_any _
  | register customerId authUserId email now =>
  dsimp only [AccessOp.run] at done
  split at done
  · cases done
  obtain ⟨_, refused, rest⟩ := bind_ok done
  obtain ⟨unused, rest⟩ := guard_ok rest
  have absent := not_isSome_iff_eq_none.mp fun used => unused (.inl used)
  exact (Moves.of_activate schema (refuseForeignAccount_ok refused) (vacant_of_none absent) rest).by_any _

def AccessInvariant (db : Db) : Prop := AccountSchema db ∧ Seats.Exclusive db.seats

theorem accessStep_invariant (op : AccessOp) (holds : AccessInvariant db) :
    AccessInvariant (accessStep casing db op) := by
  obtain ⟨schema, label, move, _⟩ := accessStep_moves holds.1 op
  exact ⟨schema, move.exclusive holds.2⟩

theorem accessInvariant_of_empty (accounts : db.userAccounts = [])
    (invitations : db.invitations = []) : AccessInvariant db := by
  have held : ∀ p, p ∉ db.seats.held := by
    rintro p ⟨account, found, _⟩
    have member := (lookup_some found).1
    rw [accounts] at member
    cases member
  have offered : ∀ p, p ∉ db.seats.offered := by
    rintro p ⟨i, member, _⟩
    rw [invitations] at member
    cases member
  refine ⟨⟨?_, ?_, ?_⟩, ?_, ?_, ?_, ?_, ?_⟩
  · rw [accounts]
    exact keyed_nil _
  · rw [invitations]
    exact keyed_nil _
  · rw [invitations]
    exact keyed_nil _
  · exact fun p inside => absurd inside (held p)
  · exact fun p inside => absurd inside (held p)
  · exact fun p inside => absurd inside (offered p)
  · exact fun p inside => absurd inside (offered p)
  · exact fun x c d inside => absurd inside (offered (x, c))

/-- A Customer has one active account and one pending invitation at most, an identity is active for
one Customer and invited to one at most. -/
structure SoleAccess (db : Db) : Prop where
  account : ∀ a ∈ db.userAccounts, ∀ b ∈ db.userAccounts, ∀ c, a.activeFor c → b.activeFor c → a = b
  invitation : ∀ i ∈ db.invitations, ∀ j ∈ db.invitations, i.isPending → j.isPending →
    i.customerId = j.customerId → i = j
  customer : ∀ a ∈ db.userAccounts, ∀ b ∈ db.userAccounts, a.authUserId = b.authUserId →
    ∀ c d, a.activeFor c → b.activeFor d → c = d
  prospect : ∀ i ∈ db.invitations, ∀ j ∈ db.invitations, i.isPending → j.isPending →
    i.authUserId = j.authUserId → i.customerId = j.customerId

theorem AccessInvariant.sole (holds : AccessInvariant db) : SoleAccess db := by
  obtain ⟨schema, exclusive⟩ := holds
  refine ⟨fun a first b second c active also => ?_, fun i first j second pending also same => ?_,
    fun a first b second same c d active also => ?_, fun i first j second pending also same => ?_⟩
  · have both : (a.authUserId, c) = (b.authUserId, c) :=
      exclusive.holder (accesses_of_mem schema first active) (accesses_of_mem schema second also) rfl
    exact eq_of_mem_of_key schema.accounts first second (congrArg Prod.fst both)
  · exact eq_of_mem_of_key schema.pending (mem_filter.mpr ⟨first, pending⟩)
      (mem_filter.mpr ⟨second, also⟩) same
  · have both : (a.authUserId, c) = (b.authUserId, d) :=
      exclusive.seat (accesses_of_mem schema first active) (accesses_of_mem schema second also) same
    exact congrArg Prod.snd both
  have both : (i.authUserId, i.customerId) = (j.authUserId, j.customerId) :=
    exclusive.prospect ⟨i, first, pending, rfl, rfl⟩ ⟨j, second, also, rfl, rfl⟩ same
  exact congrArg Prod.snd both

/-- Access to a Customer is exclusive in every state reached, and it is lost only to the invited
identity, in the step in which that identity accepts. -/
theorem access_changes_hands_on_acceptance (casing : Casing) (db : Db)
    (accounts : db.userAccounts = []) (invitations : db.invitations = []) (ops : List AccessOp) :
    SoleAccess (run (accessStep casing) db ops) ∧ ∀ op y c, (run (accessStep casing) db ops).Accesses y c →
        ¬(run (accessStep casing) db (ops ++ [op])).Accesses y c →
        ∃ x email now, op = .accept x email now ∧ (run (accessStep casing) db ops).Invited x c ∧
          (run (accessStep casing) db (ops ++ [op])).Accesses x c := by
  have holds : AccessInvariant (run (accessStep casing) db ops) :=
    run_invariant (fun _ op => accessStep_invariant op) (accessInvariant_of_empty accounts invitations) ops
  refine ⟨holds.sole, fun op y c held lost => ?_⟩
  rw [run_concat] at lost ⊢
  obtain ⟨_, label, move, accepts⟩ := accessStep_moves holds.1 op
  rcases move.kept holds.2 held with kept | ⟨x, isAccept, offered, gained⟩
  · exact absurd kept lost
  obtain ⟨email, now, isOp⟩ := accepts x c isAccept
  exact ⟨x, email, now, isOp, offered, gained⟩

def soleCustomer : Db := { customers := [{ id := 1, licensedStates := ["FL"] }] }

def secondAccountInvited : List AccessOp :=
  [.invite 1 { authUserId := 11, email := "first@x.io", actorId := "admin", reason := "" } 31 0,
    .invite 1 { authUserId := 12, email := "second@x.io", actorId := "admin", reason := "" } 32 1]

theorem access_changes_hands_on_acceptance_replacement :
    SoleAccess (run (accessStep plainCasing) soleCustomer secondAccountInvited) ∧
      ∃ x email now, AccessOp.accept 12 "second@x.io" 2 = .accept x email now ∧
        (run (accessStep plainCasing) soleCustomer secondAccountInvited).Invited x 1 ∧
        (run (accessStep plainCasing) soleCustomer
          (secondAccountInvited ++ [.accept 12 "second@x.io" 2])).Accesses x 1 := by
  have both := access_changes_hands_on_acceptance plainCasing soleCustomer rfl rfl secondAccountInvited
  exact ⟨both.1, both.2 (.accept 12 "second@x.io" 2) 11 1 (by decide +kernel) (by decide +kernel)⟩

end

end Jawnix
