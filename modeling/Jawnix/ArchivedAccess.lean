import Jawnix.CustomerLinks

/-!
# Archived Customers and access

`delete_customer` closes every way to the Customer it archives. The legacy deletion
of an agent and the deletion of an Agency leave accounts and invitations as they
are, and erasure leaves the profiles mapped. Where these meet nothing to close, no
archived Customer is ever linked to a login.
-/
namespace Jawnix

def Db.Archived (db : Db) (c : Nat) : Prop :=
    ∃ customer ∈ db.customers, customer.id = c ∧ customer.deletedAt.isSome
  deriving Decidable

variable (db : Db)

/-- No active account, pending invitation or mapped profile of an archived Customer. -/
def Sealed : Prop := ∀ c, db.Archived c → ∀ link : Link, link.customerId = c → ¬db.Has link

def Unlinked (c : Nat) : Prop := activeUserAccount db c = none ∧ pendingInvitation db c = none

/-- What the deletions that do not close access must find closed. -/
def ArchivesCleanly : PartyOp → Prop
  | .deleteAgent c .. => Unlinked db c
  | .deleteAgency agencyId .. => ∀ customer ∈ db.customersOf agencyId, Unlinked db customer.id
  | .erase c .. => ∀ p ∈ db.profiles, p.customerId ≠ some c
  | _ => True

/-- The archived Customer that an operation restores, and the login it is restored for. -/
def PartyOp.restores : PartyOp → Option (Nat × Uuid)
  | .create payload _ offer _ _ => payload.restoreCustomerId.map (·, offer.authUserId)
  | .decide userId (.restore c) .. => some (c, userId)
  | _ => none

def RestoresForOne (env : PartyEnv) (db : Db) (op : PartyOp) : Prop :=
  ∀ c x, op.restores = some (c, x) → ∀ after, op.run env db = .ok after →
    ∀ link : Link, link.customerId = c → after.Has link → link.login = x

structure ArchiveInvariant : Prop where
  keyed : Keyed Customer.id db.customers
  pending : PendingUnique db.invitations
  sealed_ : Sealed db

section
variable {db : Db} {c : Nat} {now : Instant} {link : Link} {ids : List Nat} {customer : Customer}

theorem live_not_archived (keyed : Keyed Customer.id db.customers) (live : db.Live c) : ¬db.Archived c := by
  obtain ⟨customer, found, undeleted⟩ := live
  rintro ⟨other, stored, named, deleted⟩
  have same := lookup_of_mem keyed stored
  rw [named] at same
  cases found.symm.trans same
  rw [undeleted] at deleted
  exact absurd deleted false_ne_true

theorem mapping_of_confirmed {x : Uuid} (has : db.Has (.confirmed x c)) : db.Has (.mapping x c) := by
  obtain ⟨p, member, login, maps, _⟩ := has
  exact ⟨p, member, login, maps⟩

theorem unlinked_of_tables (access : ∀ x, ¬db.Has (.access x c)) (offer : ∀ x, ¬db.Has (.offer x c))
    (mapping : ∀ x, ¬db.Has (.mapping x c)) (named : link.customerId = c) : ¬db.Has link := by
  cases link with
  | access x d =>
    cases named
    exact access x
  | offer x d =>
    cases named
    exact offer x
  | mapping x d =>
    cases named
    exact mapping x
  | confirmed x d =>
    cases named
    exact fun has => mapping x (mapping_of_confirmed has)

theorem no_access (absent : activeUserAccount db c = none) (x : Uuid) : ¬db.Has (.access x c) := by
  rintro ⟨a, member, _, held⟩
  exact find?_eq_none.mp absent a member held

theorem no_offer (absent : pendingInvitation db c = none) (x : Uuid) : ¬db.Has (.offer x c) := by
  rintro ⟨i, member, pending, _, named⟩
  refine find?_eq_none.mp absent i member ?_
  rw [pending, Bool.and_true, decide_eq_true_eq]
  exact named

theorem updateProfiles_unmaps {f : CustomerProfile → CustomerProfile} (unmaps : ∀ p, (f p).customerId = none)
    (chosen : c ∈ ids) (x : Uuid) : ¬(db.updateProfiles ids f).Has (.mapping x c) := by
  rintro ⟨p, member, _, maps⟩
  obtain ⟨q, _, rfl⟩ := mem_map.mp member
  by_cases picked : q.customerId.any (fun d => d ∈ ids)
  · rw [if_pos picked] at maps
    exact absurd (maps.symm.trans (unmaps q)) (some_ne_none c)
  rw [if_neg picked] at maps
  refine picked ?_
  have mapped : q.customerId = some c := maps
  rw [mapped, any_some, decide_eq_true_eq]
  exact chosen

theorem updateAccounts_closes {f : UserAccount → UserAccount} (inactive : ∀ a, (f a).active = false)
    (x : Uuid) : ¬(db.updateAccounts c f).Has (.access x c) := by
  rintro ⟨a, member, _, held⟩
  obtain ⟨b, _, rfl⟩ := mem_map.mp member
  by_cases picked : b.customerId = some c
  · rw [if_pos picked] at held
    exact absurd ((inactive b).symm.trans (activeFor_iff.mp held).2) false_ne_true
  · rw [if_neg picked] at held
    exact picked (activeFor_iff.mp held).1

theorem cancel_closes (unique : PendingUnique db.invitations) (x : Uuid) :
    ¬(cancelUserAccountInvitation db customer now).1.Has (.offer x customer.id) := by
  unfold cancelUserAccountInvitation
  split
  case h_1 absent => exact no_offer absent x
  case h_2 invitation found =>
  rintro ⟨i, member, pending, _, named⟩
  have chosen := find?_some found
  obtain ⟨mine, isOpen⟩ := and_eq_true_iff.mp chosen
  rcases mem_adjust.mp member with ⟨j, _, _, rfl⟩ | ⟨stored, other⟩
  · exact absurd pending false_ne_true
  have first : invitation ∈ db.invitations.filter UserAccountInvitation.isPending :=
    mem_filter.mpr ⟨mem_of_find?_eq_some found, isOpen⟩
  have second : i ∈ db.invitations.filter UserAccountInvitation.isPending := mem_filter.mpr ⟨stored, pending⟩
  have same := eq_of_mem_of_key unique second first (named.trans (of_decide_eq_true mine).symm)
  exact other (congrArg UserAccountInvitation.id same)

theorem archiveCustomer_closes (updatedAt : Uuid → Instant) (unique : PendingUnique db.invitations)
    (named : link.customerId = customer.id) : ¬(archiveCustomer db customer updatedAt now).Has link := by
  let remembered := rememberCustomerName db customer updatedAt
  let unmapped := remembered.updateProfiles [customer.id] CustomerProfile.archived
  let inactive := unmapped.updateAccounts customer.id (UserAccount.deactivated now)
  let canceled := (cancelUserAccountInvitation inactive customer now).1
  have kept : Relinks (fun _ => False) db remembered := rememberCustomerName_relinks customer updatedAt
  have shut : Relinks (fun _ => False) inactive canceled := cancelInvitation_relinks customer
  have same : Relinks (fun _ => False) unmapped inactive :=
    updateAccounts_relinks customer.id (fun _ => rfl) fun _ => rfl
  have closed : ∀ {other : Link}, canceled.Has other → inactive.Has other :=
    fun has => (shut.has has).resolve_right id
  refine unlinked_of_tables (fun x has => ?_) (fun x has => ?_) (fun x has => ?_) named
  · have still : canceled.Has (.access x customer.id) := has
    exact updateAccounts_closes (fun _ => rfl) x (closed still)
  · have still : canceled.Has (.offer x customer.id) := has
    have one : PendingUnique inactive.invitations := kept.pending unique
    exact cancel_closes one x still
  · have still : canceled.Has (.mapping x customer.id) := has
    exact updateProfiles_unmaps (fun _ => rfl) mem_cons_self x ((same.has (closed still)).resolve_right id)

theorem unmapped_closes (member : c ∈ ids) (unlinked : Unlinked db c)
    (named : link.customerId = c) : ¬(db.updateProfiles ids CustomerProfile.unmapped).Has link := by
  refine unlinked_of_tables (fun x has => ?_) (fun x has => ?_) (fun x has => ?_) named
  · exact no_access unlinked.1 x has
  · exact no_offer unlinked.2 x has
  · exact updateProfiles_unmaps (fun _ => rfl) member x has

theorem erasePersonalData_closes {opaqueKey : String} (unmapped : ∀ p ∈ db.profiles, p.customerId ≠ some c)
    (named : link.customerId = c) : ¬(erasePersonalData db c opaqueKey now).Has link := by
  refine unlinked_of_tables (fun x has => ?_) (fun x has => ?_) (fun x has => ?_) named
  · obtain ⟨a, member, login, held⟩ := has
    exact updateAccounts_closes (fun _ => rfl) x ⟨a, member, login, held⟩
  · obtain ⟨i, member, pending, _, mine⟩ := has
    obtain ⟨j, _, rfl⟩ := mem_map.mp member
    by_cases picked : j.customerId = c
    · rw [if_pos picked] at pending
      exact absurd ((erasedInvitation _ now j).2.2.symm.trans pending) false_ne_true
    · rw [if_neg picked] at mine
      exact picked mine
  obtain ⟨p, member, _, maps⟩ := has
  obtain ⟨q, stored, rfl⟩ := mem_map.mp member
  refine unmapped q stored ?_
  split at maps <;> exact maps

end

section
variable {env : PartyEnv} {db after : Db} {op : PartyOp} {c : Nat} {link : Link} {x : Uuid}

theorem archived_closes (holds : ArchiveInvariant db) (clean : ArchivesCleanly db op)
    (done : op.run env db = .ok after) (archives : Archives db c op) (archived : after.Archived c)
    (named : link.customerId = c) : ¬after.Has link := by
  cases op with
  | deleteCustomer id confirmSlug hardDelete updatedAt now =>
    cases archives
    obtain ⟨customer, rfl, rfl | rfl⟩ := deleteCustomer_ok done
    · obtain ⟨other, member, same, _⟩ := archived
      exact absurd same (of_decide_eq_true (mem_filter.mp member).2)
    · exact archiveCustomer_closes updatedAt holds.pending named
  | deleteAgent id confirmSlug now =>
    cases archives
    cases deleteAgent_ok done
    exact unmapped_closes mem_cons_self clean named
  | deleteAgency agencyId confirmSlug hardDelete now =>
    obtain ⟨customer, member, rfl⟩ := archives
    rcases deleteAgency_ok done with rfl | rfl
    · exact fun has => holds.sealed_ customer.id archived link named has
    · exact unmapped_closes (mem_map_of_mem member) (clean customer member) named
  | erase id opaqueKey now =>
    cases archives
    rcases erase_ok done with rfl | rfl
    · exact holds.sealed_ c archived link named
    · exact erasePersonalData_closes clean named
  | updateCustomer | updateAgency | replaceAccount | inviteAccount | cancelInvitation | create |
      signIn | setStates | decide
  | sync | map => exact archives.elim

theorem Made.open_ (made : Made db after op link) :
    db.Live link.customerId ∨ after.Live link.customerId ∨ db.Has (.mapping link.login link.customerId) := by
  cases made with
  | replaced live of | invited live of | accepted _ live of => exact .inl (of.2 ▸ live)
  | created live of | restored live of => exact .inr (.inl (of.2 ▸ live))
  | signedUp new | statesSet new | approved new => exact .inr (.inl (new.2.2.2 ▸ new.1))
  | signedIn _ found maps => exact .inr (.inr ⟨_, (lookup_some found).1, (lookup_some found).2, maps⟩)
  | proposed _ live | mapped live | confirmed live => exact .inl live

theorem partyStep_invariant (holds : ArchiveInvariant db) (clean : ArchivesCleanly db op) :
    ArchiveInvariant (partyStep env db op) := by
  refine commit_cases (P := ArchiveInvariant) holds fun after done => ?_
  have turn := run_turn holds.keyed done
  have keyed := turn.keyed holds.keyed
  refine ⟨keyed, turn.pending holds.pending, fun c archived link named has => ?_⟩
  obtain ⟨customer, member, same, deleted⟩ := archived
  rcases turn.deleted customer member deleted with ⟨b, stored, before, already⟩ | archives
  · -- archived before the step: the link is neither old nor new
    have old : db.Archived c := ⟨b, stored, before.trans same, already⟩
    rcases turn.has has with kept | made
    · exact holds.sealed_ c old link named kept
    subst named
    rcases made.open_ with live | live | mapped
    · exact live_not_archived holds.keyed live old
    · exact live_not_archived keyed live ⟨customer, member, same, deleted⟩
    · exact holds.sealed_ _ old (.mapping link.login link.customerId) rfl mapped
  · rw [same] at archives
    exact archived_closes holds clean done archives ⟨customer, member, same, deleted⟩ named has

theorem restores_archived (restores : op.restores = some (c, x))
    (done : op.run env db = .ok after) : db.Archived c := by
  have of_restorable : ∀ {matches_ : List Nat} {mismatch missing : Fault} {customer : Customer},
      restorable db matches_ c mismatch missing = .ok customer → db.Archived c := by
    intro matches_ mismatch missing customer chosen
    obtain ⟨named, found, deleted⟩ := restorable_ok chosen
    exact ⟨customer, (lookup_some found).1, named, Option.isSome_iff_ne_none.mpr deleted⟩
  cases op with
  | create payload fresh offer invitationId now =>
    obtain ⟨id, asked, same⟩ := map_eq_some_iff.mp restores
    cases same
    have run : createCustomer env db payload fresh offer invitationId now = .ok after := done
    rw [createCustomer] at run
    split at run
    · cases run
    split at run
    · cases run
    rw [asked] at run
    dsimp only at run
    split at run
    · cases run
    obtain ⟨customer, chosen, _⟩ := bind_ok run
    exact of_restorable chosen
  | decide userId decision fresh actor now =>
    cases decision with
    | restore id =>
      cases restores
      have run : decideRegistration env db x (.restore c) fresh actor now = .ok after := done
      unfold decideRegistration at run
      split at run
      · cases run
      split at run
      · cases run
      split at run
      · cases run
      obtain ⟨customer, chosen, _⟩ := bind_ok run
      exact of_restorable chosen
    | new | reject => cases restores
  | updateCustomer | updateAgency | deleteCustomer | deleteAgent | deleteAgency | erase |
      replaceAccount | inviteAccount
  | cancelInvitation | signIn | setStates | sync | map => cases restores

theorem Made.restored_login (made : Made db after op link) (restores : op.restores = some (c, x)) :
    link.login = x := by
  cases made with
  | created _ of =>
    obtain ⟨id, _, same⟩ := map_eq_some_iff.mp restores
    cases same
    exact of.1
  | restored _ of =>
    cases restores
    exact of.1
  | replaced | invited | accepted | signedIn | signedUp | statesSet | approved | proposed | mapped |
      confirmed => cases restores

theorem restoresForOne (holds : ArchiveInvariant db) : RestoresForOne env db op := by
  intro c x restores after done link named has
  rcases (run_turn holds.keyed done).has has with kept | made
  · exact absurd kept (holds.sealed_ c (restores_archived restores done) link named)
  · exact made.restored_login restores

end

/-- In every run whose deletions through the legacy agent and Agency endpoints find no active
account and no pending invitation, and whose erasures find no mapped profile, an archived Customer
has no links, and a restored one has links to the login it is restored for only. -/
theorem archived_unlinked_when (env : PartyEnv) (db : Db) (ops : List PartyOp)
    (start : ArchiveInvariant db) (clean : Meets (partyStep env) ArchivesCleanly db ops) :
    Sealed (run (partyStep env) db ops) ∧ Meets (partyStep env) (RestoresForOne env) db ops :=
  ⟨(run_invariant_of_meets (fun _ _ clean holds => partyStep_invariant holds clean) start clean).sealed_,
    meets_of_invariant (fun _ _ clean holds => partyStep_invariant holds clean)
      (fun _ _ _ holds => restoresForOne holds) start clean⟩

def partyEnv : PartyEnv := { casing := plainCasing }

def linkedCustomer : Db :=
  { customers := [{ id := 1, slug := "acme", name := "Ann Lee", agencyId := some 5 }]
    agencies := [{ id := 5, slug := "north", name := "North" }]
    userAccounts := [{ authUserId := 7, customerId := some 1, email := "ann@example.com" }]
    invitations := [{ id := 3, customerId := 1, authUserId := 8, email := "bea@example.com" }]
    profiles :=
      [{ userId := 7, email := "ann@example.com", firstName := "Ann", lastName := "Lee",
         customerId := some 1,
                   mappingConfirmedAt := some 0 }] }

theorem linkedCustomer_invariant : ArchiveInvariant linkedCustomer := by
  refine ⟨by decide +kernel, by unfold PendingUnique; decide +kernel, fun c archived => ?_⟩
  obtain ⟨customer, member, _, deleted⟩ := archived
  cases mem_singleton.mp member
  exact absurd deleted false_ne_true

def archivedAndRestored : List PartyOp :=
  [.updateCustomer 1 "Ann Lee" false (some 5), .deleteCustomer 1 "acme" false (fun _ => 0) 1,
    .create { name := "Ann Lee", email := "cara@example.com", firstName := "Ann", lastName := "Lee",
              restoreCustomerId := some 1 }
      { id := 2 } { authUserId := 9, email := "cara@example.com", actorId := "1", reason := "returns" } 4 2]

theorem archived_unlinked_when_restored :
    let after := run (partyStep partyEnv) linkedCustomer archivedAndRestored
    Sealed after ∧ Meets (partyStep partyEnv) (RestoresForOne partyEnv) linkedCustomer archivedAndRestored ∧
      after.Has (.access 9 1) ∧ ¬after.Has (.access 7 1) := by
  obtain ⟨unlinked, restored⟩ :=
    archived_unlinked_when partyEnv linkedCustomer archivedAndRestored linkedCustomer_invariant
    ⟨trivial, trivial, trivial, trivial⟩
  exact ⟨unlinked, restored, by decide +kernel, by decide +kernel⟩

/-- The legacy deletion leaves the account active, the deletion of the Agency the invitation pending
too, and erasure the profile mapped. -/
theorem archived_linked : ArchiveInvariant linkedCustomer ∧
    (let after := partyStep partyEnv linkedCustomer (.deleteAgent 1 "acme" 1)
     after.Archived 1 ∧ after.Has (.access 7 1)) ∧
    (let after := run (partyStep partyEnv) linkedCustomer
        [.updateCustomer 1 "Ann Lee" false (some 5), .updateAgency 5 "North" "closed" false,
          .deleteAgency 5 "north" false 1]
     after.Archived 1 ∧ after.Has (.offer 8 1)) ∧
    (let after := run (partyStep partyEnv) linkedCustomer
        [.updateCustomer 1 "Ann Lee" false (some 5), .erase 1 "k" 1]
     after.Archived 1 ∧ after.Has (.mapping 7 1)) := by
  exact ⟨linkedCustomer_invariant, by decide +kernel, by decide +kernel, by decide +kernel⟩

end Jawnix
