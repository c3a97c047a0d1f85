import Jawnix.ReplacedAccounts

/-!
# Authority behind a mapping

A login gets at a Customer by right when an administrator confirms its mapping, when
it accepts an invitation, and when its registration makes the Customer or is
approved to restore it. `GrantStore` keeps these grants beside the portal. A
synchronisation and an unconfirmed mapping grant nothing, but sign-in makes an
account of such a mapping and the screens read through it. Where neither happens,
every access and every answer rests on a grant.
-/
namespace Jawnix

structure GrantStore where
  portal : Portal
  granted : List (Uuid × Nat) := []

variable (db : Db) (after : Db) (g : GrantStore)

def registeredParty (x : Uuid) (fresh : NewIdentity) : List (Uuid × Nat) :=
  if fresh.id ∉ db.customers.map Customer.id ∧ fresh.id ∈ after.customers.map Customer.id then
    [(x, fresh.id)] else []

def provisioned (x : Uuid) (c : Nat) : List (Uuid × Nat) :=
  if after.Has (.access x c) ∨ after.Has (.confirmed x c) then [(x, c)] else []

/-- The grants that an operation makes when it takes the database from `db` to `after`. -/
def PartyOp.grants : PartyOp → List (Uuid × Nat)
  | .map userId c true _ => [(userId, c)]
  | .replaceAccount c offer .. | .inviteAccount c offer .. => provisioned after offer.authUserId c
  | .create payload fresh offer .. => provisioned after offer.authUserId (payload.customer fresh)
  | .signIn login fresh _ =>
    (db.waiting login.userId).toList.map (fun i => (login.userId, i.customerId)) ++
    registeredParty db after login.userId fresh
  | .setStates userId _ fresh _ | .decide userId .new fresh .. => registeredParty db after userId fresh
  | .decide userId (.restore c) .. => [(userId, c)]
  | _ => []

def PortalOp.grants : PortalOp → List (Uuid × Nat)
  | .party op => op.grants db after
  | _ => []

def grantStep (env : PortalEnv) (g : GrantStore) (op : PortalOp) : GrantStore :=
  match respond env g.portal op with
  | .error _ => g
  | .ok (portal, _) => { portal, granted := g.granted ++ op.grants g.portal.db portal.db }

def MappingSettled (x : Uuid) : Prop :=
  ∀ profile ∈ db.profile? x, profile.customerId.isSome → profile.mappingConfirmedAt.isSome
  deriving Decidable

/-- The screens that show records of the Customer. A submission is refused without a confirmed
mapping. -/
def ScreenCall.shows : ScreenCall → Bool
  | .submit .. | .create .. | .profile | .licensedStates | .updateProfile
      _ | .billing | .purchase .. => false
  | _ => true

/-- The login that an operation lets in by its mapping. -/
def PortalOp.goesBy : PortalOp → Option Uuid
  | .party (.signIn login ..) => if (db.waiting login.userId).isNone then some login.userId else none
  | .call x (.screen screen) => if screen.shows then some x else none
  | .openStream x => some x
  | _ => none

/-- No login signs in or reads through a mapping that is only proposed. -/
def Vetted (op : PortalOp) : Prop :=
  ∀ x ∈ op.goesBy g.portal.db, MappingSettled g.portal.db x
  deriving Decidable

/-- Every record of an answer is of a Customer that was granted to the login. -/
structure GrantedAnswer (granted : List (Uuid × Nat)) (x : Uuid) (db after : Db)
    (answer : Disclosure) : Prop where
  requests : ∀ r ∈ answer.requests, (x, r.customerId) ∈ granted
  changes : ∀ id ∈ answer.changes, ∀ r ∈ db.requests, r.id = id → (x, r.customerId) ∈ granted
  artifacts : ∀ a ∈ answer.artifacts, ∃ r ∈ after.requests, a.requestId = r.id ∧ (x, r.customerId) ∈ granted
  events : ∀ e ∈ answer.events, ∃ c, e.customerId = some c ∧ (x, c) ∈ granted
  exclusionLists : ∀ l ∈ answer.exclusionLists, ∃ c, l.customerId = some c ∧ (x, c) ∈ granted

def AnswersGranted (env : PortalEnv) (g : GrantStore) (op : PortalOp) : Prop :=
  ∀ x, op.login g.portal = some x → ∀ t answer, respond env g.portal op = .ok (t, answer) →
    GrantedAnswer g.granted x g.portal.db t.db answer

structure NoLogins : Prop where
  profiles : db.profiles = []
  accounts : db.userAccounts = []
  invitations : db.invitations = []
  requests : db.requests = []
  keyed : Keyed Customer.id db.customers

/-- What rests on grants: accounts, confirmed mappings, submissions and the scopes of streams. -/
structure Backed : Prop where
  keys : PortalInvariant g.portal.db
  access : ∀ x c, g.portal.db.Has (.access x c) → (x, c) ∈ g.granted
  confirmed : ∀ x c, g.portal.db.Has (.confirmed x c) → (x, c) ∈ g.granted
  requests : ∀ r ∈ g.portal.db.requests, (r.userId, r.customerId) ∈ g.granted
  streams : ∀ stream ∈ g.portal.streams, ∀ id ∈ stream.scope, id ∈ g.portal.db.requests.map LeadRequest.id ∧
    ∀ r ∈ g.portal.db.requests, r.id = id → (stream.login, r.customerId) ∈ g.granted

section
variable {db after : Db} {x y : Uuid} {c d : Nat} {link : Link}

theorem has_access_congr (same : after.userAccounts = db.userAccounts)
    (has : after.Has (.access x c)) : db.Has (.access x c) := by
  obtain ⟨a, member, rest⟩ := has
  exact ⟨a, same ▸ member, rest⟩

theorem has_confirmed_congr
    (same : after.profiles.map CustomerProfile.link = db.profiles.map CustomerProfile.link)
    (has : after.Has (.confirmed x c)) : db.Has (.confirmed x c) := by
  obtain ⟨p, member, login, maps, confirmed⟩ := has
  have linked : p.link ∈ db.profiles.map CustomerProfile.link := same ▸ mem_map_of_mem member
  obtain ⟨q, stored, equal⟩ := mem_map.mp linked
  simp only [CustomerProfile.link, Prod.mk.injEq] at equal
  exact ⟨q, stored, equal.1.trans login, equal.2.1.trans maps, equal.2.2 ▸ confirmed⟩

theorem MappingSettled.confirmed (settled : MappingSettled db x) (mapped : db.mapped x = some c) :
    db.Has (.confirmed x c) := by
  obtain ⟨profile, found, named⟩ := bind_eq_some_iff.mp mapped
  refine ⟨profile, (lookup_some found).1, (lookup_some found).2, named, settled profile found ?_⟩
  rw [named]
  rfl

def Link.Lets (x : Uuid) (c : Nat) (link : Link) : Prop := link = .access x c ∨ link = .confirmed x c

theorem Link.Lets.of (lets : link.Lets x c) (of : link.Of y d) : (x, c) = (y, d) := by
  obtain ⟨login, customer⟩ := of
  rcases lets with rfl | rfl <;> exact Prod.ext login customer

theorem mem_provisioned (lets : link.Lets x c) (has : after.Has link) (of : link.Of y d) :
    (x, c) ∈ provisioned after y d := by
  have same := lets.of of
  cases same
  unfold provisioned
  rw [if_pos]
  · exact mem_singleton_self _
  rcases lets with rfl | rfl
  · exact .inl has
  · exact .inr has

theorem mem_registeredParty {fresh : NewIdentity} (lets : link.Lets x c)
    (created : Created db after y fresh.id link) : (x, c) ∈ registeredParty db after y fresh := by
  obtain ⟨⟨customer, found, _⟩, new, of⟩ := created
  obtain ⟨member, named⟩ := lookup_some found
  rw [lets.of of]
  unfold registeredParty
  rw [if_pos ⟨new, mem_map.mpr ⟨customer, member, named⟩⟩]
  exact mem_singleton_self _

/-- Every way a login newly gets in is a grant, or goes by its mapping. -/
theorem made_granted {op : PartyOp} (made : Made db after op link) (lets : link.Lets x c)
    (has : after.Has link) :
    (x, c) ∈ op.grants db after ∨ (PortalOp.party op).goesBy db = some x ∧ db.mapped x = some c := by
  cases made with
  | replaced live of => exact .inl (mem_provisioned lets has of)
  | invited live of => exact .inl (mem_provisioned lets has of)
  | created live of => exact .inl (mem_provisioned lets has of)
  | @accepted login fresh now _ i waiting live of =>
    refine .inl (mem_append_left _ ?_)
    rw [waiting, lets.of of]
    exact mem_singleton_self _
  | @signedIn login fresh now d profile idle found maps =>
    cases lets.of ⟨rfl, rfl⟩
    refine .inr ⟨if_pos ?_, (mapped_profile found).trans maps⟩
    rw [idle]
    rfl
  | signedUp created => exact .inl (mem_append_right _ (mem_registeredParty lets created))
  | statesSet created => exact .inl (mem_registeredParty lets created)
  | approved created => exact .inl (mem_registeredParty lets created)
  | restored live of => exact .inl (mem_singleton.mpr (lets.of of))
  | proposed | mapped => rcases lets with same | same <;> cases same
  | confirmed live => exact .inl (mem_singleton.mpr (lets.of ⟨rfl, rfl⟩))

end

structure Advances (t : Portal) (grants : List (Uuid × Nat)) : Prop where
  links : ∀ x c link, link.Lets x c → t.db.Has link → g.portal.db.Has link ∨ (x, c) ∈ g.granted ++ grants
  requests : ∀ r ∈ t.db.requests, (∃ s ∈ g.portal.db.requests, r.owner = s.owner) ∨
    g.portal.db.Has (.confirmed r.userId r.customerId) ∧ r.id ∉ g.portal.db.requests.map LeadRequest.id
  ids : ∀ id ∈ g.portal.db.requests.map LeadRequest.id, id ∈ t.db.requests.map LeadRequest.id
  streams : ∀ stream ∈ t.streams, stream ∈ g.portal.streams ∨ ∀ id ∈ stream.scope,
    id ∈ t.db.requests.map LeadRequest.id ∧
    ∀ r ∈ t.db.requests, r.id = id → (stream.login, r.customerId) ∈ g.granted

section
variable {env : PortalEnv} {g : GrantStore} {t : Portal} {x : Uuid} {answer : Disclosure}
  {op : PortalOp} {r : LeadRequest} {replayed : Option LeadRequest}

theorem Backed.submitted (backed : Backed g) {s : LeadRequest} (stored : s ∈ g.portal.db.requests)
    (same : r.owner = s.owner) : (r.userId, r.customerId) ∈ g.granted := by
  have own := backed.requests s stored
  simp only [LeadRequest.owner, Prod.mk.injEq] at same
  rw [same.2.1, same.2.2]
  exact own

theorem Advances.backed {grants : List (Uuid × Nat)} (advances : Advances g t grants)
    (keys : PortalInvariant t.db) (backed : Backed g) :
    Backed { portal := t, granted := g.granted ++ grants } where
  keys := keys
  access x c has := by
    rcases advances.links x c _ (.inl rfl) has with before | granted
    · exact mem_append_left _ (backed.access x c before)
    · exact granted
  confirmed x c has := by
    rcases advances.links x c _ (.inr rfl) has with before | granted
    · exact mem_append_left _ (backed.confirmed x c before)
    · exact granted
  requests r member := by
    refine mem_append_left _ ?_
    rcases advances.requests r member with ⟨s, stored, same⟩ | ⟨confirmed, _⟩
    · exact backed.submitted stored same
    · exact backed.confirmed _ _ confirmed
  streams stream member id inScope := by
    rcases advances.streams stream member with open_ | new
    · obtain ⟨known, granted⟩ := backed.streams stream open_ id inScope
      refine ⟨advances.ids id known, fun r stored named => mem_append_left _ ?_⟩
      rcases advances.requests r stored with ⟨s, before, same⟩ | ⟨_, fresh⟩
      · have customer : r.customerId = s.customerId := congrArg (fun owner => owner.2.2) same
        rw [customer]
        exact granted s before ((owner_id same).symm.trans named)
      · exact absurd (named ▸ known) fresh
    · exact ⟨(new id inScope).1, fun r stored named => mem_append_left _ ((new id inScope).2 r stored named)⟩

theorem Advances.same_db (same : t.db = g.portal.db)
    (streams : ∀ stream ∈ t.streams, stream ∈ g.portal.streams ∨ ∀ id ∈ stream.scope,
      id ∈ g.portal.db.requests.map LeadRequest.id ∧ ∀ r ∈ g.portal.db.requests, r.id = id →
      (stream.login, r.customerId) ∈ g.granted) :
    Advances g t [] where
  links _ _ _ _ has := .inl (same ▸ has)
  requests r member := .inl ⟨r, same ▸ member, rfl⟩
  ids _ known := same ▸ known
  streams := same ▸ streams

theorem Backed.inScope (backed : Backed g) (settled : MappingSettled g.portal.db x)
    (own : r.userId = x → (x, r.customerId) ∈ g.granted)
    (inside : withdrawalScope g.portal.db x r) : (x, r.customerId) ∈ g.granted := by
  cases mapped : g.portal.db.mapped x with
  | some c =>
    rw [(scope_of_mapped mapped).mp inside]
    exact backed.confirmed x c (settled.confirmed mapped)
  | none =>
  refine own ?_
  unfold withdrawalScope at inside
  unfold Db.mapped at mapped
  split at inside
  case h_1 profile found =>
    rw [found, bind_some] at mapped
    unfold requestHistoryScope at inside
    rw [mapped] at inside
    exact of_decide_eq_true inside
  all_goals simp_all

theorem respond_advances (backed : Backed g) (vetted : Vetted g op)
    (done : respond env g.portal op = .ok (t, answer)) :
    Advances g t (op.grants g.portal.db t.db) := by
  cases op with
  | party op =>
    obtain ⟨after, ran, same⟩ := map_ok done
    cases same
    have turn := run_turn backed.keys.customers ran
    refine ⟨fun x c link lets has => ?_, fun r member => .inl ⟨r, turn.requests ▸ member, rfl⟩,
      fun id known => turn.requests ▸ known, fun stream member => .inl member⟩
    rcases turn.has has with before | made
    · exact .inl before
    refine .inr ?_
    rcases made_granted made lets has with granted | ⟨goesBy, mapped⟩
    · exact mem_append_right _ granted
    · exact mem_append_left _ (backed.confirmed x c ((vetted x goesBy).confirmed mapped))
  | call login call =>
    obtain ⟨⟨after, shown⟩, ran, same⟩ := map_ok done
    cases same
    obtain ⟨links, moves⟩ := call_moves backed.keys.requests ran
    refine ⟨fun x c link lets has => .inl ?_, fun r member => ?_, fun id known => moves.ids known,
      fun stream member => .inl member⟩
    · rcases lets with rfl | rfl
      · exact has_access_congr links.accounts has
      · exact has_confirmed_congr links.profiles has
    rcases moves.mem member with ⟨s, stored, same, _⟩ | ⟨⟨own, _, confirmed⟩, fresh⟩
    · exact .inl ⟨s, stored, same⟩
    · exact .inr ⟨own ▸ confirmed, fresh⟩
  | openStream login =>
    obtain ⟨profile, guard, last⟩ := bind_ok done
    cases last
    refine .same_db rfl fun stream member => ?_
    rcases mem_append.mp member with open_ | new
    · exact .inl open_
    cases mem_singleton.mp new
    refine .inr fun id inScope => ?_
    obtain ⟨s, listed, rfl⟩ := mem_map.mp inScope
    obtain ⟨stored, inside⟩ := mem_filter.mp listed
    refine ⟨mem_map_of_mem stored, fun r member named => ?_⟩
    cases eq_of_mem_of_key backed.keys.requests member stored named
    refine backed.inScope (vetted login rfl) (fun own => own ▸ backed.requests s stored) ?_
    rw [withdrawalScope_profile (currentCustomerProfile_ok guard)]
    exact inside
  | announce index published =>
    refine .same_db (announceChanges_db done) fun stream member => .inl ?_
    change announceChanges g.portal index published = .ok (t, answer) at done
    unfold announceChanges at done
    split at done
    · cases done
    split at done
    · cases done
      exact List.mem_of_mem_eraseIdx member
    · cases done
      exact member
  | other after =>
  obtain ⟨kept, rfl⟩ := otherTransaction_ok done
  refine ⟨fun x c link lets has => .inl ?_, fun r member => .inl ?_, fun id known =>
    kept.requests.symm ▸ known, fun stream member => .inl member⟩
  · rcases lets with rfl | rfl
    · exact has_access_congr kept.links.accounts has
    · exact has_confirmed_congr kept.links.profiles has
  have owned : r.owner ∈ g.portal.db.requests.map LeadRequest.owner := kept.owners ▸ mem_map_of_mem member
  obtain ⟨s, stored, same⟩ := mem_map.mp owned
  exact ⟨s, stored, same.symm⟩

theorem grantStep_backed (backed : Backed g) (vetted : Vetted g op) : Backed (grantStep env g op) := by
  have keys : PortalInvariant (portalStep env g.portal op).db := portalStep_invariant backed.keys op
  unfold portalStep at keys
  unfold grantStep
  cases done : respond env g.portal op with
  | error fault => exact backed
  | ok outcome =>
    obtain ⟨t, answer⟩ := outcome
    rw [done] at keys
    exact (respond_advances backed vetted done).backed keys backed

theorem Serves.submitted {after : Db} (serves : Serves g.portal.db x replayed after answer)
    (backed : Backed g) (member : r ∈ after.requests) (own : r.userId = x) :
    (x, r.customerId) ∈ g.granted := by
  rcases serves.rows.mem member with ⟨s, stored, same, _⟩ | ⟨⟨_, _, confirmed⟩, _⟩
  · exact own ▸ backed.submitted stored same
  · exact backed.confirmed x _ confirmed

theorem GrantedAnswer.empty {db after : Db}
    (none_ : answer.requests = [] ∧ answer.changes = [] ∧ answer.artifacts = [] ∧
    answer.events = [] ∧ answer.exclusionLists = []) : GrantedAnswer g.granted x db after answer := by
  obtain ⟨requests, changes, artifacts, events, lists⟩ := none_
  constructor <;> simp [requests, changes, artifacts, events, lists]

theorem Serves.granted {after : Db} (serves : Serves g.portal.db x none after answer) (backed : Backed g)
    (settled : MappingSettled g.portal.db x) : GrantedAnswer g.granted x g.portal.db after answer := by
  have reached : ∀ r ∈ after.requests, withdrawalScope g.portal.db x r ∨ none = some r →
    (x, r.customerId) ∈ g.granted := by
    intro r member inside
    rcases inside with inside | replay
    · exact backed.inScope settled (serves.submitted backed member) inside
    · cases replay
  refine ⟨fun r member => ?_, fun id member => ?_, fun a member => ?_, fun e member =>
    ?_, fun l member => ?_⟩
  · obtain ⟨stored, inside⟩ := serves.shown.requests r member
    exact reached r stored inside
  · rw [serves.shown.changes] at member
    cases member
  · obtain ⟨r, stored, named, inside⟩ := serves.shown.artifacts a member
    exact ⟨r, stored, named, reached r stored inside⟩
  · obtain ⟨c, mapped, own⟩ := serves.shown.events e member
    exact ⟨c, own, backed.confirmed x c (settled.confirmed mapped)⟩
  · obtain ⟨c, mapped, own⟩ := serves.shown.exclusionLists l member
    exact ⟨c, own, backed.confirmed x c (settled.confirmed mapped)⟩

theorem submit_granted {payload : CustomerRequestCreate} {fresh : NewRequest} {now : Instant}
    {profile : CustomerProfile} {after : Db} (backed : Backed g)
    (serves : Serves g.portal.db x replayed after answer)
    (done : submitBatchRequest env g.portal.db x profile payload fresh now = .ok (after, answer)) :
    GrantedAnswer g.granted x g.portal.db after answer := by
  obtain ⟨⟨submitted, result⟩, submits, last⟩ := bind_ok done
  cases last
  have own : ∀ r ∈ (existingSubmission after x payload.idempotencyKey).toList,
      r ∈ after.requests ∧ (x, r.customerId) ∈ g.granted := by
    intro r member
    obtain ⟨stored, key⟩ := lookup_some (mem_toList.mp member)
    exact ⟨stored, serves.submitted backed stored (congrArg Prod.fst key)⟩
  refine ⟨fun r member => (own r member).2, forall_mem_nil _, fun a member =>
    ?_, forall_mem_nil _, forall_mem_nil _⟩
  obtain ⟨r, listed, found⟩ := mem_filterMap.mp member
  exact ⟨r, (own r listed).1, (lookup_some found).2, (own r listed).2⟩

theorem screen_granted {call : ScreenCall} {after : Db} (backed : Backed g)
    (settled : call.shows → MappingSettled g.portal.db x)
    (done : (CustomerCall.screen call).run env g.portal.db x = .ok (after, answer)) :
    GrantedAnswer g.granted x g.portal.db after answer := by
  obtain ⟨profile, guard, served⟩ := screen_ok done
  have serves := serve_serves backed.keys.requests guard served
  cases call with
  | submit payload fresh now => exact submit_granted backed serves served
  | create payload fresh now =>
    obtain ⟨⟨created, id⟩, creates, last⟩ := bind_ok served
    obtain ⟨p, _, _, _, same, confirmed, _⟩ := createRequest_cases creates
    cases same
    refine serves.granted backed fun q found _ => ?_
    cases (currentCustomerProfile_ok guard).symm.trans found
    exact confirmed
  | profile | licensedStates =>
    cases served
    exact .empty ⟨rfl, rfl, rfl, rfl, rfl⟩
  | updateProfile payload =>
    obtain ⟨_, _, rest⟩ := bind_ok served
    obtain ⟨_, _, rest⟩ := bind_ok rest
    split at rest
    · cases rest
    cases rest
    exact .empty ⟨rfl, rfl, rfl, rfl, rfl⟩
  | billing =>
    unfold ScreenCall.serve getMyBilling at served
    dsimp only at served
    split at served
    · cases served
    cases served
    exact .empty ⟨rfl, rfl, rfl, rfl, rfl⟩
  | purchase amountDollars id checkout now =>
    unfold ScreenCall.serve createCreditPurchase at served
    dsimp only at served
    split at served
    · cases served
    obtain ⟨_, _, last⟩ := bind_ok served
    cases last
    exact .empty ⟨rfl, rfl, rfl, rfl, rfl⟩
  | _ => exact serves.granted backed (settled rfl)

theorem answers_granted (backed : Backed g) (vetted : Vetted g op) : AnswersGranted env g op := by
  intro x acts t answer done
  cases op with
  | party op =>
    obtain ⟨after, _, same⟩ := map_ok done
    cases same
    cases op with
    | setStates userId states fresh now =>
      dsimp only [PartyOp.answer]
      cases after.registration? userId with
      | none => exact .empty ⟨rfl, rfl, rfl, rfl, rfl⟩
      | some registration => exact .empty ⟨rfl, rfl, rfl, rfl, rfl⟩
    | _ => cases acts
  | call login call =>
    cases acts
    obtain ⟨⟨after, shown⟩, ran, same⟩ := map_ok done
    cases same
    cases call with
    | screen call =>
      refine screen_granted backed (fun shows_ => vetted x ?_) ran
      exact if_pos shows_
    | registration =>
      cases ran
      cases g.portal.db.registration? x with
      | none => exact .empty ⟨rfl, rfl, rfl, rfl, rfl⟩
      | some registration => exact .empty ⟨rfl, rfl, rfl, rfl, rfl⟩
    | withdraw requestId now =>
      obtain ⟨_, _, last⟩ := bind_ok ran
      cases last
      exact .empty ⟨rfl, rfl, rfl, rfl, rfl⟩
  | openStream login =>
    obtain ⟨_, _, last⟩ := bind_ok done
    cases last
    exact .empty ⟨rfl, rfl, rfl, rfl, rfl⟩
  | announce index published =>
    change g.portal.streams[index]?.map RequestStream.login = some x at acts
    obtain ⟨stream, found, rfl⟩ := map_eq_some_iff.mp acts
    change announceChanges g.portal index published = .ok (t, answer) at done
    unfold announceChanges at done
    rw [found] at done
    dsimp only at done
    split at done
    · cases done
      exact .empty ⟨rfl, rfl, rfl, rfl, rfl⟩
    cases done
    refine ⟨forall_mem_nil _, fun id member r stored named => ?_, forall_mem_nil _,
      forall_mem_nil _, forall_mem_nil _⟩
    have inScope : id ∈ stream.scope := of_decide_eq_true (mem_filter.mp member).2
    exact (backed.streams stream (List.mem_of_getElem? found) id inScope).2 r stored named
  | other after => cases acts

end

theorem NoLogins.backed {db : Db} (none_ : NoLogins db) : Backed { portal := { db } } := by
  obtain ⟨profiles, accounts, invitations, requests, keyed⟩ := none_
  refine ⟨⟨keyed, ?_⟩, fun x c has => ?_, fun x c has => ?_, fun r member =>
    ?_, fun stream member => nomatch member⟩
  · simp [requests, Keyed]
  · obtain ⟨a, member, _⟩ := has
    simp [accounts] at member
  · obtain ⟨p, member, _⟩ := has
    simp [profiles] at member
  · simp [requests] at member

/-- From a database without logins, as long as no login signs in or reads through a mapping that is
only proposed: every active User Account was granted, and so was the Customer of every record that a
login is shown. -/
theorem access_granted_when (env : PortalEnv) {db : Db} (none_ : NoLogins db) {ops : List PortalOp}
    (vetted : Meets (grantStep env) Vetted { portal := { db } } ops) :
    (∀ x c, (run (grantStep env) { portal := { db } } ops).portal.db.Has (.access x c) →
      (x, c) ∈ (run (grantStep env) { portal := { db } } ops).granted) ∧
    Meets (grantStep env) (AnswersGranted env) { portal := { db } } ops := by
  constructor
  · have backed := run_invariant_of_meets (I := Backed)
      (fun g op vetted backed => grantStep_backed backed vetted) none_.backed vetted
    exact backed.access
  · exact meets_of_invariant (fun g op vetted backed => grantStep_backed backed vetted)
      (fun g op vetted backed => answers_granted backed vetted) none_.backed vetted

def unclaimedShop : Db :=
  { customers := [{ id := 1, slug := "acme", name := "Acme" }],
    exclusionLists := [{ id := 4, customerId := some 1 }] }

theorem unclaimedShop_logins : NoLogins unclaimedShop := ⟨rfl, rfl, rfl, rfl, by decide +kernel⟩

def proposeByEmail : PortalOp := .party (.sync [{ id := 7, email := "acme@example.org" }])

def signInSeven : PortalOp := .party (.signIn { userId := 7, email := "acme@example.org" } { id := 9 } 2)

theorem access_granted_when_confirmed :
    let ops := [proposeByEmail, .party (.map 7 1 true 1), signInSeven, .call 7 (.screen .exclusionLists)]
    let g := run (grantStep portalEnv) { portal := { db := unclaimedShop } } ops
    g.portal.db.Has (.access 7 1) ∧ (7, 1) ∈ g.granted ∧
      Meets (grantStep portalEnv) (AnswersGranted portalEnv) { portal := { db := unclaimedShop } } ops := by
  intro ops g
  have vetted : Meets (grantStep portalEnv) Vetted { portal := { db := unclaimedShop } } ops := by
    decide +kernel
  have both := access_granted_when portalEnv unclaimedShop_logins vetted
  have account : g.portal.db.Has (.access 7 1) := by decide +kernel
  exact ⟨account, both.1 7 1 account, both.2⟩

/-- A login whose address matches the Customer's name signs in: it becomes the Customer's account
without any grant and reads its Exclusion Lists. -/
theorem access_proposed :
    let g := run (grantStep portalEnv) { portal := { db := unclaimedShop } } [proposeByEmail, signInSeven]
    NoLogins unclaimedShop ∧ g.granted = [] ∧ g.portal.db.Has (.access 7 1) ∧
      ¬AnswersGranted portalEnv g (.call 7 (.screen .exclusionLists)) := by
  intro g
  refine ⟨unclaimedShop_logins, by decide +kernel, by decide +kernel, fun answers => ?_⟩
  have shown : (respond portalEnv g.portal (.call 7 (.screen .exclusionLists))).toOption.map (fun outcome =>
      outcome.2.exclusionLists) = some [{ id := 4, customerId := some 1 }] := by decide +kernel
  have none_ : g.granted = [] := by decide +kernel
  cases done : respond portalEnv g.portal (.call 7 (.screen .exclusionLists)) with
  | error fault =>
    rw [done] at shown
    cases shown
  | ok outcome =>
    rw [done] at shown
    have lists : outcome.2.exclusionLists = [{ id := 4, customerId := some 1 }] := some.inj shown
    obtain ⟨c, _, granted⟩ :=
      (answers 7 rfl outcome.1 outcome.2 done).exclusionLists _ (lists ▸ mem_singleton_self _)
    rw [none_] at granted
    exact absurd granted not_mem_nil

end Jawnix
