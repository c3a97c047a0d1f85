import Jawnix.CustomerPortal

/-!
# Replaced User Accounts

A login whose User Account is inactive gets nothing from the endpoints behind
`_current_customer_profile`, and an active one reaches the requests of its Customer
only. The older withdrawal and the registration status ask no guard, a replayed
submission key answers with a request of a former Customer, and an event stream
keeps the scope it was opened with.
-/
namespace Jawnix

def Db.inactive (db : Db) (x : Uuid) : Bool := (db.userAccount? x).any fun account => !account.active

/-- The requests of the Customer that the login is mapped to, or where it is unmapped its own. -/
def InReach (db : Db) (x : Uuid) (r : LeadRequest) : Prop :=
  match db.mapped x with
  | some customerId => r.customerId = customerId
  | none => r.userId = x

theorem inReach_iff {db : Db} {x : Uuid} {r : LeadRequest} : InReach db x r ↔ withdrawalScope db x r := by
  cases found : db.profile? x with
  | none =>
    have unmapped : db.mapped x = none := by
      unfold Db.mapped
      rw [found, Option.bind_none]
    unfold InReach withdrawalScope
    rw [unmapped, found]
    exact decide_eq_true_iff.symm
  | some profile =>
  rw [withdrawalScope_profile found]
  unfold InReach requestHistoryScope
  rw [mapped_profile found]
  cases profile.customerId with
  | none => exact decide_eq_true_iff.symm
  | some c => exact decide_eq_true_iff.symm

instance (db : Db) (x : Uuid) (r : LeadRequest) : Decidable (InReach db x r) :=
  decidable_of_iff _ inReach_iff.symm

/-- An answer and a change that keep to the requests in reach. -/
structure KeepsReach (db : Db) (x : Uuid) (after : Db) (answer : Disclosure) : Prop where
  requests : ∀ r ∈ answer.requests, InReach db x r
  changes : ∀ id ∈ answer.changes, ∀ r ∈ db.requests, r.id = id → InReach db x r
  artifacts : ∀ a ∈ answer.artifacts, ∃ r ∈ after.requests, a.requestId = r.id ∧ InReach db x r
  rows : ∀ r ∈ after.requests, r ∈ db.requests ∨ InReach db x r

/-- An inactive login is shown nothing and changes nothing; an active one keeps to its reach. -/
def Confined (env : PortalEnv) (s : Portal) (op : PortalOp) : Prop :=
  ∀ x, op.login s = some x → ∀ t answer, respond env s op = .ok (t, answer) →
    (s.db.inactive x → t.db = s.db ∧ answer = {}) ∧ (s.db.inactive x = false → KeepsReach s.db x t.db answer)

/-- The calls that the missing guards let through, the replays and the announcements, where they are
harmless. -/
def Proper (s : Portal) : PortalOp → Prop
  | .call x .registration =>
    s.db.inactive x → ∀ registration ∈ s.db.registration? x, registration.licensedStates = []
  | .call x (.withdraw ..) => s.db.inactive x = false
  | .call x (.screen call) => ∀ r ∈ call.replays s.db x, InReach s.db x r
  | .announce index published =>
    ∀ stream ∈ s.streams[index]?, ∀ id ∈ published, id ∈ stream.scope →
      ∀ r ∈ s.db.requests, r.id = id → InReach s.db stream.login r
  | _ => True

instance (s : Portal) (op : PortalOp) : Decidable (Proper s op) := by
  unfold Proper
  split <;> infer_instance

section
variable {env : PortalEnv} {s t : Portal} {db after : Db} {x : Uuid} {answer : Disclosure}

theorem guard_active {profile : CustomerProfile}
    (guard : currentCustomerProfile db x = .ok profile) : db.inactive x = false := by
  unfold currentCustomerProfile at guard
  split at guard
  · cases guard
  obtain ⟨active, guard⟩ := guard_ok guard
  exact eq_false_iff.mpr active

theorem moves_inReach
    (moves : RequestsMove (withdrawalScope db x) (MayPlace db x) db.requests after.requests)
    {r : LeadRequest} (member : r ∈ after.requests) : r ∈ db.requests ∨ InReach db x r := by
  rcases moves.mem member with ⟨older, stored, owner, same | inside⟩ | ⟨placed, _⟩
  · exact .inl (same ▸ stored)
  · exact .inr (inReach_iff.mpr ((withdrawalScope_owner owner).trans inside))
  · exact .inr (inReach_iff.mpr placed.2.1)

theorem keepsReach_empty (requests : answer.requests = []) (changes : answer.changes = [])
    (artifacts : answer.artifacts = [])
    (rows : ∀ r ∈ after.requests, r ∈ db.requests ∨ InReach db x r) : KeepsReach db x after answer where
  requests := fun _ member => absurd (requests ▸ member) not_mem_nil
  changes := fun _ member => absurd (changes ▸ member) not_mem_nil
  artifacts := fun _ member => absurd (artifacts ▸ member) not_mem_nil
  rows := rows

theorem Serves.keepsReach {replayed : Option LeadRequest} (serves : Serves db x replayed after answer)
    (replays : ∀ r ∈ replayed, InReach db x r) : KeepsReach db x after answer where
  requests := fun r member => (serves.shown.requests r member).2.elim inReach_iff.mpr (replays r)
  changes := fun _ member => absurd (serves.shown.changes ▸ member) not_mem_nil
  artifacts := fun a member => by
    obtain ⟨r, stored, named, inside | replayed⟩ := serves.shown.artifacts a member
    · exact ⟨r, stored, named, inReach_iff.mpr inside⟩
    · exact ⟨r, stored, named, replays r replayed⟩
  rows := fun _ member => moves_inReach serves.rows member

theorem call_confined {call : CustomerCall} (keyed : Keyed LeadRequest.id db.requests)
    (proper : Proper { s with db := db } (.call x call)) (done : call.run env db x = .ok (after, answer)) :
    (db.inactive x → after = db ∧ answer = {}) ∧ (db.inactive x = false → KeepsReach db x after answer) := by
  cases call with
  | registration =>
    cases done
    cases found : db.registration? x with
    | none => exact ⟨fun _ => ⟨rfl, rfl⟩, fun _ => keepsReach_empty rfl rfl rfl fun _ => .inl⟩
    | some registration =>
      refine ⟨fun inactive => ⟨rfl, ?_⟩, fun _ => keepsReach_empty rfl rfl rfl fun _ => .inl⟩
      have empty := proper inactive registration found
      rw [Option.elim_some, empty]
  | withdraw requestId now =>
    have active : db.inactive x = false := proper
    obtain ⟨_, moves⟩ := call_moves keyed done
    obtain ⟨canceled, _, last⟩ := bind_ok done
    cases last
    refine ⟨fun inactive => absurd (active.symm.trans inactive) false_ne_true, fun _ => ?_⟩
    exact keepsReach_empty rfl rfl rfl fun r member => moves_inReach moves member
  | screen call =>
    obtain ⟨profile, guard, served⟩ := screen_ok done
    have active := guard_active guard
    refine ⟨fun inactive => absurd (active.symm.trans inactive) false_ne_true, fun _ => ?_⟩
    exact (serve_serves keyed guard served).keepsReach proper

theorem announceChanges_confined {index : Nat} {published : List Uuid} {stream : RequestStream}
    (isOpen : s.streams[index]? = some stream) (proper : Proper s (.announce index published))
    (done : announceChanges s index published = .ok (t, answer)) :
    (s.db.inactive stream.login → t.db = s.db ∧ answer = {}) ∧
    (s.db.inactive stream.login = false → KeepsReach s.db stream.login t.db answer) := by
  unfold announceChanges at done
  rw [isOpen] at done
  dsimp only at done
  split at done
  · cases done
    exact ⟨fun _ => ⟨rfl, rfl⟩, fun _ => keepsReach_empty rfl rfl rfl fun _ => .inl⟩
  case h_2 profile guard =>
  cases done
  refine ⟨fun inactive => absurd ((guard_active guard).symm.trans inactive) false_ne_true, fun _ => ?_⟩
  refine ⟨fun _ member => absurd member not_mem_nil, fun id member r stored named => ?_,
    fun _ member => absurd member not_mem_nil, fun _ => .inl⟩
  obtain ⟨announced, inScope⟩ := mem_filter.mp member
  exact proper stream isOpen id announced (of_decide_eq_true inScope) r stored named

theorem confined_of_proper (holds : PortalInvariant s.db) {op : PortalOp} (proper : Proper s op) :
    Confined env s op := by
  intro x acts t answer done
  cases op with
  | party op =>
    cases op with
    | setStates userId states fresh now =>
      cases acts
      obtain ⟨after, ran, same⟩ := map_ok done
      cases same
      have active : s.db.inactive x = false := by
        change setRegistrationStates env.party s.db x states fresh now = _ at ran
        obtain ⟨active, ran⟩ := guard_ok ran
        exact eq_false_iff.mpr active
      refine ⟨fun inactive => absurd (active.symm.trans inactive) false_ne_true, fun _ => ?_⟩
      have turn : Turn _ (fun _ => False) s.db after := setRegistrationStates_turn ran
      have rows : ∀ r ∈ after.requests, r ∈ s.db.requests ∨ InReach s.db x r :=
        fun r member => .inl (turn.requests ▸ member)
      unfold PartyOp.answer
      dsimp only
      cases after.registration? x with
      | none => exact keepsReach_empty rfl rfl rfl rows
      | some registration => exact keepsReach_empty rfl rfl rfl rows
    | _ => cases acts
  | call login call =>
    cases acts
    obtain ⟨⟨after, shown⟩, ran, same⟩ := map_ok done
    cases same
    exact call_confined (s := s) holds.requests proper ran
  | openStream login =>
    cases acts
    obtain ⟨profile, guard, last⟩ := bind_ok done
    cases last
    exact ⟨fun _ => ⟨rfl, rfl⟩, fun _ => keepsReach_empty rfl rfl rfl fun _ => .inl⟩
  | announce index published =>
    obtain ⟨stream, isOpen, rfl⟩ := map_eq_some_iff.mp acts
    exact announceChanges_confined isOpen proper done
  | other after => cases acts

end

/-- In a run without unguarded calls of inactive logins and without replays and announcements of
requests that are out of reach, every call is confined. -/
theorem replaced_powerless_when (env : PortalEnv) (s : Portal) (ops : List PortalOp)
    (start : PortalInvariant s.db) (proper : Meets (portalStep env) Proper s ops) :
    Meets (portalStep env) (Confined env) s ops :=
  meets_of_invariant (I := fun s => PortalInvariant s.db) (fun _ op _ holds => portalStep_invariant holds op)
    (fun _ _ proper holds => confined_of_proper holds proper) start proper

def portalEnv : PortalEnv :=
  { party := { casing := plainCasing }, digests := ⟨fun _ => "", fun _ => ""⟩,
    icontains := fun _ _ => false }

def servedPortal : Portal :=
  { db :=
    { customers := [{ id := 1, slug := "acme", name := "Acme" }, { id := 2, slug := "zeta", name := "Zeta" }]
      userAccounts := [{ authUserId := 7, customerId := some 1, email := "ann@example.com" }]
      invitations := [{ id := 3, customerId := 1, authUserId := 8, email := "bea@example.com" }]
      profiles := [{ userId := 7, email := "ann@example.com", licensedStates := ["TX"], customerId := some 1,
                     mappingConfirmedAt := some 0 }]
      requests :=
        [{ id := 11, userId := 7, customerId := 1, leadCount := 5, rowsPerFile := 5,
           statesSnapshot := ["TX"],
                     createdAt := 0, idempotencyKey := some "flow-0001" }] } }

theorem servedPortal_invariant : PortalInvariant servedPortal.db := ⟨by decide +kernel, by decide +kernel⟩

/-- The invited login signs in, the replaced one tries to withdraw the request and the new one lists
it. -/
def acceptedThenCalled : List PortalOp :=
  [.party (.signIn { userId := 8, email := "bea@example.com" } { id := 9 } 1), .call 7
    (.screen (.cancel 11 2)),
    .call 8 (.screen .requests)]

theorem replaced_powerless_when_accepted :
    Meets (portalStep portalEnv) (Confined portalEnv) servedPortal acceptedThenCalled ∧
    (run (portalStep portalEnv) servedPortal acceptedThenCalled).db.inactive 7 = true ∧
    (run (portalStep portalEnv) servedPortal acceptedThenCalled).db.requests = servedPortal.db.requests :=
  ⟨replaced_powerless_when portalEnv servedPortal acceptedThenCalled servedPortal_invariant
    (by decide +kernel), by decide +kernel, by decide +kernel⟩

section
variable {env : PortalEnv} {s : Portal} {op : PortalOp} {x : Uuid}

theorem not_confined_of_change (acts : op.login s = some x) (inactive : s.db.inactive x)
    (changes : (respond env s op).toOption.any fun outcome => outcome.1.db.requests ≠ s.db.requests) :
    ¬Confined env s op := by
  intro confined
  obtain ⟨⟨t, answer⟩, done, differs⟩ := (Option.any_eq_true _ _).mp changes
  cases result : respond env s op with
  | error fault =>
    rw [result] at done
    cases done
  | ok outcome =>
    rw [result] at done
    cases done
    have same := ((confined x acts t answer result).1 inactive).1
    exact of_decide_eq_true differs (congrArg Db.requests same)

theorem not_confined_of_shown (acts : op.login s = some x) (active : s.db.inactive x = false)
    (shows_ : (respond env s op).toOption.any (fun outcome =>
    outcome.2.requests.any fun r => decide (¬InReach s.db x r))) : ¬Confined env s op := by
  intro confined
  obtain ⟨⟨t, answer⟩, done, outside⟩ := (Option.any_eq_true _ _).mp shows_
  cases result : respond env s op with
  | error fault =>
    rw [result] at done
    cases done
  | ok outcome =>
    rw [result] at done
    cases done
    obtain ⟨r, member, unreached⟩ := any_eq_true.mp outside
    exact of_decide_eq_true unreached (((confined x acts t answer result).2 active).requests r member)

end

/-- The replaced login withdraws the request through the older endpoint; a login that was mapped to
another Customer is answered with the request it submitted for the first. -/
theorem replaced_withdraws : PortalInvariant servedPortal.db ∧
    ¬Meets (portalStep portalEnv) (Confined portalEnv) servedPortal
      [.party (.signIn { userId := 8, email := "bea@example.com" } { id := 9 } 1), .call 7
      (.withdraw 11 2)] ∧
    ¬Meets (portalStep portalEnv) (Confined portalEnv) servedPortal
      [.party (.map 7 2 true 1), .call 7 (.screen (.submit
        { leadCount := 5, idempotencyKey := "flow-0001", leadCountRange := by decide } ⟨12, 13⟩ 2))] := by
  refine ⟨servedPortal_invariant, fun meets => ?_, fun meets => ?_⟩
  · exact not_confined_of_change rfl (by decide +kernel) (by decide +kernel) meets.2.1
  · exact not_confined_of_shown rfl (by decide +kernel) (by decide +kernel) meets.2.1

end Jawnix
