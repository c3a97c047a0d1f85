import Jawnix.CustomerEndpoints

/-!
# The Customer portal along runs

Operations of administrators, sign-ins, the calls of logins, their event streams and the
transactions of everybody else, in any order. An event stream takes the requests in scope
when it is opened and asks the guard before each announcement.
-/
namespace Jawnix

structure RequestStream where
  login : Uuid
  scope : List Uuid

structure Portal where
  db : Db
  streams : List RequestStream := []

/-- What a transaction of the worker, an approver or another endpoint keeps: the links of logins,
and whose each request is. -/
@[mk_iff]
structure OthersWork (db after : Db) : Prop where
  links : SameLinks db after
  owners : after.requests.map LeadRequest.owner = db.requests.map LeadRequest.owner

instance (db after : Db) : Decidable (SameLinks db after) := decidable_of_iff' _ (sameLinks_iff ..)

instance (db after : Db) : Decidable (OthersWork db after) :=
  decidable_of_iff' _ (othersWork_iff ..)

inductive PortalOp where
  | party (op : PartyOp)
  | call (login : Uuid) (call : CustomerCall)
  | openStream (login : Uuid)
  | announce (stream : Nat) (published : List Uuid)
  | other (after : Db)

def PartyOp.answer (after : Db) : PartyOp → Disclosure
  | .setStates userId .. =>
    (after.registration? userId).elim {}
    (fun registration => { licensedStates := registration.licensedStates })
  | _ => {}

variable (s : Portal)

def openStream (x : Uuid) : Except Fault (Portal × Disclosure) := do
  let profile ← currentCustomerProfile s.db x
  let scope := (s.db.requests.filter (requestHistoryScope profile x)).map LeadRequest.id
  .ok ({ s with streams := s.streams ++ [⟨x, scope⟩] }, {})

/-- One turn of `request_events`: a login that the guard refuses is told so and the stream ends. -/
def announceChanges (index : Nat) (published : List Uuid) : Except Fault (Portal × Disclosure) :=
  match s.streams[index]? with
  | none => .error (.lookup "The stream is not open.")
  | some stream =>
    match currentCustomerProfile s.db stream.login with
    | .error _ => .ok ({ s with streams := s.streams.eraseIdx index }, {})
    | .ok _ => .ok (s, { changes := published.filter (fun id => id ∈ stream.scope) })

def otherTransaction (after : Db) : Except Fault (Portal × Disclosure) :=
  if OthersWork s.db after then .ok ({ s with db := after }, {}) else
    .error (.integrity "The transaction is not another's.")

def respond (env : PortalEnv) (s : Portal) : PortalOp → Except Fault (Portal × Disclosure)
  | .party op => (op.run env.party s.db).map (fun after => ({ s with db := after }, op.answer after))
  | .call login call => (call.run env s.db login).map
      (fun outcome => ({ s with db := outcome.1 }, outcome.2))
  | .openStream login => openStream s login
  | .announce stream published => announceChanges s stream published
  | .other after => otherTransaction s after

def portalStep (env : PortalEnv) (s : Portal) (op : PortalOp) : Portal :=
  commit s ((respond env s op).map Prod.fst)

def PortalOp.login (s : Portal) : PortalOp → Option Uuid
  | .call login _ | .openStream login => some login
  | .announce stream _ => s.streams[stream]?.map RequestStream.login
  | .party (.setStates userId ..) => some userId
  | _ => none

structure PortalInvariant (db : Db) : Prop where
  customers : Keyed Customer.id db.customers
  requests : Keyed LeadRequest.id db.requests

section
variable {env : PortalEnv} {s t : Portal} {x : Uuid} {answer : Disclosure}

theorem map_ok {α β : Type} {outcome : Except Fault α} {f : α → β} {b : β}
    (done : outcome.map f = .ok b) : ∃ a, outcome = .ok a ∧ f a = b := by
  cases outcome with
  | error fault => cases done
  | ok a =>
    cases done
    exact ⟨a, rfl, rfl⟩

theorem call_moves {db after : Db} {call : CustomerCall} (keyed : Keyed LeadRequest.id db.requests)
    (done : call.run env db x = .ok (after, answer)) :
    SameLinks db after ∧ RequestsMove (withdrawalScope db x) (MayPlace db x) db.requests after.requests := by
  cases call with
  | registration =>
    cases done
    exact ⟨.refl _, .refl _⟩
  | withdraw requestId now =>
    obtain ⟨canceled, cancels, last⟩ := bind_ok done
    cases last
    obtain ⟨_, _, _, links, moves⟩ := cancelRequest_moves keyed (mapError_ok cancels)
    exact ⟨links, moves⟩
  | screen call =>
    obtain ⟨profile, guard, served⟩ := screen_ok done
    have serves := serve_serves keyed guard served
    exact ⟨serves.links, serves.rows⟩

theorem announceChanges_db {index : Nat} {published : List Uuid}
    (done : announceChanges s index published = .ok (t, answer)) : t.db = s.db := by
  unfold announceChanges at done
  split at done
  · cases done
  split at done
  · cases done
    rfl
  · cases done
    rfl

theorem otherTransaction_ok {after : Db} (done : otherTransaction s after = .ok (t, answer)) :
    OthersWork s.db after ∧ t = { s with db := after } := by
  unfold otherTransaction at done
  split at done
  case isTrue kept =>
    cases done
    exact ⟨kept, rfl⟩
  · cases done

theorem keyed_of_map {α β : Type} {key : α → β} {rows others : List α}
    (same : others.map key = rows.map key) (keyed : Keyed key rows) : Keyed key others := by
  unfold Keyed
  rw [same]
  exact keyed

theorem OthersWork.requests {db after : Db} (kept : OthersWork db after) :
    after.requests.map LeadRequest.id = db.requests.map LeadRequest.id := by
  have same := congrArg (List.map Prod.fst) kept.owners
  rw [map_map, map_map] at same
  exact same

theorem portalStep_invariant (holds : PortalInvariant s.db) (op : PortalOp) :
    PortalInvariant (portalStep env s op).db := by
  refine commit_cases (P := fun t : Portal => PortalInvariant t.db) holds fun t done => ?_
  obtain ⟨answer, done⟩ := map_fst_ok done
  cases op with
  | party op =>
    obtain ⟨after, ran, same⟩ := map_ok done
    cases same
    have turn := run_turn holds.customers ran
    exact ⟨turn.keyed holds.customers, turn.requests ▸ holds.requests⟩
  | call login call =>
    obtain ⟨⟨after, shown⟩, ran, same⟩ := map_ok done
    cases same
    obtain ⟨links, moves⟩ := call_moves holds.requests ran
    exact ⟨keyed_of_map links.customers holds.customers, moves.keyed holds.requests⟩
  | openStream login =>
    obtain ⟨profile, _, last⟩ := bind_ok done
    cases last
    exact holds
  | announce stream published => exact announceChanges_db done ▸ holds
  | other after =>
    obtain ⟨kept, rfl⟩ := otherTransaction_ok done
    exact ⟨keyed_of_map kept.links.customers holds.customers, keyed_of_map kept.requests holds.requests⟩

end

end Jawnix
