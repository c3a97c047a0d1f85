import Mathlib.Data.Finset.Max
import Mathlib.Data.String.Basic
import Jawnix.Library.Classes
import Jawnix.Models

/-!
# Agency assignment and permanent no-repeat history

`agency_management.py` and the administrator endpoints around it. Current membership
says where a Customer belongs today; the permanent history key says which Customers
and Agencies ever shared a history. An assignment merges keys and never splits them.
Preview and activity log are left out.
-/
namespace Jawnix

inductive Subject where
  | customer (id : Nat)
  | agency (id : Nat)

def Db.historyKey (db : Db) : Subject → Option String
  | .customer id => (db.customer? id).map Customer.permanentHistoryKey
  | .agency id => (db.agency? id).map Agency.permanentHistoryKey

/-! ## The closure search -/

structure HistorySubjects where
  keys : Finset String
  customerIds : Finset Nat
  agencyIds : Finset Nat

namespace HistorySubjects

def union (a b : HistorySubjects) : HistorySubjects :=
  ⟨a.keys ∪ b.keys, a.customerIds ∪ b.customerIds, a.agencyIds ∪ b.agencyIds⟩

def Within (a b : HistorySubjects) : Prop :=
  a.keys ⊆ b.keys ∧ a.customerIds ⊆ b.customerIds ∧ a.agencyIds ⊆ b.agencyIds
  deriving Decidable

end HistorySubjects

variable (db : Db) (keys resolved : Finset String)

/-- One pass: the parties with a resolved key, their current Agencies, and the current members of
all those. -/
def expandSubjects (resolved : Finset String) : HistorySubjects :=
  let customers := db.customers.filter (fun c => c.permanentHistoryKey ∈ resolved)
  let agencies := db.agencies.filter (fun a => a.permanentHistoryKey ∈ resolved)
  let currentAgencyIds := customers.filterMap Customer.agencyId
  let currentAgencies := db.agencies.filter (fun a => a.id ∈ currentAgencyIds)
  let nextAgencyIds := (agencies ++ currentAgencies).map Agency.id
  let currentMembers := db.customers.filter (fun c => c.agencyId.any fun a => a ∈ nextAgencyIds)
  { keys := ((customers ++ currentMembers).map Customer.permanentHistoryKey ++
      (agencies ++ currentAgencies).map Agency.permanentHistoryKey).toFinset
    customerIds := ((customers ++ currentMembers).map Customer.id).toFinset
    agencyIds := nextAgencyIds.toFinset }

def historyLoop (db : Db) : Nat → HistorySubjects → Option HistorySubjects
  | 0, _ => none
  | fuel + 1, found =>
    let next := expandSubjects db found.keys
    if next.Within found then some found else historyLoop db fuel (found.union next)

/-- Every pass but the last finds a new key or a new party. -/
def historyFuel : Nat := 2 * (db.customers.length + db.agencies.length) + 1

def historySubjects : HistorySubjects :=
  (historyLoop db (historyFuel db) ⟨keys, ∅, ∅⟩).getD ⟨keys, ∅, ∅⟩

def historyForCustomer (customer : Customer) : HistorySubjects :=
  match customer.agencyId.bind db.agency? with
  | none => historySubjects db {customer.permanentHistoryKey}
  | some agency => historySubjects db {customer.permanentHistoryKey, agency.permanentHistoryKey}

def historyForAgency (agency : Agency) : HistorySubjects :=
  historySubjects db {agency.permanentHistoryKey}

/-! ### Links -/

inductive HistoryRow where
  | customer (c : Customer)
  | agency (a : Agency)

def Db.Stores : HistoryRow → Prop
  | .customer c => c ∈ db.customers
  | .agency a => a ∈ db.agencies

def HistoryRow.key : HistoryRow → String
  | customer c => c.permanentHistoryKey
  | agency a => a.permanentHistoryKey

def HistoryRow.subject : HistoryRow → Subject
  | customer c => .customer c.id
  | agency a => .agency a.id

/-- The links to stored rows: a shared key, or a current membership. -/
inductive Links (stores : HistoryRow → Prop) : HistoryRow → HistoryRow → Prop
  | key {x y : HistoryRow} (stored : stores y) (same : x.key = y.key) : Links stores x y
  | joins {c : Customer} {a : Agency} (stored : stores (.agency a))
      (joined : c.agencyId = some a.id) : Links stores (.customer c) (.agency a)
  | holds {c : Customer} {a : Agency} (stored : stores (.customer c))
      (joined : c.agencyId = some a.id) : Links stores (.agency a) (.customer c)

inductive HistoryMark where
  | key (key : String)
  | party (subject : Subject)

def HistoryRow.Shows (x : HistoryRow) : HistoryMark → Prop
  | .key key => x.key = key
  | .party subject => x.subject = subject

namespace HistorySubjects
variable {a b : HistorySubjects} {mark : HistoryMark}

def Has (found : HistorySubjects) : HistoryMark → Prop
  | .key key => key ∈ found.keys
  | .party (.customer id) => id ∈ found.customerIds
  | .party (.agency id) => id ∈ found.agencyIds

theorem within_iff : a.Within b ↔ ∀ mark, a.Has mark → b.Has mark := by
  constructor
  · rintro ⟨keys, customers, agencies⟩ (key | id | id) has
    · exact keys has
    · exact customers has
    · exact agencies has
  · exact fun kept => ⟨fun key => kept (.key key), fun id => kept (.party (.customer id)), fun id =>
      kept (.party (.agency id))⟩

theorem has_union : (a.union b).Has mark ↔ a.Has mark ∨ b.Has mark := by
  rcases mark with key | id | id <;> exact Finset.mem_union

theorem ext_has (same : ∀ mark, a.Has mark ↔ b.Has mark) : a = b := by
  obtain ⟨_, _, _⟩ := a
  obtain ⟨_, _, _⟩ := b
  rw [mk.injEq]
  exact ⟨Finset.ext fun key => same (.key key), Finset.ext fun id => same (.party (.customer id)),
    Finset.ext fun id => same (.party (.agency id))⟩

end HistorySubjects

def ReadsAgency (a : Agency) : Prop :=
  a ∈ db.agencies ∧ (a.permanentHistoryKey ∈ resolved ∨
    ∃ c ∈ db.customers, c.permanentHistoryKey ∈ resolved ∧ c.agencyId = some a.id)

def Reads : HistoryRow → Prop
  | .agency a => ReadsAgency db resolved a
  | .customer c => c ∈ db.customers ∧
      (c.permanentHistoryKey ∈ resolved ∨ ∃ a, ReadsAgency db resolved a ∧ c.agencyId = some a.id)

theorem exists_row {p : HistoryRow → Prop} : (∃ x, p x) ↔ (∃ c, p (.customer c)) ∨ ∃ a, p (.agency a) := by
  constructor
  · rintro ⟨c | a, holds⟩
    · exact .inl ⟨c, holds⟩
    · exact .inr ⟨a, holds⟩
  · rintro (⟨c, holds⟩ | ⟨a, holds⟩) <;> exact ⟨_, holds⟩

theorem expandSubjects_lists :
    ∃ (customers : List Customer) (agencies : List Agency),
    (∀ c, c ∈ customers ↔ Reads db resolved (.customer c)) ∧
    (∀ a, a ∈ agencies ↔ Reads db resolved (.agency a)) ∧
    expandSubjects db resolved =
    ⟨(customers.map Customer.permanentHistoryKey ++ agencies.map Agency.permanentHistoryKey).toFinset,
    (customers.map Customer.id).toFinset, (agencies.map Agency.id).toFinset⟩ := by
  have agencies : ∀ a, a ∈ db.agencies.filter (fun a => a.permanentHistoryKey ∈ resolved) ++
      db.agencies.filter (fun a => decide (a.id ∈ (db.customers.filter (fun c =>
        decide (c.permanentHistoryKey ∈ resolved))).filterMap Customer.agencyId)) ↔
          ReadsAgency db resolved a := by
    intro a
    simp only [mem_append, mem_filter, mem_filterMap, decide_eq_true_eq, ReadsAgency, and_assoc, and_or_left]
  refine ⟨_, _, fun c => ?_, agencies, rfl⟩
  rw [mem_append]
  simp only [mem_filter, Option.any_eq_true, decide_eq_true_eq, mem_map, agencies, Reads, and_or_left]
  refine or_congr_right (and_congr_right fun _ => ?_)
  exact ⟨fun ⟨_, joined, a, found, same⟩ => ⟨a, found, same ▸ joined⟩, fun ⟨a, found, joined⟩ =>
    ⟨_, joined, a, found, rfl⟩⟩

theorem expandSubjects_has {db : Db} {resolved : Finset String} {mark : HistoryMark} :
    (expandSubjects db resolved).Has mark ↔ ∃ x, Reads db resolved x ∧ x.Shows mark := by
  obtain ⟨customers, agencies, ofCustomers, ofAgencies, same⟩ := expandSubjects_lists db resolved
  rw [same]
  rcases mark with key | id | id <;>
    simp [HistorySubjects.Has, exists_row, HistoryRow.Shows, HistoryRow.key, HistoryRow.subject,
      ofCustomers, ofAgencies]

/-! ### The loop returns -/

def Db.everySubject : HistorySubjects where
  keys := (db.customers.map Customer.permanentHistoryKey ++
    db.agencies.map Agency.permanentHistoryKey).toFinset
  customerIds := (db.customers.map Customer.id).toFinset
  agencyIds := (db.agencies.map Agency.id).toFinset

theorem expandSubjects_within : (expandSubjects db resolved).Within db.everySubject := by
  refine HistorySubjects.within_iff.mpr fun mark has => ?_
  have every : db.everySubject.Has mark ↔ ∃ x, db.Stores x ∧ x.Shows mark := by
    rcases mark with key | id | id <;>
      simp [HistorySubjects.Has, Db.everySubject, exists_row, HistoryRow.Shows, HistoryRow.key,
        HistoryRow.subject, Db.Stores]
  obtain ⟨c | a, reads, shows_⟩ := expandSubjects_has.mp has
  · exact every.mpr ⟨.customer c, reads.1, shows_⟩
  · exact every.mpr ⟨.agency a, reads.1, shows_⟩

def HistorySubjects.missing (all found : HistorySubjects) : Nat :=
  (all.keys \ found.keys).card + (all.customerIds \ found.customerIds).card +
    (all.agencyIds \ found.agencyIds).card

theorem card_sdiff_union_le {α : Type*} [DecidableEq α] (all found next : Finset α) :
    (all \ (found ∪ next)).card ≤ (all \ found).card :=
  Finset.card_le_card (Finset.sdiff_subset_sdiff subset_rfl Finset.subset_union_left)

theorem card_sdiff_union_lt {α : Type*} [DecidableEq α] {all found next : Finset α} (known : next ⊆ all)
    (new : ¬next ⊆ found) : (all \ (found ∪ next)).card < (all \ found).card := by
  obtain ⟨x, inNext, unfound⟩ := Finset.not_subset.mp new
  apply Finset.card_lt_card
  refine ⟨Finset.sdiff_subset_sdiff subset_rfl Finset.subset_union_left, fun back => ?_⟩
  have kept := back (Finset.mem_sdiff.mpr ⟨known inNext, unfound⟩)
  exact (Finset.mem_sdiff.mp kept).2 (Finset.mem_union_right _ inNext)

theorem HistorySubjects.missing_union_lt {all found next : HistorySubjects} (known : next.Within all)
    (new : ¬next.Within found) : all.missing (found.union next) < all.missing found := by
  have keys := card_sdiff_union_le all.keys found.keys next.keys
  have customers := card_sdiff_union_le all.customerIds found.customerIds next.customerIds
  have agencies := card_sdiff_union_le all.agencyIds found.agencyIds next.agencyIds
  simp only [missing, union]
  by_cases inKeys : next.keys ⊆ found.keys
  · by_cases inCustomers : next.customerIds ⊆ found.customerIds
    · have grows := card_sdiff_union_lt known.2.2 fun inAgencies => new ⟨inKeys, inCustomers, inAgencies⟩
      omega
    · have grows := card_sdiff_union_lt known.2.1 inCustomers
      omega
  · have grows := card_sdiff_union_lt known.1 inKeys
    omega

/-- A pass that is not the last one finds something, so the passes are bounded by what there is to
find. -/
theorem historyLoop_returns {db : Db} {fuel : Nat} {found : HistorySubjects}
    (enough : db.everySubject.missing found < fuel) : (historyLoop db fuel found).isSome := by
  induction fuel generalizing found with
  | zero => omega
  | succ fuel ih =>
  simp only [historyLoop]
  split
  · rfl
  case isFalse grows =>
  have fewer := HistorySubjects.missing_union_lt (expandSubjects_within db found.keys) grows
  exact ih (by omega)

theorem missing_lt_historyFuel : db.everySubject.missing ⟨keys, ∅, ∅⟩ < historyFuel db := by
  have inKeys : (db.everySubject.keys \ keys).card ≤ db.customers.length + db.agencies.length := by
    refine (Finset.card_le_card Finset.sdiff_subset).trans ((List.toFinset_card_le _).trans ?_)
    simp
  have inCustomers : db.everySubject.customerIds.card ≤ db.customers.length :=
    (List.toFinset_card_le _).trans (length_map _).le
  have inAgencies : db.everySubject.agencyIds.card ≤ db.agencies.length :=
    (List.toFinset_card_le _).trans (length_map _).le
  simp only [HistorySubjects.missing, Finset.sdiff_empty, historyFuel]
  omega

/-- The loop ends, so what stands in for a loop that does not is never used. -/
theorem historySubjects_loop :
    historyLoop db (historyFuel db) ⟨keys, ∅, ∅⟩ = some (historySubjects db keys) := by
  obtain ⟨subjects, returned⟩ := isSome_iff_exists.mp (historyLoop_returns (missing_lt_historyFuel db keys))
  rw [historySubjects, returned, getD_some]

theorem historyLoop_keys {db : Db} {fuel : Nat} {found subjects : HistorySubjects}
    (closed : (expandSubjects db found.keys).keys ⊆ found.keys)
    (returned : historyLoop db fuel found = some subjects) : subjects.keys = found.keys := by
  induction fuel generalizing found with
  | zero => cases returned
  | succ fuel ih =>
  simp only [historyLoop] at returned
  split at returned
  · cases returned
    rfl
  have same : (found.union (expandSubjects db found.keys)).keys = found.keys :=
    Finset.union_eq_left.mpr closed
  rw [← same]
  exact ih (by rw [same]; exact closed) returned

theorem historySubjects_keys {db : Db} {keys : Finset String}
    (closed : (expandSubjects db keys).keys ⊆ keys) : (historySubjects db keys).keys = keys :=
  @historyLoop_keys db (historyFuel db) ⟨keys, ∅, ∅⟩ (historySubjects db keys) closed
    (historySubjects_loop db keys)

/-! ### What the loop returns -/

/-- The rows linked to a first one, directly or through others. -/
def Component (first : HistoryRow) : HistoryRow → Prop := Relation.ReflTransGen (Links db.Stores) first

def historyOf : HistoryRow → HistorySubjects
  | .customer c => historyForCustomer db c
  | .agency a => historyForAgency db a

section
variable {db : Db} {first : HistoryRow} {found subjects : HistorySubjects} {keys : Finset String}

structure FoundIn (db : Db) (first : HistoryRow) (found : HistorySubjects) : Prop where
  start : first.key ∈ found.keys
  shown : ∀ mark, found.Has mark → ∃ x, Component db first x ∧ x.Shows mark

section
variable (sound : FoundIn db first found)
include sound

theorem FoundIn.union : FoundIn db first (found.union (expandSubjects db found.keys)) where
  start := Finset.mem_union_left _ sound.start
  shown mark has := by
    rcases HistorySubjects.has_union.mp has with old | new
    · exact sound.shown mark old
    have keyed : ∀ x, db.Stores x → x.key ∈ found.keys → Component db first x := by
      intro x stored known
      obtain ⟨y, reached, same⟩ := sound.shown (.key x.key) known
      exact reached.tail (.key stored same)
    have ofAgency : ∀ a, ReadsAgency db found.keys a → Component db first (.agency a) := by
      rintro a ⟨stored, known | ⟨c, inTable, known, joined⟩⟩
      · exact keyed (.agency a) stored known
      · exact (keyed (.customer c) inTable known).tail (.joins stored joined)
    obtain ⟨c | a, reads, shows_⟩ := expandSubjects_has.mp new
    · refine ⟨.customer c, ?_, shows_⟩
      obtain ⟨stored, known | ⟨a, read, joined⟩⟩ := reads
      · exact keyed (.customer c) stored known
      · exact (ofAgency a read).tail (.holds stored joined)
    · exact ⟨.agency a, ofAgency a reads, shows_⟩

theorem historyLoop_foundIn {fuel : Nat} (returned : historyLoop db fuel found = some subjects) :
    FoundIn db first subjects ∧ (expandSubjects db subjects.keys).Within subjects := by
  induction fuel generalizing found with
  | zero => cases returned
  | succ fuel ih =>
  simp only [historyLoop] at returned
  split at returned
  case isTrue within =>
    cases returned
    exact ⟨sound, within⟩
  · exact ih sound.union returned

theorem FoundIn.complete (stored : db.Stores first)
    (within : (expandSubjects db found.keys).Within found) {x : HistoryRow} (reached : Component db first x)
    {mark : HistoryMark} (shown : x.Shows mark) : found.Has mark := by
  have read : ∀ {x}, Reads db found.keys x → ∀ {mark}, x.Shows mark → found.Has mark := fun reads _ shown =>
    HistorySubjects.within_iff.mp within _ (expandSubjects_has.mpr ⟨_, reads, shown⟩)
  have known : ∀ {x}, Reads db found.keys x → found.Has (.key x.key) := fun reads => read reads rfl
  have keyed : ∀ {x}, db.Stores x → x.key ∈ found.keys → Reads db found.keys x := by
    rintro (c | a) inTable known <;> exact ⟨inTable, .inl known⟩
  have reads : db.Stores x ∧ x.key ∈ found.keys := by
    clear shown
    induction reached with
    | refl => exact ⟨stored, sound.start⟩
    | tail _ link ih =>
      cases link with
      | key inTable same => exact ⟨inTable, same ▸ ih.2⟩
      | @joins c a inTable joined =>
          exact ⟨inTable, known (x := .agency a) ⟨inTable, .inr ⟨c, ih.1, ih.2, joined⟩⟩⟩
      | @holds c a inTable joined =>
        exact ⟨inTable, known (x := .customer c) ⟨inTable, .inr ⟨a, keyed ih.1 ih.2, joined⟩⟩⟩
  exact read (keyed reads.1 reads.2) shown

end

theorem historySubjects_component (stored : db.Stores first) (start : first.key ∈ keys)
    (own : ∀ key ∈ keys, ∃ x, Component db first x ∧ x.key = key) (mark : HistoryMark) :
    (historySubjects db keys).Has mark ↔ ∃ x, Component db first x ∧ x.Shows mark := by
  have sound : FoundIn db first ⟨keys, ∅, ∅⟩ := by
    refine ⟨start, fun mark has => ?_⟩
    rcases mark with key | id | id
    · exact own key has
    · cases Finset.notMem_empty id has
    · cases Finset.notMem_empty id has
  obtain ⟨sound, within⟩ := historyLoop_foundIn sound (historySubjects_loop db keys)
  exact ⟨sound.shown mark, fun ⟨x, reached, shown⟩ => sound.complete stored within reached shown⟩

theorem historyOf_component (stored : db.Stores first) (mark : HistoryMark) :
    (historyOf db first).Has mark ↔ ∃ x, Component db first x ∧ x.Shows mark := by
  have here : Component db first first := .refl
  cases first with
  | agency a =>
    refine historySubjects_component stored (Finset.mem_singleton_self _) (fun key known => ?_) mark
    exact ⟨.agency a, here, (Finset.mem_singleton.mp known).symm⟩
  | customer c =>
  simp only [historyOf, historyForCustomer]
  split
  · refine historySubjects_component stored (Finset.mem_singleton_self _) (fun key known => ?_) mark
    exact ⟨.customer c, here, (Finset.mem_singleton.mp known).symm⟩
  case h_2 agency current =>
  obtain ⟨id, joined, found⟩ := bind_eq_some_iff.mp current
  obtain ⟨inTable, rfl⟩ := lookup_some found
  refine historySubjects_component stored (Finset.mem_insert_self _ _) (fun key known => ?_) mark
  rcases Finset.mem_insert.mp known with rfl | own
  · exact ⟨.customer c, here, rfl⟩
  · exact ⟨.agency agency, here.tail (.joins inTable joined), (Finset.mem_singleton.mp own).symm⟩

end

/-- The search ends. It returns the least set of rows that holds the first and is closed under the
links, in whatever order the tables are read. -/
theorem history_component (db : Db) (first : HistoryRow) (stored : db.Stores first) :
    (∀ keys, historyLoop db (historyFuel db) ⟨keys, ∅, ∅⟩ = some (historySubjects db keys)) ∧
      (∀ mark, (historyOf db first).Has mark ↔ ∃ x, Component db first x ∧ x.Shows mark) ∧
      (∀ closed : HistoryRow → Prop, closed first →
        (∀ x y, closed x → Links db.Stores x y → closed y) → ∀ x, Component db first x → closed x) ∧
      ∀ other : Db, other.customers.Perm db.customers → other.agencies.Perm db.agencies →
        historyOf other first = historyOf db first := by
  have found := historyOf_component stored
  refine ⟨historySubjects_loop db, found, fun closed start step x reached =>
    ?_, fun other customers agencies => ?_⟩
  · induction reached with
    | refl => exact start
    | tail _ link ih => exact step _ _ ih link
  have stores : other.Stores = db.Stores := by
    funext x
    cases x with
    | customer c => exact propext customers.mem_iff
    | agency a => exact propext agencies.mem_iff
  have same : Component other first = Component db first := by
    unfold Component
    rw [stores]
  refine HistorySubjects.ext_has fun mark => ?_
  rw [found, historyOf_component (stores ▸ stored), same]

def joinedParty : Customer := { id := 1, permanentHistoryKey := "c1", agencyId := some 5 }

def joinedParties : Db :=
  { customers :=
      [joinedParty, { id := 2, permanentHistoryKey := "a5" }, { id := 3, permanentHistoryKey := "c3" }]
    agencies := [{ id := 5, permanentHistoryKey := "a5" }] }

theorem history_component_joined : (historyOf joinedParties (.customer joinedParty)).customerIds = {1, 2} ∧
      ∃ x, Component joinedParties (.customer joinedParty) x ∧ x.Shows (.party (.customer 2)) := by
  have stored : joinedParties.Stores (.customer joinedParty) := mem_cons_self
  refine ⟨by decide +kernel, ((history_component joinedParties _ stored).2.1 _).mp ?_⟩
  exact (by decide +kernel : 2 ∈ (historyOf joinedParties (.customer joinedParty)).customerIds)

/-! ## Assignment -/

/-- `min(keys)` of a set that is not empty. -/
def canonicalKey : String := keys.min.untopD ""

def mergedKey (key : String) : String := if key ∈ keys then canonicalKey keys else key

def mergeHistory : Db :=
  { db with
    customers :=
      db.customers.map
      (fun c => { c with permanentHistoryKey := mergedKey keys c.permanentHistoryKey })
    agencies :=
      db.agencies.map
      (fun a => { a with permanentHistoryKey := mergedKey keys a.permanentHistoryKey }) }

def appendMembership (period : AgencyMembershipHistory) : Db :=
  { db with
    agencyMemberships := db.agencyMemberships ++ [{ period with id := db.agencyMembershipSeq + 1 }]
    agencyMembershipSeq := db.agencyMembershipSeq + 1 }

/-- The open period ends; a membership from before the periods were kept is noted as one. -/
def endMembership (customer : Customer) (previous : Option Agency) (now : Instant) : Db :=
  match db.agencyMemberships.find? (fun m => m.customerId = customer.id && m.endedAt.isNone), previous with
  | some current, _ =>
    let close := fun m : AgencyMembershipHistory => { m with endedAt := some now }
    { db with agencyMemberships := adjust AgencyMembershipHistory.id current.id close db.agencyMemberships }
  | none, some agency => appendMembership db
      { id := 0, customerId := customer.id, agencyId := agency.id, startedAt := now, endedAt := some now,
        assignedBy := "system:existing-membership",
          reason := "Existing membership retained before reassignment." }
  | none, none => db

def startMembership (customer : Customer) (actorId reason : String) (now : Instant) : Option Agency → Db
  | none => db
  | some agency => appendMembership db
      { id := 0, customerId := customer.id, agencyId := agency.id, startedAt := now,
        assignedBy := actorId, reason }

/-- History merges only into an Agency. -/
def mergedInto (customer : Customer) : Option Agency → Db
  | none => db
  | some agency =>
      mergeHistory db ((historyForCustomer db customer).keys ∪ (historyForAgency db agency).keys)

def movedTo (destination : Option Agency) (c : Customer) : Customer :=
  { c with agencyId := destination.map Agency.id }

def assignCustomer (customer : Customer) (destination : Option Agency) (actorId reason : String)
    (confirmed : Bool) (now : Instant) : Except Fault Db :=
  if strip reason = "" then .error (.assignment "An audit reason is required for an Agency assignment.")
  else if confirmed = false then
    .error (.assignment "Explicit confirmation is required because history merges permanently.")
  else if destination.any (fun a => !a.active || a.deletedAt.isSome) then
    .error (.assignment "A Customer cannot join a deactivated Agency.")
  else if customer.agencyId = destination.map Agency.id then .ok db
  else
    let merged := mergedInto db customer destination
    let ended := endMembership merged customer (customer.agencyId.bind db.agency?) now
    let moved := ended.setCustomer customer.id (movedTo destination)
    .ok (startMembership moved customer actorId (strip reason) now destination)

/-! ## The endpoints -/

def conflictFault : Fault → Fault
  | .assignment message => .http 409 message
  | fault => fault

def adminCustomerAgencyAssignment (customerId : Nat) (agencyId : Option Nat)
    (actorId reason : String) (confirmed : Bool) (now : Instant) : Except Fault Db :=
  match db.customer? customerId with
  | none => .error (.http 404 "Customer was not found.")
  | some customer =>
    if customer.deletedAt.isSome then .error (.http 404 "Customer was not found.")
    else
      let assign := fun destination =>
        match assignCustomer db customer destination actorId reason confirmed now with
        | .error fault => .error (conflictFault fault)
        | .ok assigned => .ok assigned
      match agencyId with
      | none => assign none
      | some id =>
        match db.agency? id with
        | none => .error (.http 404 "Agency was not found.")
        | some agency =>
          if agency.deletedAt.isSome then .error (.http 404 "Agency was not found.") else assign
            (some agency)

def updateAgency (agencyId : Nat) (name reason : String) (active : Bool) : Except Fault Db :=
  match db.agency? agencyId with
  | none => .error (.http 404 "Agency was not found.")
  | some agency =>
    if agency.deletedAt.isSome then .error (.http 404 "Agency was not found.")
    else if strip name = "" then .error (.http 422 "Agency name is required.")
    else if strip reason = "" then .error (.http 422 "Reason is required.")
    else .ok (db.setAgency agencyId fun a => { a with name := strip name, active })

def updateCustomer (customerId : Nat) (name : String) (active : Bool) (agencyId : Option Nat) :
    Except Fault Db :=
  match db.customer? customerId with
  | none => .error (.http 404 "Customer was not found.")
  | some customer =>
    if customer.deletedAt.isSome then .error (.http 404 "Customer was not found.")
    else if agencyId ≠ customer.agencyId then
      .error (.http 409 "Agency membership changes require a consequence preview and explicit confirmation.")
    else if strip name = "" then .error (.http 422 "Customer name is required.")
    else .ok (db.setCustomer customerId fun c => { c with name := strip name, active })

theorem updateCustomer_cases {db after : Db} {customerId : Nat} {name : String} {active : Bool}
    {agencyId : Option Nat} (done : updateCustomer db customerId name active agencyId = .ok after) :
    after = db.setCustomer customerId fun c => { c with name := strip name, active } := by
  unfold updateCustomer at done
  repeat' split at done
  all_goals cases done
  rfl

theorem updateAgency_cases {db after : Db} {agencyId : Nat} {name reason : String} {active : Bool}
    (done : updateAgency db agencyId name reason active = .ok after) :
    after = db.setAgency agencyId fun a => { a with name := strip name, active } := by
  unfold updateAgency at done
  repeat' split at done
  all_goals cases done
  rfl

/-! ## What an assignment does -/

def Db.Settled : Prop :=
  ∀ c ∈ db.customers, ∀ a ∈ db.agencies, c.agencyId = some a.id →
    c.permanentHistoryKey = a.permanentHistoryKey

theorem expandSubjects_settled {db : Db} (settled : db.Settled) (key : String) :
    (expandSubjects db {key}).keys ⊆ {key} := by
  have ofAgency : ∀ a, ReadsAgency db {key} a → a.permanentHistoryKey ∈ ({key} : Finset String) := by
    rintro a ⟨stored, known | ⟨c, inTable, known, joined⟩⟩
    · exact known
    · exact settled c inTable a stored joined ▸ known
  intro found member
  have read : ∃ x, Reads db {key} x ∧ x.Shows (.key found) := expandSubjects_has.mp member
  obtain ⟨c | a, reads, rfl⟩ := read
  · obtain ⟨stored, known | ⟨a, read, joined⟩⟩ := reads
    · exact known
    · exact Finset.mem_singleton.mpr
        ((settled c stored a read.1 joined).trans (Finset.mem_singleton.mp (ofAgency a read)))
  · exact ofAgency a reads

theorem historyForCustomer_keys {db : Db} (settled : db.Settled) {customer : Customer}
    (stored : customer ∈ db.customers) :
    (historyForCustomer db customer).keys = {customer.permanentHistoryKey} := by
  unfold historyForCustomer
  split
  · exact historySubjects_keys (expandSubjects_settled settled _)
  case h_2 agency current =>
  obtain ⟨id, joined, found⟩ := bind_eq_some_iff.mp current
  obtain ⟨inTable, rfl⟩ := lookup_some found
  have same := settled customer stored agency inTable joined
  rw [← same, Finset.pair_eq_singleton]
  exact historySubjects_keys (expandSubjects_settled settled _)

theorem canonicalKey_mem {keys : Finset String} (some_ : keys.Nonempty) : canonicalKey keys ∈ keys := by
  obtain ⟨least, found⟩ := Finset.min_of_nonempty some_
  rw [canonicalKey, found]
  exact Finset.mem_of_min found

section
variable {db after : Db} {customer : Customer} {destination : Option Agency} {actorId reason : String}
  {confirmed : Bool} {now : Instant}

theorem endMembership_frame (db : Db) (customer : Customer) (previous : Option Agency)
    (now : Instant) : ∃ periods seq, endMembership db customer previous now =
      { db with agencyMemberships := periods, agencyMembershipSeq := seq } := by
  unfold endMembership
  split <;> exact ⟨_, _, rfl⟩

theorem startMembership_frame (db : Db) (customer : Customer) (actorId reason : String)
    (now : Instant) (destination : Option Agency) :
    ∃ periods seq, startMembership db customer actorId reason now destination =
      { db with agencyMemberships := periods, agencyMembershipSeq := seq } := by
  cases destination with
  | none => exact ⟨_, _, rfl⟩
  | some agency => exact ⟨_, _, rfl⟩

section
variable (done : assignCustomer db customer destination actorId reason confirmed now = .ok after)
include done

theorem assignCustomer_ok : (customer.agencyId = destination.map Agency.id ∧ after = db) ∨
    after = startMembership ((endMembership (mergedInto db customer destination) customer
    (customer.agencyId.bind db.agency?) now).setCustomer customer.id (movedTo destination)) customer actorId
    (strip reason) now destination := by
  unfold assignCustomer at done
  split at done
  · cases done
  split at done
  · cases done
  split at done
  · cases done
  split at done
  case isTrue unchanged => exact .inl ⟨unchanged, (ok.inj done).symm⟩
  · exact .inr (ok.inj done).symm

theorem assignCustomer_cases :
    (customer.agencyId = destination.map Agency.id ∧ after = db) ∨ ∃ periods seq, after =
        { (mergedInto db customer destination).setCustomer customer.id (movedTo destination) with
          agencyMemberships := periods, agencyMembershipSeq := seq } := by
  rcases assignCustomer_ok done with same | rfl
  · exact .inl same
  obtain ⟨_, _, ended⟩ := endMembership_frame (mergedInto db customer destination) customer
    (customer.agencyId.bind db.agency?) now
  obtain ⟨_, _, started⟩ :=
    startMembership_frame ((endMembership (mergedInto db customer destination) customer
    (customer.agencyId.bind db.agency?) now).setCustomer customer.id (movedTo destination)) customer actorId
      (strip reason) now destination
  rw [started, ended]
  exact .inr ⟨_, _, rfl⟩

end

theorem adminCustomerAgencyAssignment_cases {customerId : Nat} {agencyId : Option Nat}
    (done : adminCustomerAgencyAssignment db customerId agencyId actorId reason confirmed now = .ok after) :
    ∃ customer destination, db.customer? customerId = some customer ∧
    (agencyId = none ∧ destination = none ∨ ∃ id agency, agencyId = some id ∧
      destination = some agency ∧ db.agency? id = some agency) ∧
    assignCustomer db customer destination actorId reason confirmed now = .ok after := by
  unfold adminCustomerAgencyAssignment at done
  split at done
  · cases done
  case h_2 customer found =>
  split at done
  · cases done
  have assigns : ∀ destination,
      (match assignCustomer db customer destination actorId reason confirmed now with
        | .error fault => .error (conflictFault fault)
        | .ok assigned => .ok assigned) = Except.ok after →
      assignCustomer db customer destination actorId reason confirmed now = .ok after := by
    intro destination accepted
    split at accepted
    · cases accepted
    case h_2 assigned ran =>
    cases accepted
    exact ran
  simp only at done
  split at done
  · exact ⟨customer, none, found, .inl ⟨rfl, rfl⟩, assigns none done⟩
  case h_2 id =>
  split at done
  · cases done
  case h_2 agency named =>
  split at done
  · cases done
  exact ⟨customer, some agency, found, .inr ⟨id, agency, rfl, rfl, named⟩, assigns (some agency) done⟩

theorem mergeHistory_historyKey (db : Db) (keys : Finset String) (x : Subject) :
    (mergeHistory db keys).historyKey x = (db.historyKey x).map (mergedKey keys) := by
  cases x with
  | customer id =>
    have looked : (mergeHistory db keys).customer? id = _ := lookup_map fun _ => rfl
    simp only [Db.historyKey, looked, Option.map_map]
    rfl
  | agency id =>
    have looked : (mergeHistory db keys).agency? id = _ := lookup_map fun _ => rfl
    simp only [Db.historyKey, looked, Option.map_map]
    rfl

theorem moved_historyKey (db : Db) (id : Nat) (destination : Option Agency)
    (periods : List AgencyMembershipHistory) (seq : Nat) (x : Subject) :
    Db.historyKey { db.setCustomer id (movedTo destination) with
      agencyMemberships := periods, agencyMembershipSeq := seq } x = db.historyKey x := by
  cases x with
  | customer j =>
    apply Rows.map_lookup_congr
    exact map_adjust_of_preserves _ fun _ _ => rfl
  | agency j => rfl

end

end Jawnix
