import Jawnix.Clock
import Jawnix.LeadDatabases
import Jawnix.NichePolicy

/-!
# Eligible inventory

`eligible_query` of `allocation.py`. A Lead is eligible for a Batch Request when its
inventory state was requested and nothing keeps it back: suppression, the Cooldown
Window, an earlier delivery to the same recipient, an active hold, an excluded phone
or the Customer's Niche Policy. The unique keys of the joined tables make the query
list a Lead once.
-/
namespace Jawnix

def deactivatedRecipientHoldDays : Int := 3

/-! ## Recipients of earlier deliveries -/

variable (db : Db) (customer : Customer) (database : LeadDatabase) (casing : Casing)

def activeCustomers : List Nat :=
  (db.customers.filter fun c => c.active && c.deletedAt.isNone).map Customer.id

def activeAgencies : List Nat :=
  (db.agencies.filter fun a => a.active && a.deletedAt.isNone).map Agency.id

/-- Events with no recorded Customer fall back to their Agency's status. -/
def activeRecipient (event : DistributionEvent) : Bool :=
  event.customerId.any (fun c => c ∈ activeCustomers db) ||
    (event.customerId.isNone && event.agencyId.any fun a => a ∈ activeAgencies db)

def inactiveRecipient (event : DistributionEvent) : Bool :=
  event.customerId.any (fun c => c ∉ activeCustomers db) || (event.customerId.isNone &&
      (event.agencyId.isNone || event.agencyId.any fun a => a ∉ activeAgencies db))

/-- Delivered to a Customer or an Agency that shares the drawing Customer's permanent history. -/
def permanentHistory (event : DistributionEvent) : Bool :=
  let permanentCustomers :=
    (db.customers.filter fun c => c.permanentHistoryKey = customer.permanentHistoryKey).map
    Customer.id
  let permanentAgencies :=
    (db.agencies.filter fun a => a.permanentHistoryKey = customer.permanentHistoryKey).map Agency.id
  event.customerId.any (fun c => c ∈ permanentCustomers) || event.agencyId.any fun a => a ∈ permanentAgencies

def sameRecipient (event : DistributionEvent) : Bool :=
  match customer.agencyId with
  | none => decide (event.customerId = some customer.id) || permanentHistory db customer event
  | some agencyId =>
    let sameAgencyCustomers := (db.customers.filter fun c => c.agencyId = some agencyId).map Customer.id
    decide (event.customerId = some customer.id) || decide (event.agencyId = some agencyId) ||
      (event.agencyId.isNone && event.customerId.any fun c => c ∈ sameAgencyCustomers) ||
      permanentHistory db customer event

/-- `_same_recipient_clause`; the request's Customer is the drawing one. -/
def sameRecipientClause (event : DistributionEvent) : Bool :=
  activeRecipient db event && sameRecipient db customer event

/-! ## What keeps a Lead back -/

def cooldownDays : Int :=
  max 1 (if customer.cooldownWindowDays = 0 then 7 else customer.cooldownWindowDays)

def coolingDown (instant : Instant) (lead : Lead) : Bool :=
  let cutoff := instant - days (cooldownDays customer)
  let inactiveCutoff := instant - days deactivatedRecipientHoldDays
  let oldestCutoff := min cutoff inactiveCutoff
  lead.lastDistributedAt.any (fun t => oldestCutoff < t) && db.events.any (fun e => e.leadId = lead.id &&
      ((cutoff < e.deliveredAt && activeRecipient db e) ||
        (inactiveCutoff < e.deliveredAt && inactiveRecipient db e)))

def previouslySent (lead : Lead) : Bool :=
  db.events.any fun e => e.leadId = lead.id && sameRecipientClause db customer e

def activelyHeld (lead : Lead) : Bool :=
  db.eligibilityHolds.any fun h => h.leadId = lead.id && h.active

def excludedPhone (customerId : Nat) (lead : Lead) : Bool :=
  db.exclusionPhones.any (fun p => p.phone = lead.phone && db.exclusionLists.any
    (fun l => l.id = p.exclusionListId &&
      (l.globalEffective || decide (l.customerId = some customerId))))

/-! ## The query -/

def observedLeads : List (Lead × Option ListingObservation) :=
  Relational.leftJoin db.leads db.observations (fun lead o =>
    lead.currentListingObservationId = some o.id && database = .db1)

def mappedLeads : List ((Lead × Option ListingObservation) × Option SourceNicheMapping) :=
  Relational.leftJoin (observedLeads db database) db.nicheMappings (fun row m =>
    row.2.any (fun o => m.segmentKey = o.source) && m.deniedAt.isNone)

def inventoryRows : List InventoryRow :=
  (Relational.leftJoin (mappedLeads db database) db.nicheAssignments (fun row a =>
    decide (a.phone = row.1.1.phone))).map
      (fun row => { lead := row.1.1.1, mapping := row.1.2, assignment := row.2 })

def admits (db : Db) (request : LeadRequest) (customer : Customer) (instant : Instant)
    (row : InventoryRow) : Bool :=
  let state := inventoryState (inventoryDatabase customer) row
  state ∈ request.statesSnapshot && !row.lead.suppressed &&
    !coolingDown db customer instant row.lead && !previouslySent db customer row.lead &&
    !activelyHeld db row.lead && !excludedPhone db request.customerId row.lead &&
    policyClause casing db.nichePolicies request.customerId (effectiveNiche row.mapping row.assignment) state

/-- Never distributed first, then the longest ago, then by identity. -/
def agesBefore (a b : InventoryRow) : Bool :=
  match a.lead.lastDistributedAt, b.lead.lastDistributedAt with
  | none, none => a.lead.id ≤ b.lead.id
  | none, some _ => true
  | some _, none => false
  | some s, some t => decide (s < t) || (s = t && a.lead.id ≤ b.lead.id)

def eligibleQuery (db : Db) (request : LeadRequest) (customer : Customer)
    (instant : Instant) : List InventoryRow :=
  let database := inventoryDatabase customer
  ((inventoryScope db database (inventoryRows db database)).filter
    (admits casing db request customer instant)).insertionSort fun a b => agesBefore a b

def inventoryCount (db : Db) (request : LeadRequest) (customer : Customer)
    (instant : Instant) : Nat :=
  (eligibleQuery casing db request customer instant).length

/-! ## What the query can return -/

/-- The unique keys of the inventory tables, and the agreement of the DB2 index
with the immutable listings it was published from. -/
structure InventorySchema : Prop where
  leads : Keyed Lead.id db.leads
  observations : Keyed ListingObservation.id db.observations
  mappings : Keyed SourceNicheMapping.segmentKey db.nicheMappings
  assignments : Keyed NicheAssignment.phone db.nicheAssignments
  memberships : Keyed LeadDatabaseMembership.leadId db.memberships
  published : ∀ m ∈ db.memberships, ∀ row ∈ db.db2Rows, row.leadId = m.leadId →
    row.uploadId = m.uploadId → row.state = m.state

variable {casing : Casing} {db : Db} {request : LeadRequest} {customer : Customer}
  {instant : Instant} {row : InventoryRow}

theorem mem_eligibleQuery : row ∈ eligibleQuery casing db request customer instant ↔
    row ∈ inventoryScope db (inventoryDatabase customer) (inventoryRows db (inventoryDatabase customer)) ∧
    admits casing db request customer instant row := by
  simp [eligibleQuery, List.mem_insertionSort, mem_filter]

theorem eligibleQuery_clear (eligible : row ∈ eligibleQuery casing db request customer instant) :
    coolingDown db customer instant row.lead = false ∧ previouslySent db customer row.lead = false ∧
    activelyHeld db row.lead = false := by
  have admitted := (mem_eligibleQuery.mp eligible).2
  simp only [admits, and_eq_true, Bool.not_eq_true'] at admitted
  exact ⟨admitted.1.1.1.1.2, admitted.1.1.1.2, admitted.1.1.2⟩

section
variable (schema : InventorySchema db)
include schema

theorem observedLeads_fst (database : LeadDatabase) :
    (observedLeads db database).map Prod.fst = db.leads := by
  apply Relational.leftJoin_fst
  apply Relational.pins_of_keyed Lead.currentListingObservationId schema.observations
  intro lead o joined
  exact of_decide_eq_true (and_eq_true_iff.mp joined).1

theorem mappedLeads_fst (database : LeadDatabase) :
    (mappedLeads db database).map Prod.fst = observedLeads db database := by
  apply Relational.leftJoin_fst
  apply Relational.pins_of_keyed (fun row => row.2.map ListingObservation.source) schema.mappings
  rintro ⟨lead, observation⟩ m joined
  cases observation with
  | none => simp at joined
  | some o =>
    simp only [any_some, and_eq_true, decide_eq_true_eq] at joined
    exact congrArg some joined.1.symm

theorem inventoryRows_leads (database : LeadDatabase) :
    (inventoryRows db database).map InventoryRow.lead = db.leads := by
  have assigned : (Relational.leftJoin (mappedLeads db database) db.nicheAssignments (fun row a =>
      decide (a.phone = row.1.1.phone))).map Prod.fst = mappedLeads db database := by
    apply Relational.leftJoin_fst
    apply Relational.pins_of_keyed (fun row => some row.1.1.phone) schema.assignments
    intro row a joined
    exact congrArg some (of_decide_eq_true joined).symm
  rw [← observedLeads_fst schema database, ← mappedLeads_fst schema database, ← assigned]
  simp [inventoryRows, comp_def]

end

theorem mem_inventoryRows {database : LeadDatabase} (member : row ∈ inventoryRows db database) :
    row.lead ∈ db.leads := by
  obtain ⟨joined, inJoin, rfl⟩ := mem_map.mp member
  exact Relational.mem_leftJoin (Relational.mem_leftJoin (Relational.mem_leftJoin inJoin))

theorem eligibleQuery_nodup (schema : InventorySchema db) (casing : Casing)
    (request : LeadRequest) (customer : Customer) (instant : Instant) :
    ((eligibleQuery casing db request customer instant).map fun row => row.lead.id).Nodup := by
  have within := inventoryScope_leads schema.memberships (inventoryDatabase customer)
    (inventoryRows db (inventoryDatabase customer))
  rw [inventoryRows_leads schema] at within
  have filtered :
    (((inventoryScope db (inventoryDatabase customer)
    (inventoryRows db (inventoryDatabase customer))).filter
      (admits casing db request customer instant)).map fun row => row.lead.id).Nodup := by
    have kept :=
      ((filter_sublist (p := admits casing db request customer instant)).map
        InventoryRow.lead).trans within
    have apart := (kept.map Lead.id).nodup schema.leads
    simpa [map_map, comp_def] using apart
  exact ((List.perm_insertionSort _ _).map _).nodup_iff.mpr filtered

theorem eligibleQuery_stored (eligible : row ∈ eligibleQuery casing db request customer instant) :
    row.lead ∈ db.leads ∧ inventoryState (inventoryDatabase customer) row ∈ request.statesSnapshot ∧
    (inventoryDatabase customer = .db2 → ∃ m ∈ db.memberships, row.membership = some m ∧
    m.leadId = row.lead.id) := by
  obtain ⟨within, admitted⟩ := mem_eligibleQuery.mp eligible
  have requested : inventoryState (inventoryDatabase customer) row ∈ request.statesSnapshot := by
    simp only [admits, and_eq_true, decide_eq_true_eq] at admitted
    exact admitted.1.1.1.1.1.1
  cases database : inventoryDatabase customer with
  | db1 =>
    rw [database] at within requested
    exact ⟨mem_inventoryRows (mem_filter.mp within).1, requested, fun other => by cases other⟩
  | db2 =>
  rw [database] at within requested
  simp only [inventoryScope, mem_map] at within
  obtain ⟨⟨base, m⟩, joined, rfl⟩ := within
  obtain ⟨inRows, inTable, named⟩ := Relational.mem_innerJoin.mp joined
  have stored : base.lead ∈ db.leads := mem_inventoryRows inRows
  exact ⟨stored, requested, fun _ => ⟨m, inTable, rfl, of_decide_eq_true named⟩⟩

end Jawnix
