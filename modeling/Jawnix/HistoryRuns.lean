import Jawnix.AgencyHistory
import Jawnix.WorkerServices

/-!
# No Lead twice within one history

Runs of assignments, activations and allocations. The state remembers every
Customer-Agency edge that ever existed. Sharing a permanent history key is being
connected by those edges, and no Lead goes to a Customer that is connected with an
active earlier recipient.
-/
namespace Jawnix

open Classes

structure Lineage (db after : Db) : Prop where
  customers : after.customers.map (fun c => (c.id, c.permanentHistoryKey)) =
    db.customers.map (fun c => (c.id, c.permanentHistoryKey))
  agencies : after.agencies.map (fun a => (a.id, a.permanentHistoryKey)) =
    db.agencies.map (fun a => (a.id, a.permanentHistoryKey))
  members : ∀ c' ∈ after.customers, ∀ a, c'.agencyId = some a → ∃ c ∈ db.customers, c.id = c'.id ∧
    c.agencyId = some a

section
variable {a b c db after : Db}

theorem Lineage.still (customers : after.customers = db.customers)
    (agencies : after.agencies = db.agencies) : Lineage db after := by
  refine ⟨by rw [customers], by rw [agencies], fun c' member a joined => ?_⟩
  rw [customers] at member
  exact ⟨c', member, rfl, joined⟩

theorem Lineage.trans (first : Lineage a b) (second : Lineage b c) : Lineage a c where
  customers := second.customers.trans first.customers
  agencies := second.agencies.trans first.agencies
  members := fun c' member agency joined => by
    obtain ⟨middle, inMiddle, sameId, stillJoined⟩ := second.members c' member agency joined
    obtain ⟨old, stored, oldId, oldJoined⟩ := first.members middle inMiddle agency stillJoined
    exact ⟨old, stored, oldId.trans sameId, oldJoined⟩

theorem Lineage.historyKey (lineage : Lineage db after) (x : Subject) :
    after.historyKey x = db.historyKey x := by
  cases x with
  | customer id => exact Rows.map_lookup_congr lineage.customers
  | agency id => exact Rows.map_lookup_congr lineage.agencies

theorem Lineage.keyed_customers (lineage : Lineage db after)
    (keyed : Keyed Customer.id db.customers) : Keyed Customer.id after.customers := by
  have ids := congrArg (List.map Prod.fst) lineage.customers
  simp only [map_map, comp_def] at ids
  unfold Keyed
  rw [ids]
  exact keyed

theorem Lineage.keyed_agencies (lineage : Lineage db after) (keyed : Keyed Agency.id db.agencies) :
    Keyed Agency.id after.agencies := by
  have ids := congrArg (List.map Prod.fst) lineage.agencies
  simp only [map_map, comp_def] at ids
  unfold Keyed
  rw [ids]
  exact keyed

theorem setCustomer_lineage {f : Customer → Customer} (named : ∀ c, (f c).id = c.id)
    (keyed : ∀ c, (f c).permanentHistoryKey = c.permanentHistoryKey)
    (joins : ∀ c a, (f c).agencyId = some a → c.agencyId = some a) (db : Db) (id : Nat) :
    Lineage db (db.setCustomer id f) where
  customers := map_adjust_of_preserves _ fun c _ => by rw [named, keyed]
  agencies := rfl
  members := fun c' member a joined => by
    rcases mem_adjust.mp member with ⟨c, stored, _, rfl⟩ | ⟨stored, _⟩
    · exact ⟨c, stored, (named c).symm, joins c a joined⟩
    · exact ⟨c', stored, rfl, joined⟩

theorem setAgency_lineage {f : Agency → Agency} (named : ∀ a, (f a).id = a.id)
    (keyed : ∀ a, (f a).permanentHistoryKey = a.permanentHistoryKey) (db : Db) (id : Nat) :
    Lineage db (db.setAgency id f) where
  customers := rfl
  agencies := map_adjust_of_preserves _ fun a _ => by rw [named, keyed]
  members := fun c' member _ joined => ⟨c', member, rfl, joined⟩

end

def Db.handovers (db : Db) : List (Nat × Option Nat) := db.events.map fun e => (e.leadId, e.customerId)

variable (db : Db)

/-- The same Lead goes to another history than that of an active earlier recipient. -/
def Fresh (earlier later : Nat × Option Nat) : Prop :=
  earlier.1 = later.1 → ∀ c d, earlier.2 = some c → later.2 = some d → c ∈ activeCustomers db →
    db.historyKey (.customer c) ≠ db.historyKey (.customer d)

structure HandoverStep (after : Db) : Prop where
  lineage : Lineage db after
  active : activeCustomers after = activeCustomers db
  inventory : InventorySchema db → InventorySchema after
  commits : InventorySchema db → ∃ new, after.handovers = db.handovers ++ new ∧
    (∀ h ∈ db.handovers, ∀ n ∈ new, Fresh db h n) ∧ new.Pairwise (Fresh db)

section
variable {a b c db after : Db}

theorem Fresh.back (lineage : Lineage a b) (active : activeCustomers b = activeCustomers a)
    {h n : Nat × Option Nat} (fresh : Fresh b h n) : Fresh a h n := by
  intro sameLead c d former next stillActive
  rw [← lineage.historyKey, ← lineage.historyKey]
  exact fresh sameLead c d former next (active ▸ stillActive)

theorem HandoverStep.trans (first : HandoverStep a b) (second : HandoverStep b c) : HandoverStep a c where
  lineage := first.lineage.trans second.lineage
  active := second.active.trans first.active
  inventory := fun schema => second.inventory (first.inventory schema)
  commits := fun schema => by
    obtain ⟨new, grown, old, among⟩ := first.commits schema
    obtain ⟨newer, grownMore, oldMore, amongMore⟩ := second.commits (first.inventory schema)
    have back : ∀ {h n}, Fresh b h n → Fresh a h n := Fresh.back first.lineage first.active
    refine ⟨new ++ newer, by rw [grownMore, grown, append_assoc], fun h inOld n member => ?_,
      pairwise_append.mpr ⟨among, amongMore.imp back, fun n inNew m inNewer => ?_⟩⟩
    · rcases mem_append.mp member with early | late
      · exact old h inOld n early
      · exact back (oldMore h (by rw [grown]; exact mem_append_left _ inOld) n late)
    · exact back (oldMore n (by rw [grown]; exact mem_append_right _ inNew) m inNewer)

theorem HandoverStep.quiet (lineage : Lineage db after) (active : activeCustomers after = activeCustomers db)
    (inventory : InventorySchema db → InventorySchema after)
    (handovers : after.handovers = db.handovers) : HandoverStep db after :=
  ⟨lineage, active, inventory, fun _ => ⟨[], by simp [handovers], by simp, .nil⟩⟩

theorem HandoverStep.tables (db : Db) {requests : List LeadRequest} {jobs : List Job} {jobSeq : Nat}
    {conflicts : List InventoryConflict} : HandoverStep db { db with requests, jobs, jobSeq, conflicts } :=
  .quiet (.still rfl rfl) rfl (fun schema => { schema with }) rfl

end

section
variable {platform : Platform} {env : AllocationEnv} {db after : Db} {request : LeadRequest}
  {customer : Customer}
  {result : AllocationResult}

theorem previouslySent_fresh {lead : Lead} {h : Nat × Option Nat} {d : Nat}
    (owner : db.customer? d = some customer) (unsent : previouslySent db customer lead = false)
    (member : h ∈ db.handovers) : Fresh db h (lead.id, some d) := by
  intro sameLead c _ former next active sameKey
  cases next
  obtain ⟨event, stored, rfl⟩ := mem_map.mp member
  refine absurd ?_ (eq_false_iff.mp unsent)
  have keyed : db.historyKey (.customer d) = some customer.permanentHistoryKey := by
    rw [Db.historyKey, owner, map_some]
  obtain ⟨recipient, found, sharedKey⟩ := map_eq_some_iff.mp (sameKey.trans keyed)
  obtain ⟨inTable, named⟩ := lookup_some found
  have recorded : event.customerId = some c := former
  have permanent : permanentHistory db customer event := by
    simp only [permanentHistory, recorded, any_some, or_eq_true, decide_eq_true_eq, mem_map, mem_filter]
    exact .inl ⟨recipient, ⟨inTable, sharedKey⟩, named⟩
  have same : sameRecipient db customer event := by
    unfold sameRecipient
    split <;> simp [permanent]
  have live : activeRecipient db event := by simp [activeRecipient, recorded, active]
  refine any_eq_true.mpr ⟨event, stored, ?_⟩
  simp only [and_eq_true, decide_eq_true_eq, sameRecipientClause]
  exact ⟨sameLead, live, same⟩

theorem restoreEvents_handovers {restored : Db} {id : Uuid}
    (done : restoreEvents db id = .ok restored) : restored.handovers = db.handovers := by
  obtain ⟨f, rewrites, rfl⟩ := restoreEvents_ok done
  simp only [Db.handovers, map_map]
  refine map_congr_left fun e _ => ?_
  obtain ⟨_, _, _, _, same⟩ := rewrites e
  simp [same]

/-- What an allocation hands over is fresh: distinct Leads, none sent to the Customer's history
before. -/
theorem AllocationOutcome.handovers (schema : InventorySchema db)
    (owner : db.customer? request.customerId = some customer)
    (outcome : AllocationOutcome platform env db request customer after result) :
    ∃ new, after.handovers = db.handovers ++ new ∧ (∀ h ∈ db.handovers, ∀ n ∈ new, Fresh db h n) ∧
    new.Pairwise (Fresh db) := by
  cases outcome with
  | replayed _ _ restores files captures _ =>
    obtain ⟨_, _, _, filedFrame⟩ := (generateArtifact_filed files).frame
    obtain ⟨_, _, afterFrame⟩ := (captureBatchHold_captured captures).frame
    refine ⟨[], ?_, by simp, .nil⟩
    rw [append_nil, ← restoreEvents_handovers restores, afterFrame, filedFrame]
    rfl
  | idle _ _ _ => exact ⟨[], by simp, by simp, .nil⟩
  | @shortage available _ _ _ =>
    obtain ⟨_, _, parked⟩ := reportShortage_parked env db request available
    refine ⟨[], ?_, by simp, .nil⟩
    rw [append_nil, parked]
    rfl
  | @distributed _ drafts _ _ _ _ _ _ _ selected _ drawn inserts files captures _ =>
  obtain ⟨_, _, _, filedFrame⟩ := (generateArtifact_filed files).frame
  obtain ⟨_, _, afterFrame⟩ := (captureBatchHold_captured captures).frame
  have distinct : (drafts.map DistributionEvent.leadId).Nodup := by
    rw [← drafts_leadIds drawn, selected]
    exact selectCandidates_nodup schema request customer
  refine ⟨drafts.map (fun e => (e.leadId, e.customerId)), ?_, fun h inOld n member => ?_, ?_⟩
  · rw [afterFrame, filedFrame, insertEvents_ok inserts]
    exact (map_append).trans (congrArg _ (map_numberEvents (fun _ _ => rfl) _ _))
  · obtain ⟨draft, inDrafts, rfl⟩ := mem_map.mp member
    obtain ⟨_, row, eligible, delivers⟩ := drafts_deliver schema selected drawn draft inDrafts
    rw [delivers.leadId, delivers.customerId]
    exact previouslySent_fresh owner (eligibleQuery_clear eligible).2.1 inOld
  · refine pairwise_map.mpr ((pairwise_map.mp distinct).imp fun apart => ?_)
    exact fun sameLead => absurd sameLead apart

theorem allocateRequest_handover {requestId : Uuid}
    (done : allocateRequest platform env db requestId = .ok (after, result)) : HandoverStep db after := by
  obtain ⟨request, customer, _, owner, outcome⟩ := allocateRequest_outcome done
  obtain ⟨⟨_, _, _, _, _, _, _, _, _, _, _, tables⟩, _⟩ := outcome.frame
  refine ⟨.still (by rw [tables]) (by rw [tables]), by rw [tables]; rfl,
    (allocateRequest_issues done).1.inventory, fun schema => outcome.handovers schema owner⟩

end

section
variable {platform : Platform} {env : RotationEnv} {db after : Db}

theorem activeCustomers_congr (same : after.customers.map (fun c => (c.id, c.active, c.deletedAt)) =
    db.customers.map fun c => (c.id, c.active, c.deletedAt)) :
    activeCustomers after = activeCustomers db := by
  have read : ∀ x : Db, activeCustomers x =
      ((x.customers.map fun c => (c.id, c.active, c.deletedAt)).filter fun p =>
        p.2.1 && p.2.2.isNone).map Prod.fst :=
    fun x => by simp [activeCustomers, List.filter_map, comp_def]
  rw [read, read, same]

theorem markFulfilled_handover (db : Db) (customer : Customer) (at_ : Instant) :
    HandoverStep db (markFulfilled db customer at_) := by
  have inventory : ∀ {x : Db} {customers agencies}, InventorySchema x →
    InventorySchema { x with customers, agencies } :=
    fun schema => { schema with }
  have served :
    HandoverStep db (db.setCustomer customer.id fun c => { c with lastFulfilledAt := some at_ }) :=
    .quiet (setCustomer_lineage (f := fun c => { c with lastFulfilledAt := some at_ })
      (fun _ => rfl) (fun _ => rfl)
        (fun _ _ joined => joined) db customer.id)
      (activeCustomers_congr (map_adjust_of_preserves _ fun _ _ => rfl)) inventory rfl
  unfold markFulfilled
  simp only
  split
  · exact served
  case h_2 agencyId _ =>
  exact served.trans (.quiet (setAgency_lineage (f := fun a => { a with lastFulfilledAt := some at_ })
    (fun _ => rfl) (fun _ => rfl) _ agencyId) rfl inventory rfl)

end

structure HistoryState where
  db : Db
  edges : List (Subject × Subject) := []

inductive HistoryOp where
  | assign (customerId : Nat) (agencyId : Option Nat) (actorId reason : String) (confirmed : Bool)
      (now : Instant)
  | assignByAdmin (customerId : Nat) (agencyId : Option Nat) (actorId reason : String)
      (confirmed : Bool) (now : Instant)
  | updateCustomer (customerId : Nat) (name : String) (active : Bool) (agencyId : Option Nat)
  | updateAgency (agencyId : Nat) (name reason : String) (active : Bool)
  | allocate (platform : Platform) (env : AllocationEnv) (requestId : Uuid)
  | fulfill (platform : Platform) (env : RotationEnv)
  /-- Archiving, restoration and every other write that assigns and distributes nothing. -/
  | elsewhere (after : Db)

def assignLoaded (customerId : Nat) (agencyId : Option Nat) (actorId reason : String)
    (confirmed : Bool) (now : Instant) : Except Fault Db :=
  match db.customer? customerId, agencyId with
  | none, _ => .error (.lookup "customer")
  | some customer, none => assignCustomer db customer none actorId reason confirmed now
  | some customer, some id =>
    match db.agency? id with
    | none => .error (.lookup "agency")
    | some agency => assignCustomer db customer (some agency) actorId reason confirmed now

def assignmentEdges (customerId : Nat) : Option Nat → List (Subject × Subject)
  | none => []
  | some agencyId => [(.customer customerId, .agency agencyId)]

def historyExec : HistoryOp → Except Fault (Db × List (Subject × Subject))
  | .assign customerId agencyId actorId reason confirmed now => do
    let after ← assignLoaded db customerId agencyId actorId reason confirmed now
    .ok (after, assignmentEdges customerId agencyId)
  | .assignByAdmin customerId agencyId actorId reason confirmed now => do
    let after ← adminCustomerAgencyAssignment db customerId agencyId actorId reason confirmed now
    .ok (after, assignmentEdges customerId agencyId)
  | .updateCustomer customerId name active agencyId => do
    let after ← updateCustomer db customerId name active agencyId
    .ok (after, [])
  | .updateAgency agencyId name reason active => do
    let after ← updateAgency db agencyId name reason active
    .ok (after, [])
  | .allocate platform env requestId => do
    let (after, _) ← allocateRequest platform env db requestId
    .ok (after, [])
  | .fulfill platform env => do
    let (after, _) ← fulfillRoundRobin platform env db
    .ok (after, [])
  | .elsewhere after => .ok (after, [])

variable (s : HistoryState)

def historyStep (op : HistoryOp) : HistoryState :=
  match historyExec s.db op with
  | .error _ => s
  | .ok (after, added) => { db := after, edges := s.edges ++ added }

structure Elsewhere (after : Db) : Prop where
  lineage : Lineage db after
  handovers : after.handovers = db.handovers
  inventory : InventorySchema after

def HistoryGuard : HistoryOp → Prop
  | .elsewhere after => Elsewhere s.db after
  | _ => True

/-- Keys name the classes of the edges, and every current membership is an edge. -/
structure Aligned : Prop where
  customers : Keyed Customer.id s.db.customers
  agencies : Keyed Agency.id s.db.agencies
  represents : Represents s.db.historyKey s.edges
  recorded : ∀ c ∈ s.db.customers, ∀ a, c.agencyId = some a → (.customer c.id, .agency a) ∈ s.edges
  inventory : InventorySchema s.db

section
variable {db after : Db} {edges : List (Subject × Subject)} {customer : Customer}
  {destination : Option Agency}
  {actorId reason : String} {confirmed : Bool} {now : Instant}

section
variable (aligned : Aligned ⟨db, edges⟩)
include aligned

theorem Aligned.customerKey {c : Customer} (stored : c ∈ db.customers) :
    db.historyKey (.customer c.id) = some c.permanentHistoryKey := by
  have found : db.customer? c.id = some c := lookup_of_mem aligned.customers stored
  rw [Db.historyKey, found, map_some]

theorem Aligned.agencyKey {a : Agency} (stored : a ∈ db.agencies) :
    db.historyKey (.agency a.id) = some a.permanentHistoryKey := by
  have found : db.agency? a.id = some a := lookup_of_mem aligned.agencies stored
  rw [Db.historyKey, found, map_some]

theorem Aligned.settled : db.Settled := by
  intro c inCustomers a inAgencies joined
  have agrees := aligned.represents.agrees _ (aligned.recorded c inCustomers a.id joined)
  rw [aligned.customerKey inCustomers, aligned.agencyKey inAgencies] at agrees
  exact some.inj agrees

theorem Aligned.step (lineage : Lineage db after) (inventory : InventorySchema after) :
    Aligned ⟨after, edges⟩ where
  customers := lineage.keyed_customers aligned.customers
  agencies := lineage.keyed_agencies aligned.agencies
  represents := by
    have same : after.historyKey = db.historyKey := funext lineage.historyKey
    rw [same]
    exact aligned.represents
  recorded := fun c member a joined => by
    obtain ⟨old, stored, named, stillJoined⟩ := lineage.members c member a joined
    rw [← named]
    exact aligned.recorded old stored a stillJoined
  inventory := inventory

theorem Aligned.mergedInto_eq (stored : customer ∈ db.customers) (agency : Agency) :
    mergedInto db customer (some agency) =
    mergeHistory db {customer.permanentHistoryKey, agency.permanentHistoryKey} := by
  rw [mergedInto, historyForCustomer_keys aligned.settled stored, historyForAgency,
    historySubjects_keys (expandSubjects_settled aligned.settled _)]
  rfl

theorem Aligned.moved {agency : Agency} {periods : List AgencyMembershipHistory} {seq : Nat}
    (stored : customer ∈ db.customers) (found : agency ∈ db.agencies) :
    Aligned ⟨{ (mergedInto db customer (some agency)).setCustomer customer.id (movedTo (some agency)) with
      agencyMemberships := periods, agencyMembershipSeq := seq },
        edges ++ [(.customer customer.id, .agency agency.id)]⟩ := by
  rw [aligned.mergedInto_eq stored agency]
  refine ⟨?_, ?_, ?_, ?_, ?_⟩
  · refine keyed_adjust (fun _ _ => rfl) ?_
    have ids :
      (mergeHistory db {customer.permanentHistoryKey, agency.permanentHistoryKey}).customers.map
      Customer.id =
        db.customers.map Customer.id := by simp [mergeHistory, comp_def]
    unfold Keyed
    rw [ids]
    exact aligned.customers
  · have ids :
      (mergeHistory db {customer.permanentHistoryKey, agency.permanentHistoryKey}).agencies.map
      Agency.id =
        db.agencies.map Agency.id := by simp [mergeHistory, comp_def]
    change ((mergeHistory db _).agencies.map Agency.id).Nodup
    rw [ids]
    exact aligned.agencies
  · have canonical :=
      canonicalKey_mem (Finset.insert_nonempty customer.permanentHistoryKey
      {agency.permanentHistoryKey})
    rw [Finset.mem_insert, Finset.mem_singleton] at canonical
    refine aligned.represents.merge (aligned.customerKey stored)
      (aligned.agencyKey found) canonical fun x => ?_
    have renamed : mergedKey {customer.permanentHistoryKey, agency.permanentHistoryKey} = fun n =>
        if n = customer.permanentHistoryKey ∨ n = agency.permanentHistoryKey then
          canonicalKey {customer.permanentHistoryKey, agency.permanentHistoryKey} else n := by
      funext n
      simp only [mergedKey, Finset.mem_insert, Finset.mem_singleton]
    rw [← renamed, ← mergeHistory_historyKey]
    exact moved_historyKey _ customer.id (some agency) periods seq x
  · intro c' member a joined
    rcases mem_adjust.mp member with ⟨c, _, named, rfl⟩ | ⟨inMerged, _⟩
    · cases joined
      refine mem_append_right _ (mem_singleton.mpr ?_)
      rw [← named]
      rfl
    · obtain ⟨c, inTable, rfl⟩ := mem_map.mp inMerged
      exact mem_append_left _ (aligned.recorded c inTable a joined)
  · exact { aligned.inventory with }

end

end

def Merges (after : Db) : Prop := ∃ f : String → String, ∀ x, after.historyKey x = (db.historyKey x).map f

theorem Lineage.merges {db after : Db} (lineage : Lineage db after) : Merges db after :=
  ⟨id, fun x => by rw [lineage.historyKey, Option.map_id_fun, id_eq]⟩

def HandsOver (after : Db) : Prop :=
  ∃ new, after.handovers = db.handovers ++ new ∧ (∀ h ∈ db.handovers, ∀ n ∈ new, Fresh db h n) ∧
    new.Pairwise (Fresh db)

theorem HandsOver.nothing {db after : Db} (same : after.handovers = db.handovers) : HandsOver db after :=
  ⟨[], by simp [same], by simp, .nil⟩

structure HistorySound (after : Db) (added : List (Subject × Subject)) : Prop where
  aligned : Aligned ⟨after, s.edges ++ added⟩
  merges : Merges s.db after
  hands : HandsOver s.db after

section
variable {s : HistoryState} {after : Db} {actorId reason : String} {confirmed : Bool}
  {now : Instant} {customerId : Nat} {agencyId : Option Nat} {op : HistoryOp}

theorem Aligned.sound (aligned : Aligned s) (lineage : Lineage s.db after)
    (inventory : InventorySchema after) (hands : HandsOver s.db after) :
    HistorySound s after [] := by
  refine ⟨?_, lineage.merges, hands⟩
  rw [append_nil]
  exact aligned.step lineage inventory

theorem HandoverStep.sound (step : HandoverStep s.db after) (aligned : Aligned s) :
    HistorySound s after [] :=
  aligned.sound step.lineage (step.inventory aligned.inventory) (step.commits aligned.inventory)

theorem assignCustomer_sound {customer : Customer} {destination : Option Agency}
    (aligned : Aligned s) (found : s.db.customer? customerId = some customer)
    (target : agencyId = none ∧ destination = none ∨ ∃ id agency, agencyId = some id ∧
      destination = some agency ∧ s.db.agency? id = some agency)
    (done : assignCustomer s.db customer destination actorId reason confirmed now = .ok after) :
    HistorySound s after (assignmentEdges customerId agencyId) := by
  obtain ⟨stored, rfl⟩ := lookup_some found
  rcases target with ⟨rfl, rfl⟩ | ⟨id, agency, rfl, rfl, named⟩
  · rcases assignCustomer_cases done with ⟨_, rfl⟩ | ⟨periods, seq, rfl⟩
    · exact aligned.sound (.still rfl rfl) aligned.inventory (.nothing rfl)
    have left : Lineage s.db (s.db.setCustomer customer.id (movedTo none)) :=
      setCustomer_lineage (f := movedTo none) (fun _ => rfl) (fun _ => rfl)
        (fun _ _ joined => by cases joined)
        s.db customer.id
    refine aligned.sound (left.trans (.still rfl rfl)) ?_ (.nothing rfl)
    exact { aligned.inventory with }
  obtain ⟨inTable, rfl⟩ := lookup_some named
  rcases assignCustomer_cases done with ⟨unchanged, rfl⟩ | ⟨periods, seq, rfl⟩
  · have edge := aligned.recorded customer stored agency.id unchanged
    refine ⟨⟨aligned.customers, aligned.agencies, aligned.represents.again edge,
      fun c member a joined => ?_, aligned.inventory⟩, (Lineage.still rfl rfl).merges, .nothing rfl⟩
    exact mem_append_left _ (aligned.recorded c member a joined)
  refine ⟨aligned.moved stored inTable,
    ⟨mergedKey {customer.permanentHistoryKey, agency.permanentHistoryKey},
    fun x => ?_⟩, .nothing ?_⟩
  · rw [← mergeHistory_historyKey, ← aligned.mergedInto_eq stored agency]
    exact moved_historyKey _ customer.id (some agency) periods seq x
  · rfl

theorem assignLoaded_cases {db : Db}
    (done : assignLoaded db customerId agencyId actorId reason confirmed now = .ok after) :
    ∃ customer destination, db.customer? customerId = some customer ∧
    (agencyId = none ∧ destination = none ∨ ∃ id agency, agencyId = some id ∧
      destination = some agency ∧ db.agency? id = some agency) ∧
    assignCustomer db customer destination actorId reason confirmed now = .ok after := by
  unfold assignLoaded at done
  split at done
  · cases done
  case h_2 customer found => exact ⟨customer, none, found, .inl ⟨rfl, rfl⟩, done⟩
  case h_3 customer id found =>
  split at done
  · cases done
  case h_2 agency named => exact ⟨customer, some agency, found, .inr ⟨id, agency, rfl, rfl, named⟩, done⟩

theorem historyExec_sound {added : List (Subject × Subject)} (aligned : Aligned s)
    (guard : HistoryGuard s op) (done : historyExec s.db op = .ok (after, added)) :
    HistorySound s after added := by
  have kept : ∀ {customers agencies}, InventorySchema { s.db with customers, agencies } := fun {_ _} =>
    { aligned.inventory with }
  cases op with
  | assign customerId agencyId actorId reason confirmed now =>
    obtain ⟨assigned, assigns, last⟩ := bind_ok done
    cases last
    obtain ⟨customer, destination, found, target, accepted⟩ := assignLoaded_cases assigns
    exact assignCustomer_sound aligned found target accepted
  | assignByAdmin customerId agencyId actorId reason confirmed now =>
    obtain ⟨assigned, assigns, last⟩ := bind_ok done
    cases last
    obtain ⟨customer, destination, found, target, accepted⟩ := adminCustomerAgencyAssignment_cases assigns
    exact assignCustomer_sound aligned found target accepted
  | updateCustomer customerId name active agencyId =>
    obtain ⟨updated, updates, last⟩ := bind_ok done
    cases last
    rw [updateCustomer_cases updates]
    exact aligned.sound (setCustomer_lineage (f := fun c => { c with name := strip name, active })
      (fun _ => rfl) (fun _ => rfl) (fun _ _ joined => joined) s.db customerId) kept (.nothing rfl)
  | updateAgency agencyId name reason active =>
    obtain ⟨updated, updates, last⟩ := bind_ok done
    cases last
    rw [updateAgency_cases updates]
    exact aligned.sound (setAgency_lineage (f := fun a => { a with name := strip name, active })
      (fun _ => rfl) (fun _ => rfl) s.db agencyId) kept (.nothing rfl)
  | allocate platform env requestId =>
    obtain ⟨⟨allocated, result⟩, allocates, last⟩ := bind_ok done
    cases last
    exact (allocateRequest_handover allocates).sound aligned
  | fulfill platform env =>
    obtain ⟨⟨served, counts⟩, passes, last⟩ := bind_ok done
    have handover : HandoverStep s.db served := fulfillRoundRobin_induct (fun step => step.trans (.tables _))
      (fun step => step.trans (markFulfilled_handover _ _ _))
        (fun step runs => step.trans (allocateRequest_handover runs))
      (.tables s.db) passes
    cases last
    exact handover.sound aligned
  | elsewhere other =>
    cases done
    exact aligned.sound guard.lineage guard.inventory (.nothing guard.handovers)

theorem historyStep_sound (aligned : Aligned s) (guard : HistoryGuard s op) :
    Aligned (historyStep s op) ∧ Merges s.db (historyStep s op).db ∧
    HandsOver s.db (historyStep s op).db := by
  unfold historyStep
  split
  · exact ⟨aligned, (Lineage.still rfl rfl).merges, .nothing rfl⟩
  case h_2 after added done =>
  have sound := historyExec_sound aligned guard done
  exact ⟨sound.aligned, sound.merges, sound.hands⟩

end

/-- The same Lead goes to a Customer that was never connected with an active earlier recipient. -/
def Apart (earlier later : Nat × Option Nat) : Prop :=
  earlier.1 = later.1 → ∀ c d, earlier.2 = some c → later.2 = some d → c ∈ activeCustomers s.db →
    c ≠ d ∧ ¬Connected s.edges (.customer c) (.customer d)

theorem Fresh.apart {s : HistoryState} (aligned : Aligned s) {h n : Nat × Option Nat}
    (fresh : Fresh s.db h n) : Apart s h n := by
  intro sameLead c d former next active
  have differ := fresh sameLead c d former next active
  exact ⟨fun same => differ (same ▸ rfl), fun connected =>
    differ (key_eq_of_connected aligned.represents.agrees connected)⟩

/-- What one operation of a run does: it hands no Lead over within a history, and splits no
class. -/
structure NoRepeat (op : HistoryOp) : Prop where
  hands : ∃ new, (historyStep s op).db.handovers = s.db.handovers ++ new ∧
    (∀ h ∈ s.db.handovers, ∀ n ∈ new, Apart s h n) ∧ new.Pairwise (Apart s)
  together : ∀ x y k, s.db.historyKey x = some k → s.db.historyKey y = some k →
    ∃ l, (historyStep s op).db.historyKey x = some l ∧ (historyStep s op).db.historyKey y = some l

theorem historyStep_noRepeat {s : HistoryState} {op : HistoryOp} (aligned : Aligned s)
    (guard : HistoryGuard s op) : NoRepeat s op := by
  obtain ⟨_, ⟨f, renamed⟩, new, grown, old, among⟩ := historyStep_sound aligned guard
  refine ⟨⟨new, grown, fun h inOld n member => (old h inOld n member).apart aligned,
    among.imp fun fresh => fresh.apart aligned⟩, fun x y k hx hy => ⟨f k, ?_, ?_⟩⟩
  · rw [renamed, hx, map_some]
  · rw [renamed, hy, map_some]

/-- In every run, sharing a permanent history key is being connected by the assignments that ever
existed, no class is split, and no Lead goes to a Customer connected with an active earlier
recipient. -/
theorem history_run_noRepeat {s : HistoryState} {ops : List HistoryOp} (start : Aligned s)
    (meets : Meets historyStep HistoryGuard s ops) :
    Meets historyStep NoRepeat s ops ∧ ∀ x y k l, (run historyStep s ops).db.historyKey x = some k →
        (run historyStep s ops).db.historyKey y = some l →
          (k = l ↔ Connected (run historyStep s ops).edges x y) := by
  have kept : ∀ s op, HistoryGuard s op → Aligned s → Aligned (historyStep s op) :=
    fun s op guard aligned => (historyStep_sound aligned guard).1
  refine ⟨meets_of_invariant kept (fun s op guard aligned => historyStep_noRepeat aligned guard) start meets,
    fun x y k l hx hy => ?_⟩
  have reached := run_invariant_of_meets kept start meets
  exact reached.represents.connected_iff hx hy

/-- Customers and Agencies with their history keys. -/
def Db.subjects (db : Db) : List (Subject × String) :=
  db.customers.map (fun c => (.customer c.id, c.permanentHistoryKey)) ++
    db.agencies.map fun a => (.agency a.id, a.permanentHistoryKey)

theorem mem_subjects {db : Db} {x : Subject} {k : String} (keyed : db.historyKey x = some k) :
    (x, k) ∈ db.subjects := by
  cases x with
  | customer i =>
    obtain ⟨c, found, rfl⟩ := map_eq_some_iff.mp keyed
    obtain ⟨stored, rfl⟩ := lookup_some found
    exact mem_append_left _ (mem_map.mpr ⟨c, stored, rfl⟩)
  | agency i =>
    obtain ⟨a, found, rfl⟩ := map_eq_some_iff.mp keyed
    obtain ⟨stored, rfl⟩ := lookup_some found
    exact mem_append_right _ (mem_map.mpr ⟨a, stored, rfl⟩)

theorem aligned_of_distinct {db : Db} (customers : Keyed Customer.id db.customers)
    (agencies : Keyed Agency.id db.agencies) (distinct : Keyed Prod.snd db.subjects)
    (standalone : ∀ c ∈ db.customers, c.agencyId = none) (inventory : InventorySchema db) :
    Aligned ⟨db, []⟩ := by
  refine ⟨customers, agencies, ⟨by simp, fun x y k hx hy => ?_⟩, fun c member a joined => ?_, inventory⟩
  · have same := eq_of_mem_of_key distinct (mem_subjects hx) (mem_subjects hy) rfl
    cases same
    exact .refl x
  · rw [standalone c member] at joined
    cases joined

def texasRequest (id customerId : Nat) : LeadRequest :=
  { id, userId := customerId, customerId, leadCount := 1, rowsPerFile := 1, statesSnapshot := ["TX"],
    status := .approved, createdAt := 0 }

def sharedShop : Db :=
  { customers := [{ id := 1, permanentHistoryKey := "c1" },
      { id := 2, permanentHistoryKey := "c2" }, { id := 3, permanentHistoryKey := "c3" }]
    agencies := [{ id := 5, permanentHistoryKey := "a5" }]
    requests := [texasRequest 11 1, texasRequest 12 2, texasRequest 13 3]
    leads :=
      [{ id := 1, phone := "5125550101", state := "TX" },
      { id := 2, phone := "5125550102", state := "TX" }] }

theorem sharedShop_aligned : Aligned ⟨sharedShop, []⟩ :=
    aligned_of_distinct (by decide) (by decide) (by decide) (by decide)
    ⟨by decide, by decide, by decide, by decide, by decide, fun m member => absurd member not_mem_nil⟩

def sharedRun : List HistoryOp :=
  [.assign 1 (some 5) "admin" "joins" true 0, .allocate plainPlatform (quietEnv (days 1) 91) 11,
    .assignByAdmin 1 none "admin" "leaves" true (days 2),
    .assignByAdmin 2 (some 5) "admin" "joins" true (days 3),
    .updateAgency 5 "Five" "renamed" true,
    .allocate plainPlatform (quietEnv (days 30) 92) 12,
    .allocate plainPlatform (quietEnv (days 60) 93) 13]

/-- Customer 2 is not given the Lead that Customer 1 had before they shared an Agency; Customer 3
is. -/
theorem history_run_noRepeat_shared :
    let s := run historyStep ⟨sharedShop, []⟩ sharedRun
    s.db.handovers = [(1, some 1), (2, some 2), (1, some 3)] ∧
      Meets historyStep NoRepeat ⟨sharedShop, []⟩ sharedRun ∧
      Connected s.edges (.customer 1) (.customer 2) ∧ ¬Connected s.edges (.customer 1) (.customer 3) := by
  intro s
  have meets : Meets historyStep HistoryGuard ⟨sharedShop, []⟩ sharedRun :=
    ⟨trivial, trivial, trivial, trivial, trivial, trivial, trivial, trivial⟩
  obtain ⟨each, classes⟩ := history_run_noRepeat sharedShop_aligned meets
  have keys : s.db.historyKey (.customer 1) = some "a5" ∧
      s.db.historyKey (.customer 2) = some "a5" ∧ s.db.historyKey (.customer 3) = some "c3" := by
    decide +kernel
  refine ⟨by decide +kernel, each, (classes _ _ _ _ keys.1 keys.2.1).mp rfl, fun connected => ?_⟩
  have same := (classes _ _ _ _ keys.1 keys.2.2).mpr connected
  exact absurd same (by decide)

end Jawnix
