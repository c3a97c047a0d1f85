import Jawnix.ConflictGate
import Jawnix.DistributionHistory
import Jawnix.ListingRuns
import Jawnix.ManifestLeads
import Jawnix.RetainedRows

/-!
# The cooldown prefilter

`eligible_query` looks for recent Distribution Events of a Lead only where its
`last_distributed_at` is recent. Every writer of events keeps that column on its
own. It covers the events as long as the ORM import, which heeds one row of each
phone in a batch, finds the latest date there.
-/
namespace Jawnix

variable (db : Db)

def eventCooling (customer : Customer) (instant : Instant) (lead : Lead) : Bool :=
  let cutoff := instant - days (cooldownDays customer)
  let inactiveCutoff := instant - days deactivatedRecipientHoldDays
  db.events.any (fun e => e.leadId = lead.id && ((cutoff < e.deliveredAt && activeRecipient db e) ||
      (inactiveCutoff < e.deliveredAt && inactiveRecipient db e)))

@[mk_iff]
structure Covered : Prop where
  schema : LeadSchema db
  drawn : ∀ e ∈ db.events, e.leadId ≤ db.leadSeq
  reached : ∀ lead ∈ db.leads, ∀ e ∈ db.events, e.leadId = lead.id → lead.Reached e.deliveredAt

instance (db : Db) : Decidable (Covered db) := decidable_of_iff' _ (covered_iff ..)

section
variable {db : Db} {customer : Customer} {instant : Instant} {lead : Lead}

/-- An event that cools a Lead down is later than the older of the two cutoffs. -/
theorem coolingDown_eq_eventCooling (covered : Covered db) (member : lead ∈ db.leads) (customer : Customer)
    (instant : Instant) : coolingDown db customer instant lead = eventCooling db customer instant lead := by
  unfold coolingDown eventCooling
  rw [Bool.and_eq_right_iff_imp]
  intro cooling
  obtain ⟨e, stored, cools⟩ := any_eq_true.mp cooling
  simp only [and_eq_true, or_eq_true, decide_eq_true_eq] at cools
  obtain ⟨own, recent⟩ := cools
  obtain ⟨last, named, reached⟩ := covered.reached lead member e stored own
  have later : min (instant - days (cooldownDays customer)) (instant - days deactivatedRecipientHoldDays) <
      e.deliveredAt := by
    rcases recent with ⟨active, _⟩ | ⟨inactive, _⟩
    · exact lt_of_le_of_lt (min_le_left _ _) active
    · exact lt_of_le_of_lt (min_le_right _ _) inactive
  rw [mem_def] at named
  rw [named, any_some, decide_eq_true_eq]
  exact lt_of_lt_of_le later reached

theorem recipient_known (db : Db) (e : DistributionEvent) :
    activeRecipient db e ∨ inactiveRecipient db e := by
  unfold activeRecipient inactiveRecipient
  cases e.customerId with
  | some c => by_cases active : c ∈ activeCustomers db <;> simp [active]
  | none =>
    cases e.agencyId with
    | none => simp
    | some a => by_cases active : a ∈ activeAgencies db <;> simp [active]

theorem delivered_of_rested (rested : eventCooling db customer instant lead = false) {e : DistributionEvent}
    (stored : e ∈ db.events) (own : e.leadId = lead.id) : e.deliveredAt ≤ instant - days 1 := by
  have quiet := any_eq_false.mp rested e stored
  have window : days 1 ≤ days (cooldownDays customer) := by
    have atLeast : 1 ≤ cooldownDays customer := le_max_left _ _
    exact Int.mul_le_mul_of_nonneg_right atLeast (by decide)
  have hold : days 1 ≤ days deactivatedRecipientHoldDays := by decide
  simp only [own, decide_true, Bool.true_and, or_eq_true, and_eq_true, decide_eq_true_eq, not_or,
    not_and] at quiet
  by_contra recent
  have recent : instant - days 1 < e.deliveredAt := not_le.mp recent
  rcases recipient_known db e with active | inactive
  · exact quiet.1 (lt_of_le_of_lt (Int.sub_le_sub_left window instant) recent) active
  · exact quiet.2 (lt_of_le_of_lt (Int.sub_le_sub_left hold instant) recent) inactive

end

/-- No Lead of the first database is given up, and none was distributed earlier than it says. -/
structure Cumulates (start db : Db) : Prop where
  seq : start.leadSeq ≤ db.leadSeq
  kept : ∀ lead ∈ db.leads, lead.id ≤ start.leadSeq →
    ∃ old ∈ start.leads, old.id = lead.id ∧ ∀ at_, old.Reached at_ → lead.Reached at_

theorem Cumulates.refl : Cumulates db db :=
  ⟨Nat.le_refl _, fun lead member _ => ⟨lead, member, rfl, fun _ h => h⟩⟩

theorem cumulates_closed (start : Db) : RegistryClosed (Cumulates start) where
  congr := fun cumulates leads seq => ⟨cumulates.seq.trans seq, leads ▸ cumulates.kept⟩
  append := fun fresh _ cumulates =>
    { seq := Nat.le_succ_of_le cumulates.seq
      kept := fun lead member drawn => by
        rcases mem_append.mp member with before | new
        · exact cumulates.kept lead before drawn
        rw [mem_singleton.mp new, fresh] at drawn
        exact absurd (drawn.trans cumulates.seq) (Nat.not_succ_le_self _) }
  edit := fun _ revises cumulates =>
    { seq := cumulates.seq
      kept := fun lead member drawn => by
        rcases mem_adjust.mp member with ⟨before, stored, _, rfl⟩ | ⟨stored, _⟩
        · obtain ⟨old, inStart, same, reached⟩ := cumulates.kept before stored ((revises before).id ▸ drawn)
          exact ⟨old, inStart, same.trans (revises before).id.symm, fun at_ h =>
            (revises before).reached at_ (reached at_ h)⟩
        · exact cumulates.kept lead stored drawn }

section
variable {db db' : Db} {platform : ManifestPlatform}

section
variable (covered : Covered db)
include covered

theorem Covered.advance (closed : ∀ {P : Db → Prop}, RegistryClosed P → P db → P db')
    (events :
      ∀ e ∈ db'.events, (∃ old ∈ db.events, old.leadId = e.leadId ∧ old.deliveredAt = e.deliveredAt) ∨
      ∃ lead ∈ db'.leads, e.leadId = lead.id ∧ lead.Reached e.deliveredAt) : Covered db' := by
  have schema : LeadSchema db' := closed schema_closed covered.schema
  have cumulates : Cumulates db db' := closed (cumulates_closed db) (.refl db)
  refine ⟨schema, fun e member => ?_, fun lead member e stored own => ?_⟩
  · rcases events e member with ⟨old, before, same, _⟩ | ⟨lead, inLeads, same, _⟩
    · exact same ▸ (covered.drawn old before).trans cumulates.seq
    · exact same ▸ schema.drawn lead inLeads
  rcases events e stored with ⟨old, before, same, at_⟩ | ⟨other, inLeads, same, reached⟩
  · have drawn : lead.id ≤ db.leadSeq := own ▸ same ▸ covered.drawn old before
    obtain ⟨kept, inStart, id, grows⟩ := cumulates.kept lead member drawn
    exact at_ ▸ grows _ (covered.reached kept inStart old before (same.trans (own.trans id.symm)))
  · obtain rfl := eq_of_mem_of_key schema.ids inLeads member (same.symm.trans own)
    exact reached

theorem Covered.appendEvent {lead : Lead} {e : DistributionEvent} (member : lead ∈ db.leads)
    (own : e.leadId = lead.id) (reached : lead.Reached e.deliveredAt) : Covered (appendEvent db e) := by
  refine covered.advance (fun closed holds => closed.congr holds rfl (Nat.le_refl _)) fun event stored => ?_
  rcases mem_append.mp stored with old | new
  · exact .inl ⟨event, old, rfl, rfl⟩
  rw [mem_singleton.mp new]
  exact .inr ⟨lead, member, own, reached⟩

theorem Covered.registerPhone (phone : String) : Covered (registerPhone db phone) :=
  covered.advance (fun closed holds => registerPhone_closed closed phone holds) fun e stored =>
    .inl ⟨e, stored, rfl, rfl⟩

theorem Covered.syncStep (platform : SyncPlatform) (op : SyncOp) : Covered (syncStep platform db op) := by
  refine syncStep_induct (fun covered leads leadSeq _ _ _ events => ?_)
    (fun checksum s l covered => ?_) covered op
  · refine covered.advance (fun closed holds => closed.congr holds leads
      (Nat.le_of_eq leadSeq.symm)) fun e stored => ?_
    rw [events] at stored
    exact .inl ⟨e, stored, rfl, rfl⟩
  refine covered.advance (fun closed holds => observeRow_closed closed holds) fun e stored => ?_
  obtain ⟨_, _, _, frame⟩ := observeRow_frame checksum s l
  rw [frame] at stored
  exact .inl ⟨e, stored, rfl, rfl⟩

end

theorem distributedBy_revises (deliveredAt : Instant) (lead : Lead) :
    lead.Revises (distributedBy deliveredAt lead) :=
  ⟨rfl, rfl, fun _ reached => laterDate_reaches (.inl reached)⟩

theorem Covered.recordHistory (covered : Covered db) (agent : Customer) (deliveredAt : Instant)
    (source : String) {lead : Lead} (known : HasLead db.leads lead.id lead.phone) :
    Covered (recordHistory agent deliveredAt source db lead) := by
  obtain ⟨current, member, id, phone⟩ := known
  have dated : Covered (db.editLead lead.phone (distributedBy deliveredAt)) :=
    covered.advance (fun closed holds => closed.edit lead.phone (distributedBy_revises deliveredAt) holds)
      fun e stored => .inl ⟨e, stored, rfl, rfl⟩
  unfold Jawnix.recordHistory
  dsimp only
  split
  · exact dated
  refine dated.appendEvent (mem_adjust.mpr (.inl ⟨current, member, phone, rfl⟩)) id.symm ?_
  exact laterDate_reaches (.inr ⟨deliveredAt, rfl, le_refl _⟩)

theorem recordHistory_kept (agent : Customer) (deliveredAt : Instant) (source : String)
    (lead : Lead) : LeadsKept db.leads (recordHistory agent deliveredAt source db lead).leads := by
  intro old member
  have edited : (recordHistory agent deliveredAt source db lead).leads =
      adjust Lead.phone lead.phone (distributedBy deliveredAt) db.leads := by
    unfold recordHistory
    dsimp only
    split <;> rfl
  rw [edited]
  by_cases here : old.phone = lead.phone
  · exact ⟨distributedBy deliveredAt old, mem_adjust.mpr (.inl ⟨old, member, here, rfl⟩), rfl, rfl⟩
  · exact ⟨old, mem_adjust.mpr (.inr ⟨member, here⟩), rfl, rfl⟩

theorem Covered.importHistoryBatch (covered : Covered db) (platform : HistoryPlatform)
    (agent : Customer) (deliveredAt : Instant) (source : String) (batch : List (Option String)) :
    Covered (importHistoryBatch platform agent deliveredAt source db batch) := by
  have records : ∀ (leads : List Lead) (db : Db), Covered db →
    (∀ lead ∈ leads, HasLead db.leads lead.id lead.phone) →
      Covered (leads.foldl (Jawnix.recordHistory agent deliveredAt source) db) := by
    intro leads
    induction leads with
    | nil => exact fun _ covered _ => covered
    | cons lead leads ih =>
      intro db covered known
      obtain ⟨here, later⟩ := forall_mem_cons.mp known
      exact ih _ (covered.recordHistory agent deliveredAt source here) fun other member =>
        (later other member).kept (recordHistory_kept agent deliveredAt source lead)
  exact records _ db covered fun lead member => ⟨lead, List.mem_of_mem_filter member, rfl, rfl⟩

theorem Covered.importHistoryFile (covered : Covered db) (platform : HistoryPlatform)
    (file : HistoryFile) : Covered (importHistoryFile platform db file) := by
  have batches : ∀ (batches : List (List (Option String))) (db : Db) agent deliveredAt source, Covered db →
      Covered (batches.foldl (Jawnix.importHistoryBatch platform agent deliveredAt source) db) := by
    intro batches
    induction batches with
    | nil => exact fun _ _ _ _ covered => covered
    | cons batch batches ih =>
      intro db agent deliveredAt source covered
      exact ih _ agent deliveredAt source
        (covered.importHistoryBatch platform agent deliveredAt source batch)
  unfold Jawnix.importHistoryFile
  split
  · exact covered
  split
  · exact batches _ db _ _ _ covered
  · exact covered

theorem Covered.importDistributionHistory (covered : Covered db) (platform : HistoryPlatform)
    (files : List HistoryFile) : Covered (importDistributionHistory platform db files) := by
  unfold Jawnix.importDistributionHistory
  induction files generalizing db with
  | nil => exact covered
  | cons file files ih => exact ih (covered.importHistoryFile platform file)

/-- Every delivery a batch brings is dated no later than its Lead will be: the Lead was distributed
later already, or it is not known to DB2 alone and the first row of its phone is dated later. -/
def Heeded (db : Db) (batch : List ManifestRow) : Prop :=
  ∀ row ∈ batch, ∀ date ∈ row.lastDistributedAt, orElse row.agent "" ≠ "" →
    (∃ lead ∈ db.leadOfPhone? row.phone, lead.Reached date) ∨
      ((∀ lead ∈ db.leadOfPhone? row.phone, lead.inDb1) ∧
        ∃ first ∈ lookup ManifestRow.phone row.phone batch, ∃ last ∈ first.lastDistributedAt, date ≤ last)
  deriving Decidable

theorem Covered.recordLegacies (covered : Covered db) {stored : Nat} {rows : List ManifestRow}
    (reached : ∀ row ∈ rows, ∀ date ∈ row.lastDistributedAt, orElse row.agent "" ≠ "" →
      ∀ lead ∈ db.leadOfPhone? row.phone, lead.Reached date) :
    Covered (rows.foldl (recordLegacy stored) db) := by
  induction rows generalizing db with
  | nil => exact covered
  | cons row rows ih =>
  obtain ⟨here, later⟩ := forall_mem_cons.mp reached
  obtain ⟨events, eventSeq, frame⟩ := recordLegacy_frame stored db row
  refine ih ?_ (by rw [frame]; exact later)
  unfold recordLegacy
  split
  case h_1 date lead dated found =>
    split
    · exact covered
    case isFalse named =>
    dsimp only
    split
    · exact covered
    · exact covered.appendEvent (lookup_some found).1 rfl (here date dated named lead found)
  · exact covered

theorem Covered.importBatch (covered : Covered db) {batch : List ManifestRecord}
    (heeded : Heeded db (manifestRows platform batch)) : Covered (importBatch platform db batch) := by
  have upserts : ∀ (rows : List ManifestRow) (db : Db), Covered db →
    Covered (rows.foldl (upsertLead true) db) := by
    intro rows
    induction rows with
    | nil => exact fun _ covered => covered
    | cons row rows ih =>
      refine fun db covered =>
        ih _ (covered.advance (fun closed holds => upsertLead_closed closed row holds)
        fun e stored => ?_)
      obtain ⟨_, _, frame⟩ := upsertLead_frame db row
      rw [frame] at stored
      exact .inl ⟨e, stored, rfl, rfl⟩
  have upserted : Covered (upsertLeadBatch true db (manifestRows platform batch)) := upserts _ db covered
  refine upserted.recordLegacies fun row member date dated named lead found => ?_
  obtain ⟨first, held⟩ : ∃ first, lookup ManifestRow.phone row.phone (manifestRows platform batch) =
    some first := by
    by_contra absent
    exact lookup_none.mp (Option.eq_none_iff_forall_ne_some.mpr fun first found =>
      absent ⟨first, found⟩) row member rfl
  obtain ⟨id, read⟩ := (upsertLeadBatch_lead (manifestRows platform batch) db row.phone).2 first held
  obtain rfl := some.inj (read.symm.trans found)
  rcases heeded row member date dated named with ⟨old, stored, reached⟩ | ⟨inside, other, heads, later⟩
  · rw [mem_def] at stored
    rw [stored]
    exact (upserted_revises first id old).reached date reached
  · obtain rfl := some.inj (held.symm.trans heads)
    exact upserted_reached id inside later

theorem Heeded.after {batch : List ManifestRow} (heeded : Heeded db batch)
    (earlier : List ManifestRecord) : Heeded (Jawnix.importBatch platform db earlier) batch := by
  intro row member date dated named
  rcases heeded row member date dated named with ⟨old, stored, reached⟩ | ⟨inside, later⟩
  · refine .inl (importBatch_induct (P := fun found => ∃ lead ∈ found, lead.Reached date) ?_
      ⟨old, stored, reached⟩)
    rintro other _ _ id _ ⟨lead, rfl, reached⟩
    exact ⟨_, rfl, (upserted_revises other id lead).reached date reached⟩
  refine .inr ⟨importBatch_induct (P := fun found => ∀ lead ∈ found, lead.inDb1) ?_ inside, later⟩
  intro other _ _ id old _ lead held
  cases held
  exact upserted_inDb1 other id old

theorem Covered.importOrm (covered : Covered db) {records : List ManifestRecord}
    (heeded : ∀ batch ∈ chunks 10000 records, Heeded db (manifestRows platform batch)) :
    Covered (importOrm platform db records) := by
  unfold Jawnix.importOrm
  generalize chunks 10000 records = batches at heeded ⊢
  induction batches generalizing db with
  | nil => exact covered
  | cons batch batches ih =>
    obtain ⟨here, later⟩ := forall_mem_cons.mp heeded
    exact ih (covered.importBatch here) fun other member => (later other member).after batch

theorem Covered.importPostgresql (covered : Covered db) (records : List ManifestRecord) :
    Covered (importPostgresql platform db records) := by
  refine covered.advance (fun closed holds => importPostgresql_closed closed records holds)
    fun e stored => ?_
  have added : e ∈ db.events ∨ ∃ row ∈ manifestRows platform records, ∃ lead,
      (Jawnix.importPostgresql platform db records).leadOfPhone? row.phone = some lead ∧
        e.leadId = lead.id ∧ row.lastDistributedAt = some e.deliveredAt := by
    unfold Jawnix.importPostgresql at stored ⊢
    dsimp only at stored ⊢
    rw [manifestRows_chunks 50000 (by decide)] at stored ⊢
    obtain ⟨_, _, frame⟩ := insertDeliveries_frame (mergeLeads platform db (manifestRows platform records))
      (stagedDeliveries (mergeLeads platform db (manifestRows platform records))
        (manifestRows platform records))
    rcases mem_insertDeliveries stored with old | new
    · obtain ⟨_, _, merged⟩ :=
        mergeLeads_frame db (((manifestRows platform records).map ManifestRow.phone).dedup.map
        (fun phone => aggregateRows platform phone (manifestRows platform records)))
      rw [mergeLeads, merged] at old
      exact .inl old
    · rw [frame]
      exact .inr (mem_stagedDeliveries new)
  rcases added with old | ⟨row, member, lead, found, own, dated⟩
  · exact .inl ⟨e, old, rfl, rfl⟩
  obtain ⟨id, read⟩ := (importPostgresql_lead platform db records row.phone).2 ⟨row, member, rfl⟩
  obtain rfl := some.inj (read.symm.trans found)
  exact .inr ⟨_, (lookup_some found).1, own, merged_reached id _ (maxDate_reaches (mem_map.mpr
    ⟨row, mem_filter.mpr ⟨member, decide_eq_true rfl⟩, dated⟩))⟩

end

section
variable {platform : Platform} {env : AllocationEnv} {db after : Db} {result : AllocationResult}

theorem Covered.congr (covered : Covered db) (leads : after.leads = db.leads)
    (leadSeq : after.leadSeq = db.leadSeq)
    (events : after.events.map (fun e => (e.leadId, e.deliveredAt)) = db.events.map fun e =>
      (e.leadId, e.deliveredAt)) :
    Covered after := by
  refine covered.advance (fun closed holds => closed.congr holds leads (Nat.le_of_eq leadSeq.symm))
    fun e stored => ?_
  have member : (e.leadId, e.deliveredAt) ∈ db.events.map fun e => (e.leadId, e.deliveredAt) :=
    events ▸ mem_map_of_mem stored
  obtain ⟨old, before, same⟩ := mem_map.mp member
  exact .inl ⟨old, before, (Prod.mk.inj same).1, (Prod.mk.inj same).2⟩

theorem Covered.stamped (covered : Covered db) (leadIds : List Nat) (at_ : Instant)
    (new : List DistributionEvent)
    (rested : ∀ e ∈ db.events, e.leadId ∈ leadIds → e.deliveredAt ≤ at_)
    (known : ∀ id ∈ leadIds, ∃ lead ∈ db.leads, lead.id = id)
    (fresh : ∀ e ∈ new, e.leadId ∈ leadIds ∧ e.deliveredAt = at_) :
    Covered { stampLeads db leadIds at_ with events := db.events ++ new } := by
  -- a stamp touches neither identity nor phone
  have column : ∀ {β : Type} (g : Lead → β),
    (∀ lead last, g { lead with lastDistributedAt := last } = g lead) →
      (stampLeads db leadIds at_).leads.map g = db.leads.map g := by
    intro β g blind
    simp only [stampLeads, map_map]
    refine map_congr_left fun lead _ => ?_
    simp only [comp_apply]
    split
    · exact blind lead _
    · rfl
  have ids := column Lead.id fun _ _ => rfl
  refine ⟨⟨?_, ?_, ?_⟩, ?_, ?_⟩
  · change ((stampLeads db leadIds at_).leads.map Lead.id).Nodup
    rw [ids]
    exact covered.schema.ids
  · change ((stampLeads db leadIds at_).leads.map Lead.phone).Nodup
    rw [column Lead.phone fun _ _ => rfl]
    exact covered.schema.phones
  · intro lead member
    have stored : lead.id ∈ db.leads.map Lead.id := ids ▸ mem_map_of_mem member
    obtain ⟨old, before, same⟩ := mem_map.mp stored
    exact same ▸ covered.schema.drawn old before
  · intro e member
    rcases mem_append.mp member with old | added
    · exact covered.drawn e old
    obtain ⟨lead, stored, same⟩ := known e.leadId (fresh e added).1
    exact same ▸ covered.schema.drawn lead stored
  intro lead member e stored own
  obtain ⟨old, before, same⟩ := mem_map.mp member
  by_cases drawn : old.id ∈ leadIds
  · rw [if_pos drawn] at same
    subst same
    have named : e.leadId ∈ leadIds := own ▸ drawn
    rcases mem_append.mp stored with earlier | added
    · exact ⟨at_, rfl, rested e earlier named⟩
    · exact ⟨at_, rfl, (fresh e added).2.le⟩
  rw [if_neg drawn] at same
  subst same
  rcases mem_append.mp stored with earlier | added
  · exact covered.reached old before e earlier own
  · exact absurd (own ▸ (fresh e added).1) drawn

theorem Covered.allocateRequest (covered : Covered db) {requestId : Uuid}
    (clock : env.eligibleAt - days 1 ≤ env.distributedAt)
    (done : allocateRequest platform env db requestId = .ok (after, result)) : Covered after := by
  obtain ⟨request, customer, _, _, outcome⟩ := allocateRequest_outcome done
  cases outcome with
  | replayed _ _ restores files captures _ =>
    obtain ⟨f, rewrites, restored⟩ := restoreEvents_ok restores
    obtain ⟨_, _, _, filed⟩ := (generateArtifact_filed files).frame
    obtain ⟨_, _, captured⟩ := (captureBatchHold_captured captures).frame
    rw [captured, filed, restored]
    refine covered.congr rfl rfl ?_
    change (db.events.map f).map (fun e => (e.leadId, e.deliveredAt)) = _
    rw [map_map]
    refine map_congr_left fun e _ => ?_
    obtain ⟨_, _, _, _, same⟩ := rewrites e
    simp only [comp_apply, same]
  | idle _ _ _ => exact covered
  | @shortage available _ _ _ =>
    obtain ⟨_, _, parked⟩ := reportShortage_parked env db request available
    rw [parked]
    exact covered.congr rfl rfl rfl
  | @distributed candidates drafts _ _ _ _ _ _ _ selected _ drawn inserts files captures _ =>
  obtain ⟨_, _, _, filed⟩ := (generateArtifact_filed files).frame
  obtain ⟨_, _, captured⟩ := (captureBatchHold_captured captures).frame
  have eligible :
    ∀ row ∈ candidates, row ∈ eligibleQuery platform.casing db request customer env.eligibleAt :=
    fun row member => mem_selectCandidates (selected ▸ member)
  have stamped := covered.stamped (candidates.map fun row => row.lead.id) env.distributedAt
    (numberEvents db.eventSeq drafts) ?_ ?_ ?_
  · rw [captured, filed, insertEvents_ok inserts]
    exact stamped.congr rfl rfl rfl
  · intro e stored named
    obtain ⟨row, member, same⟩ := mem_map.mp named
    have lead := (eligibleQuery_stored (eligible row member)).1
    have rested := (eligibleQuery_clear (eligible row member)).1
    rw [coolingDown_eq_eventCooling covered lead] at rested
    exact (delivered_of_rested rested stored same.symm).trans clock
  · intro id named
    obtain ⟨row, member, same⟩ := mem_map.mp named
    exact ⟨row.lead, (eligibleQuery_stored (eligible row member)).1, same⟩
  intro e added
  obtain ⟨draft, inDrafts, id, rfl⟩ := mem_numberEvents added
  obtain ⟨row, member, made⟩ := Runs.forall₂_mem_right drawn inDrafts
  have delivers := (distributionEvent_delivers made).1
  exact ⟨mem_map.mpr ⟨row, member, delivers.leadId.symm⟩, delivers.deliveredAt⟩

end

inductive CooldownOp where
  | allocate (platform : Platform) (env : AllocationEnv) (requestId : Uuid)
  | pass (platform : Platform) (env : RotationEnv)
  | manifest (platform : ManifestPlatform) (backend : Backend) (path checksum : String) (file : ManifestFile)
  | history (platform : HistoryPlatform) (files : List HistoryFile)
  | sync (platform : SyncPlatform) (op : SyncOp)
  /-- A DB2 upload registers a phone. -/
  | register (phone : String)

def cooldownStep : CooldownOp → Db
  | .allocate platform env requestId => commit db ((allocateRequest platform env db requestId).map Prod.fst)
  | .pass platform env => commit db ((fulfillRoundRobin platform env db).map Prod.fst)
  | .manifest platform backend path checksum file =>
      commit db (importManifest platform backend db path checksum file)
  | .history platform files => importDistributionHistory platform db files
  | .sync platform op => syncStep platform db op
  | .register phone => registerPhone db phone

/-- An allocation whose clock does not run back a day, and an import on the ORM whose batches are
heeded. -/
def CooldownGuard : CooldownOp → Prop
  | .allocate _ env _ => env.eligibleAt - days 1 ≤ env.distributedAt
  | .pass _ env => ∀ id, (env.allocation id).eligibleAt - days 1 ≤ (env.allocation id).distributedAt
  | .manifest platform .orm _ _ file =>
    ∀ batch ∈ chunks 10000 file.records, Heeded db (manifestRows platform batch)
  | _ => True

theorem Covered.importManifest {db : Db} (covered : Covered db) {platform : ManifestPlatform}
    {backend : Backend} {path checksum : String} {file : ManifestFile}
    (guard : CooldownGuard db (.manifest platform backend path checksum file)) :
    Covered (commit db (importManifest platform backend db path checksum file)) := by
  have imported : Covered (importedBy platform backend db file.records) := by
    cases backend with
    | orm => exact covered.importOrm guard
    | postgresql => exact covered.importPostgresql file.records
  unfold Jawnix.importManifest
  split
  · exact covered
  split
  · split
    · exact covered
    · exact imported.congr rfl rfl rfl
  · exact covered

theorem Covered.cooldownStep {db : Db} (covered : Covered db) {op : CooldownOp}
    (guard : CooldownGuard db op) : Covered (cooldownStep db op) := by
  cases op with
  | allocate platform env requestId =>
    refine commit_cases (P := Covered) covered fun after done => ?_
    obtain ⟨result, runs⟩ := map_fst_ok done
    exact covered.allocateRequest guard runs
  | pass platform env =>
    refine commit_cases (P := Covered) covered fun after done => ?_
    obtain ⟨counts, runs⟩ := map_fst_ok done
    refine fulfillRoundRobin_induct (fun covered => covered.congr rfl rfl rfl)
      (fun {db customer at_} covered => ?_)
      (fun {_ _ id _} covered runs => covered.allocateRequest (guard id) runs) covered runs
    obtain ⟨_, _, frame⟩ := markFulfilled_frame db customer at_
    rw [frame]
    exact covered.congr rfl rfl rfl
  | manifest platform backend path checksum file => exact covered.importManifest guard
  | history platform files => exact covered.importDistributionHistory platform files
  | sync platform op => exact covered.syncStep platform op
  | register phone => exact covered.registerPhone phone

/-- In every run of allocations, manifest imports, history imports,
synchronisations and registrations whose ORM imports are heeded, no event is
later than the last distribution of its Lead, so that the guard of the cooldown
test loses nothing, for any Customer, Cooldown Window and instant. -/
theorem cooldown_runs_lossless {db : Db} (covered : Covered db) {ops : List CooldownOp}
    (meets : Meets cooldownStep CooldownGuard db ops) :
    ∀ lead ∈ (run cooldownStep db ops).leads, (∀ e ∈ (run cooldownStep db ops).events, e.leadId = lead.id →
        ∃ last, lead.lastDistributedAt = some last ∧ e.deliveredAt ≤ last) ∧
      ∀ customer instant, coolingDown (run cooldownStep db ops) customer instant lead =
        eventCooling (run cooldownStep db ops) customer instant lead := by
  have reached : Covered (run cooldownStep db ops) :=
    run_invariant_of_meets (I := Covered) (fun _ _ guard covered => covered.cooldownStep guard) covered meets
  intro lead member
  exact ⟨fun e stored own => reached.reached lead member e stored own,
    fun customer instant => coolingDown_eq_eventCooling reached member customer instant⟩

def deliveries (backend : Backend) (checksum : String) (dates : List String) : CooldownOp :=
  .manifest datedManifests backend "/data/manifest.csv" checksum
    { header := manifestColumns, records := dates.map deliveryRow }

def coolingPair (instant : Instant) : List (Bool × Bool) :=
  db.customers.getLast?.toList.flatMap (fun customer =>
    db.leads.map fun lead => (coolingDown db customer instant lead, eventCooling db customer instant lead))

theorem cooldown_runs_lossless_acme :
    let ops := [deliveries .orm "a" ["day 3", "day 0"], .register "2025550102",
      deliveries .postgresql "b" ["day 0", "day 30"]]
    let after := run cooldownStep acmeDb ops
    Covered acmeDb ∧ Meets cooldownStep CooldownGuard acmeDb ops ∧ ∀ lead ∈ after.leads,
      ∀ customer instant,
        coolingDown after customer instant lead = eventCooling after customer instant lead := by
  intro ops after
  have covered : Covered acmeDb := by decide +kernel
  have heeded : ∀ batch ∈ chunks 10000 (["day 3", "day 0"].map deliveryRow),
      Heeded acmeDb (manifestRows datedManifests batch) := by decide +kernel
  have meets : Meets cooldownStep CooldownGuard acmeDb ops := ⟨heeded, trivial, trivial, trivial⟩
  exact ⟨covered, meets, fun lead member => (cooldown_runs_lossless covered meets lead member).2⟩

/-- The ORM keeps the date of the first of two rows of a phone and the event of
each, and no date for a phone that a DB2 upload has registered: five days after
the second delivery the guard lets the Lead through. -/
theorem first_row_hides_delivery : Covered acmeDb ∧
      coolingPair (run cooldownStep acmeDb [deliveries .orm "a" ["day 0", "day 30"]])
      (days 35) = [(false, true)] ∧
      coolingPair (run cooldownStep acmeDb [.register "2025550101", deliveries .orm "a" ["day 30"]])
      (days 35) = [(false, true)] ∧
      coolingPair
      (run cooldownStep acmeDb [.register "2025550101", deliveries .postgresql "a"
        ["day 0", "day 30"]])
        (days 35) = [(true, true)] := by
  decide +kernel

end Jawnix
