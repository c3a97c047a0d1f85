import Mathlib.Data.List.Induction
import Jawnix.Clock
import Jawnix.CurrentListing
import Jawnix.Manifest

/-!
# What a manifest makes of a Lead

Both backends act on the Lead of each phone by itself. The ORM applies the first
row of the phone in every batch that has one; PostgreSQL applies the aggregate of
all its rows once. Deliveries change no Lead.
-/
namespace Jawnix

def ManifestRow.upserted (row : ManifestRow) (id : Nat) : Option Lead → Lead
  | none => row.newLead id
  | some lead => if lead.inDb1 = false then row.enter lead else row.overwrite lead

def ManifestRow.merged (row : ManifestRow) (id : Nat) : Option Lead → Lead
  | none => row.newLead id
  | some lead => row.merge lead

theorem manifestRows_state {platform : ManifestPlatform} {records : List ManifestRecord}
    {row : ManifestRow} (member : row ∈ manifestRows platform records) : row.state ≠ "" := by
  obtain ⟨record, _, read⟩ := mem_filterMap.mp member
  rw [readManifestRow] at read
  split at read
  · cases read
  split at read
  case isTrue code =>
    cases read
    exact (code_normal _ code).2.1
  · cases read

section
variable {row : ManifestRow} {lead : Lead}

theorem enter_frame (row : ManifestRow) (lead : Lead) : ∃ title state, row.enter lead =
      { lead with inDb1 := true, legacyTitle := row.title, legacyState := row.state, title, state } := by
  unfold ManifestRow.enter
  split
  · exact ⟨row.title, row.state, rfl⟩
  · exact ⟨lead.title, lead.state, rfl⟩

theorem overwrite_frame (row : ManifestRow)
      (lead : Lead) : ∃ legacyTitle legacyState, row.overwrite lead = { lead with
        title := if row.title = "" then lead.title else row.title
        state := row.state
        legacyTitle
        legacyState
        lastDistributedAt := laterDate lead.lastDistributedAt row.lastDistributedAt } := by
  unfold ManifestRow.overwrite
  dsimp only
  split
  · exact ⟨_, _, rfl⟩
  · exact ⟨lead.legacyTitle, lead.legacyState, rfl⟩

theorem laterDate_reaches {last date : Option Instant} {at_ : Instant}
    (reached : (∃ t ∈ last, at_ ≤ t) ∨ ∃ t ∈ date, at_ ≤ t) : ∃ t ∈ laterDate last date, at_ ≤ t := by
  cases last with
  | none =>
    cases date with
    | none => exact reached.elim id id
    | some date => exact reached.elim (fun absent => by simp at absent) id
  | some last =>
  cases date with
  | none => simpa [laterDate] using reached
  | some date =>
    simp only [mem_def, some.injEq, exists_eq_left'] at reached
    change ∃ t ∈ if last < date then some date else some last, at_ ≤ t
    split
    case isTrue later => exact ⟨date, rfl, reached.elim (fun before => before.trans later.le) id⟩
    case isFalse earlier => exact ⟨last, rfl, reached.elim id fun before => before.trans (not_lt.mp earlier)⟩

theorem enter_revises (row : ManifestRow) (lead : Lead) : lead.Revises (row.enter lead) := by
  obtain ⟨_, _, frame⟩ := enter_frame row lead
  rw [frame]
  exact ⟨rfl, rfl, fun _ reached => reached⟩

theorem overwrite_revises (row : ManifestRow) (lead : Lead) : lead.Revises (row.overwrite lead) := by
  obtain ⟨_, _, frame⟩ := overwrite_frame row lead
  rw [frame]
  exact ⟨rfl, rfl, fun _ reached => laterDate_reaches (.inl reached)⟩

theorem merge_revises (row : ManifestRow) (lead : Lead) : lead.Revises (row.merge lead) :=
  ⟨rfl, rfl, fun _ reached => laterDate_reaches (.inl reached)⟩

theorem upserted_inDb1 (row : ManifestRow) (id : Nat) (old : Option Lead) : (row.upserted id old).inDb1 := by
  cases old with
  | none => rfl
  | some lead =>
  rw [ManifestRow.upserted]
  split
  · obtain ⟨_, _, frame⟩ := enter_frame row lead
    rw [frame]
  case isFalse inside =>
  obtain ⟨_, _, frame⟩ := overwrite_frame row lead
  rw [frame]
  simpa using inside

theorem merged_inDb1 (row : ManifestRow) (id : Nat) (old : Option Lead) : (row.merged id old).inDb1 := by
  cases old <;> rfl

theorem upserted_revises (row : ManifestRow) (id : Nat) (lead : Lead) :
    lead.Revises (row.upserted id (some lead)) := by
  rw [ManifestRow.upserted]
  split
  · exact enter_revises row lead
  · exact overwrite_revises row lead

/-- The date of a row is heeded, unless the Lead was known to DB2 alone. -/
theorem upserted_reached {at_ : Instant} (id : Nat) {old : Option Lead} (inside : ∀ lead ∈ old, lead.inDb1)
    (dated : ∃ date ∈ row.lastDistributedAt, at_ ≤ date) : (row.upserted id old).Reached at_ := by
  cases old with
  | none => exact dated
  | some lead =>
    obtain ⟨_, _, frame⟩ := overwrite_frame row lead
    rw [ManifestRow.upserted, if_neg (by simp [inside lead rfl]), frame]
    exact laterDate_reaches (.inr dated)

theorem merged_reached {at_ : Instant} (id : Nat) (old : Option Lead)
    (dated : ∃ date ∈ row.lastDistributedAt, at_ ≤ date) : (row.merged id old).Reached at_ := by
  cases old with
  | none => exact dated
  | some lead => exact laterDate_reaches (.inr dated)

end

section
variable {db : Db} (batch : List ManifestRow) (platform : ManifestPlatform)

theorem leadOfPhone?_edit {lead : Lead} {phone : String} {f : Lead → Lead}
    (found : db.leadOfPhone? phone = some lead) (named : ∀ l, (f l).phone = l.phone)
    (other : String) :
    (db.editLead phone f).leadOfPhone? other = if other = phone then some (f lead) else
    db.leadOfPhone? other := by
  rw [leadOfPhone?_editLead named]
  split
  case isTrue here =>
    subst here
    rw [found]
    rfl
  · rfl

theorem leadOfPhone?_upsertLead (db : Db) (row : ManifestRow) (other : String) :
    (upsertLead true db row).leadOfPhone? other =
    if other = row.phone then some (row.upserted (db.leadSeq + 1) (db.leadOfPhone? row.phone))
    else db.leadOfPhone? other := by
  unfold upsertLead ManifestRow.upserted
  cases found : db.leadOfPhone? row.phone with
  | none =>
    refine (lookup_append_new found rfl other).trans ?_
    simp only [eq_comm]
    rfl
  | some lead =>
    simp only [if_true]
    split
    · exact leadOfPhone?_edit found (fun lead => (enter_revises row lead).phone) other
    · exact leadOfPhone?_edit found (fun lead => (overwrite_revises row lead).phone) other

theorem mem_firstRows {batch : List ManifestRow} {row : ManifestRow}
    (member : row ∈ firstRows batch) : row ∈ batch := by
  induction batch using reverseRecOn with
  | nil => exact member
  | append_singleton batch x ih =>
  unfold firstRows at member ih
  rw [foldl_append, foldl_cons, foldl_nil] at member
  split at member
  · exact mem_append_left _ (ih member)
  rcases mem_append.mp member with old | new
  · exact mem_append_left _ (ih old)
  · exact mem_append_right _ new

theorem firstRows_concat (row : ManifestRow) : firstRows (batch ++ [row]) =
    if (lookup ManifestRow.phone row.phone (firstRows batch)).isSome then firstRows batch
    else firstRows batch ++ [row] := by
  unfold firstRows lookup
  rw [foldl_append, foldl_cons, foldl_nil]
  simp only [List.find?_isSome, any_eq_true]

theorem firstRows_keyed : Keyed ManifestRow.phone (firstRows batch) := by
  induction batch using reverseRecOn with
  | nil => exact keyed_nil _
  | append_singleton batch row ih =>
    rw [firstRows_concat]
    split
    · exact ih
    case isFalse fresh =>
      exact keyed_append.mpr ⟨ih, lookup_none.mp (not_isSome_iff_eq_none.mp fresh)⟩

theorem lookup_firstRows (phone : String) :
    lookup ManifestRow.phone phone (firstRows batch) = lookup ManifestRow.phone phone batch := by
  induction batch using reverseRecOn with
  | nil => rfl
  | append_singleton batch row ih =>
  have joined : ∀ rows, lookup ManifestRow.phone phone (rows ++ [row]) =
      (lookup ManifestRow.phone phone rows).or (lookup ManifestRow.phone phone [row]) := fun rows =>
    List.find?_append
  rw [firstRows_concat, joined]
  split
  case isTrue known =>
    rw [ih]
    by_cases here : row.phone = phone
    · subst here
      obtain ⟨first, found⟩ := isSome_iff_exists.mp known
      rw [ih] at found
      rw [found]
      rfl
    have absent : lookup ManifestRow.phone phone [row] = none :=
      lookup_none.mpr fun other member => mem_singleton.mp member ▸ here
    rw [absent, Option.or_none]
  · rw [joined, ih]

theorem upsertLead_closed {P : Db → Prop} (closed : RegistryClosed P) (row : ManifestRow)
    (holds : P db) : P (upsertLead true db row) := by
  unfold upsertLead
  split
  case h_1 absent => exact closed.append rfl absent holds
  · split
    · exact closed.edit row.phone (enter_revises row) holds
    · exact closed.edit row.phone (overwrite_revises row) holds

theorem upsertLeads_relates {R : Option Lead → Option Lead → Prop} {phone : String}
    {rows : List ManifestRow} {db' : Db}
    (kept : ∀ row ∈ rows, row.phone = phone → ∀ id id' old old', R old old' →
      R (some (row.upserted id old)) (some (row.upserted id' old')))
    (start : R (db.leadOfPhone? phone) (db'.leadOfPhone? phone)) :
    R ((rows.foldl (upsertLead true) db).leadOfPhone? phone)
    ((rows.foldl (upsertLead true) db').leadOfPhone? phone) := by
  induction rows generalizing db db' with
  | nil => exact start
  | cons row rows ih =>
  obtain ⟨here, later⟩ := forall_mem_cons.mp kept
  refine ih later ?_
  rw [leadOfPhone?_upsertLead, leadOfPhone?_upsertLead]
  split
  case isTrue named =>
    subst named
    exact here rfl _ _ _ _ start
  · exact start

theorem upsertLeads_lead {rows : List ManifestRow} (keyed : Keyed ManifestRow.phone rows) (db : Db)
    (phone : String) :
    (lookup ManifestRow.phone phone rows = none →
      (rows.foldl (upsertLead true) db).leadOfPhone? phone = db.leadOfPhone? phone) ∧
    ∀ row, lookup ManifestRow.phone phone rows = some row →
    ∃ id, (rows.foldl (upsertLead true) db).leadOfPhone? phone =
    some (row.upserted id (db.leadOfPhone? phone)) := by
  induction rows generalizing db with
  | nil => exact ⟨fun _ => rfl, fun _ found => absurd found.symm (some_ne_none _)⟩
  | cons first rows ih =>
  obtain ⟨fresh, keyed⟩ := Rows.keyed_cons.mp keyed
  obtain ⟨unnamed, named⟩ := ih keyed (upsertLead true db first)
  rw [leadOfPhone?_upsertLead] at unnamed named
  rw [foldl_cons]
  by_cases here : first.phone = phone
  · subst here
    have absent : lookup ManifestRow.phone first.phone rows = none := lookup_none.mpr fresh
    have found : lookup ManifestRow.phone first.phone (first :: rows) = some first := by simp [lookup]
    rw [if_pos rfl] at unnamed
    rw [found]
    refine ⟨fun absent => absurd absent (some_ne_none _), fun row same => ?_⟩
    cases same
    exact ⟨_, unnamed absent⟩
  have skipped : lookup ManifestRow.phone phone (first :: rows) = lookup ManifestRow.phone phone rows := by
    simp [lookup, here]
  rw [if_neg (Ne.symm here)] at unnamed named
  rw [skipped]
  exact ⟨unnamed, named⟩

theorem upsertLeadBatch_lead (db : Db) (phone : String) : (lookup ManifestRow.phone phone batch = none →
    (upsertLeadBatch true db batch).leadOfPhone? phone = db.leadOfPhone? phone) ∧
    ∀ row, lookup ManifestRow.phone phone batch = some row →
    ∃ id, (upsertLeadBatch true db batch).leadOfPhone? phone =
    some (row.upserted id (db.leadOfPhone? phone)) := by
  rw [← lookup_firstRows]
  exact upsertLeads_lead (firstRows_keyed batch) db phone

theorem recordLegacy_frame (stored : Nat) (db : Db) (row : ManifestRow) :
    ∃ added eventSeq, recordLegacy stored db row = { db with events := db.events ++ added, eventSeq } := by
  have unchanged : ∃ added eventSeq, db = { db with events := db.events ++ added, eventSeq } :=
    ⟨[], db.eventSeq, by rw [append_nil]⟩
  unfold recordLegacy
  split
  · split
    · exact unchanged
    dsimp only
    split
    · exact unchanged
    · exact ⟨_, _, rfl⟩
  · exact unchanged

theorem recordLegacies_frame (stored : Nat) (db : Db) (rows : List ManifestRow) :
    ∃ events eventSeq, rows.foldl (recordLegacy stored) db = { db with events, eventSeq } := by
  induction rows generalizing db with
  | nil => exact ⟨db.events, db.eventSeq, rfl⟩
  | cons row rows ih =>
    obtain ⟨events, eventSeq, first⟩ := recordLegacy_frame stored db row
    obtain ⟨events', eventSeq', rest⟩ := ih (recordLegacy stored db row)
    refine ⟨events', eventSeq', rest.trans ?_⟩
    rw [first]

theorem importBatch_relates {platform : ManifestPlatform} {R : Option Lead → Option Lead → Prop}
    {phone : String} {batch : List ManifestRecord} {db' : Db}
    (kept : ∀ row ∈ manifestRows platform batch, row.phone = phone → ∀ id id' old old', R old old' →
      R (some (row.upserted id old)) (some (row.upserted id' old')))
    (start : R (db.leadOfPhone? phone) (db'.leadOfPhone? phone)) :
    R ((importBatch platform db batch).leadOfPhone? phone)
    ((importBatch platform db' batch).leadOfPhone? phone) := by
  unfold importBatch
  obtain ⟨_, _, frame⟩ := recordLegacies_frame db.events.length
    (upsertLeadBatch true db (manifestRows platform batch)) (manifestRows platform batch)
  obtain ⟨_, _, frame'⟩ := recordLegacies_frame db'.events.length
    (upsertLeadBatch true db' (manifestRows platform batch)) (manifestRows platform batch)
  rw [frame, frame']
  exact upsertLeads_relates (fun row member => kept row (mem_firstRows member)) start

theorem importBatch_lead (db : Db) (batch : List ManifestRecord) (phone : String) :
    (lookup ManifestRow.phone phone (manifestRows platform batch) = none →
      (importBatch platform db batch).leadOfPhone? phone = db.leadOfPhone? phone) ∧
    ∀ row, lookup ManifestRow.phone phone (manifestRows platform batch) = some row →
    ∃ id, (importBatch platform db batch).leadOfPhone? phone =
    some (row.upserted id (db.leadOfPhone? phone)) := by
  unfold importBatch
  obtain ⟨_, _, frame⟩ := recordLegacies_frame db.events.length
    (upsertLeadBatch true db (manifestRows platform batch)) (manifestRows platform batch)
  rw [frame]
  exact upsertLeadBatch_lead (manifestRows platform batch) db phone

theorem importBatch_induct {platform : ManifestPlatform} {P : Option Lead → Prop} {phone : String}
    {batch : List ManifestRecord}
    (kept : ∀ row ∈ manifestRows platform batch, row.phone = phone → ∀ id old, P old →
      P (some (row.upserted id old)))
    (start : P (db.leadOfPhone? phone)) : P ((importBatch platform db batch).leadOfPhone? phone) :=
  @importBatch_relates db platform (fun old _ => P old) phone batch db
    (fun row member named id _ old _ holds => kept row member named id old holds) start

theorem importOrm_relates {platform : ManifestPlatform} {R : Option Lead → Option Lead → Prop}
    {phone : String} {records : List ManifestRecord} {db' : Db}
    (kept : ∀ row ∈ manifestRows platform records, row.phone = phone →
      ∀ id id' old old', R old old' → R (some (row.upserted id old)) (some (row.upserted id' old')))
    (start : R (db.leadOfPhone? phone) (db'.leadOfPhone? phone)) :
    R ((importOrm platform db records).leadOfPhone? phone)
    ((importOrm platform db' records).leadOfPhone? phone) := by
  have each : ∀ batch ∈ chunks 10000 records, ∀ row ∈ manifestRows platform batch,
    row.phone = phone → ∀ id id' old old', R old old' →
        R (some (row.upserted id old)) (some (row.upserted id' old')) := by
    intro batch member row read
    obtain ⟨record, inBatch, parsed⟩ := mem_filterMap.mp read
    refine kept row (mem_filterMap.mpr ⟨record, ?_, parsed⟩)
    rw [← flatten_chunks (by decide : 0 < 10000) records]
    exact List.mem_flatten.mpr ⟨batch, member, inBatch⟩
  unfold importOrm
  generalize chunks 10000 records = batches at each ⊢
  induction batches generalizing db db' with
  | nil => exact start
  | cons batch batches ih =>
    obtain ⟨here, later⟩ := forall_mem_cons.mp each
    exact ih (importBatch_relates here start) later

theorem importOrm_induct {platform : ManifestPlatform} {P : Option Lead → Prop} {phone : String}
    {records : List ManifestRecord}
    (kept : ∀ row ∈ manifestRows platform records, row.phone = phone → ∀ id old, P old →
      P (some (row.upserted id old)))
    (start : P (db.leadOfPhone? phone)) : P ((importOrm platform db records).leadOfPhone? phone) :=
  @importOrm_relates db platform (fun old _ => P old) phone records db
    (fun row member named id _ old _ holds => kept row member named id old holds) start

theorem upsertLead_frame (db : Db) (row : ManifestRow) :
    ∃ leads leadSeq, upsertLead true db row = { db with leads, leadSeq } := by
  unfold upsertLead
  split
  · exact ⟨_, _, rfl⟩
  split <;> exact ⟨_, db.leadSeq, rfl⟩

theorem upsertLeads_frame (db : Db) (rows : List ManifestRow) :
    ∃ leads leadSeq, rows.foldl (upsertLead true) db = { db with leads, leadSeq } := by
  induction rows generalizing db with
  | nil => exact ⟨db.leads, db.leadSeq, rfl⟩
  | cons row rows ih =>
    obtain ⟨leads, leadSeq, first⟩ := upsertLead_frame db row
    obtain ⟨leads', leadSeq', rest⟩ := ih (upsertLead true db row)
    refine ⟨leads', leadSeq', rest.trans ?_⟩
    rw [first]

theorem importBatch_frame (db : Db) (batch : List ManifestRecord) :
    ∃ leads leadSeq events eventSeq, importBatch platform db batch =
    { db with leads, leadSeq, events, eventSeq } := by
  obtain ⟨leads, leadSeq, upserted⟩ := upsertLeads_frame db (firstRows (manifestRows platform batch))
  obtain ⟨events, eventSeq, recorded⟩ :=
    recordLegacies_frame db.events.length
    (upsertLeadBatch true db (manifestRows platform batch)) (manifestRows platform batch)
  refine ⟨leads, leadSeq, events, eventSeq, recorded.trans ?_⟩
  unfold upsertLeadBatch
  rw [upserted]

theorem importOrm_frame (db : Db) (records : List ManifestRecord) :
    ∃ leads leadSeq events eventSeq, importOrm platform db records =
    { db with leads, leadSeq, events, eventSeq } := by
  unfold importOrm
  induction chunks 10000 records generalizing db with
  | nil => exact ⟨db.leads, db.leadSeq, db.events, db.eventSeq, rfl⟩
  | cons batch batches ih =>
    obtain ⟨leads, leadSeq, events, eventSeq, first⟩ := importBatch_frame platform db batch
    obtain ⟨leads', leadSeq', events', eventSeq', rest⟩ := ih (importBatch platform db batch)
    refine ⟨leads', leadSeq', events', eventSeq', rest.trans ?_⟩
    rw [first]

theorem importOrm_closed {platform : ManifestPlatform} {P : Db → Prop} (closed : RegistryClosed P)
    (records : List ManifestRecord) (holds : P db) : P (importOrm platform db records) := by
  have upserts : ∀ (rows : List ManifestRow) (db : Db), P db → P (rows.foldl (upsertLead true) db) := by
    intro rows
    induction rows with
    | nil => exact fun _ holds => holds
    | cons row rows ih => exact fun db holds => ih _ (upsertLead_closed closed row holds)
  unfold importOrm
  induction chunks 10000 records generalizing db with
  | nil => exact holds
  | cons batch batches ih =>
    refine ih ?_
    obtain ⟨_, _, recorded⟩ := recordLegacies_frame db.events.length
      (upsertLeadBatch true db (manifestRows platform batch)) (manifestRows platform batch)
    unfold importBatch
    rw [recorded]
    exact closed.congr (upserts (firstRows (manifestRows platform batch)) db holds) rfl (Nat.le_refl _)

end

section
variable {platform : ManifestPlatform} {db : Db} {rows : List ManifestRow}

theorem leadOfPhone?_mergeLead (db : Db) (row : ManifestRow) (other : String) :
    (mergeLead db row).leadOfPhone? other =
    if row.phone = other then some (row.merged (db.leadSeq + 1) (db.leadOfPhone? other)) else
    db.leadOfPhone? other := by
  have kept : ∀ old : Lead, old.phone = row.phone → (row.merge old).phone = old.phone := fun _ _ => rfl
  have read : lookup Lead.phone other (mergeLead db row).leads =
      if row.phone = other then
        some ((lookup Lead.phone other db.leads).elim (row.newLead (db.leadSeq + 1)) row.merge)
      else lookup Lead.phone other db.leads :=
    @Rows.lookup_upsert _ _ _ Lead.phone other db.leads (row.newLead (db.leadSeq + 1))
      (fun old _ => row.merge old) kept
  refine read.trans ?_
  unfold ManifestRow.merged Db.leadOfPhone?
  cases lookup Lead.phone other db.leads <;> rfl

theorem mergeGroups_lead (db : Db) {aggregate : String → ManifestRow}
    (named : ∀ phone, (aggregate phone).phone = phone) {phones : List String}
    (distinct : phones.Nodup) (phone : String) :
    (phone ∉ phones → ((phones.map aggregate).foldl mergeLead db).leadOfPhone? phone =
      db.leadOfPhone? phone) ∧
    (phone ∈ phones → ∃ id, ((phones.map aggregate).foldl mergeLead db).leadOfPhone? phone =
    some ((aggregate phone).merged id (db.leadOfPhone? phone))) := by
  induction phones generalizing db with
  | nil => exact ⟨fun _ => rfl, fun member => absurd member not_mem_nil⟩
  | cons first phones ih =>
  obtain ⟨fresh, distinct⟩ := nodup_cons.mp distinct
  obtain ⟨unnamed, grouped⟩ := ih (mergeLead db (aggregate first)) distinct
  rw [leadOfPhone?_mergeLead, named] at unnamed grouped
  rw [map_cons, foldl_cons, mem_cons]
  by_cases here : first = phone
  · subst here
    rw [if_pos rfl] at unnamed
    exact ⟨fun absent => absurd (.inl rfl) absent, fun _ => ⟨_, unnamed fresh⟩⟩
  rw [if_neg here] at unnamed grouped
  refine ⟨fun absent => unnamed fun member => absent (.inr member), fun member => ?_⟩
  rcases member with same | later
  · exact absurd same.symm here
  · exact grouped later

theorem insertDelivery_frame (db : Db) (key : Nat × Option Nat × Instant × String) :
    ∃ events eventSeq, insertDelivery db key = { db with events, eventSeq } := by
  unfold insertDelivery
  split
  · exact ⟨db.events, db.eventSeq, rfl⟩
  · exact ⟨_, _, rfl⟩

theorem insertDeliveries_frame (db : Db) (keys : List (Nat × Option Nat × Instant × String)) :
    ∃ events eventSeq, keys.foldl insertDelivery db = { db with events, eventSeq } := by
  induction keys generalizing db with
  | nil => exact ⟨db.events, db.eventSeq, rfl⟩
  | cons key keys ih =>
    obtain ⟨events, eventSeq, first⟩ := insertDelivery_frame db key
    obtain ⟨events', eventSeq', rest⟩ := ih (insertDelivery db key)
    refine ⟨events', eventSeq', rest.trans ?_⟩
    rw [first]

theorem mergeLeads_frame (db : Db) (groups : List ManifestRow) :
    ∃ leads leadSeq, groups.foldl mergeLead db = { db with leads, leadSeq } := by
  induction groups generalizing db with
  | nil => exact ⟨db.leads, db.leadSeq, rfl⟩
  | cons row rows ih =>
    obtain ⟨leads, leadSeq, rest⟩ := ih (mergeLead db row)
    exact ⟨leads, leadSeq, rest⟩

theorem importPostgresql_frame (platform : ManifestPlatform) (db : Db)
    (records : List ManifestRecord) : ∃ leads leadSeq events eventSeq,
      importPostgresql platform db records = { db with leads, leadSeq, events, eventSeq } := by
  unfold importPostgresql mergeLeads
  dsimp only
  generalize (chunks 50000 records).flatMap (manifestRows platform) = stage
  obtain ⟨leads, leadSeq, merged⟩ := mergeLeads_frame db
    ((stage.map ManifestRow.phone).dedup.map fun phone => aggregateRows platform phone stage)
  rw [merged]
  obtain ⟨events, eventSeq, inserted⟩ :=
    insertDeliveries_frame { db with leads, leadSeq } (stagedDeliveries { db with leads, leadSeq } stage)
  exact ⟨leads, leadSeq, events, eventSeq, inserted⟩

theorem mergeGroups_closed {P : Db → Prop} (closed : RegistryClosed P) (groups : List ManifestRow)
    (holds : P db) : P (groups.foldl mergeLead db) := by
  induction groups generalizing db with
  | nil => exact holds
  | cons row rows ih => exact ih (closed.upsert rfl (merge_revises row) holds)

theorem importPostgresql_closed {P : Db → Prop} (closed : RegistryClosed P)
    (records : List ManifestRecord) (holds : P db) : P (importPostgresql platform db records) := by
  unfold importPostgresql mergeLeads
  dsimp only
  generalize (chunks 50000 records).flatMap (manifestRows platform) = stage
  have holds := mergeGroups_closed closed
    ((stage.map ManifestRow.phone).dedup.map fun phone => aggregateRows platform phone stage) holds
  generalize ((stage.map ManifestRow.phone).dedup.map fun phone =>
    aggregateRows platform phone stage).foldl mergeLead db = merged at holds ⊢
  obtain ⟨events, eventSeq, inserted⟩ := insertDeliveries_frame merged (stagedDeliveries merged stage)
  rw [inserted]
  exact closed.congr holds rfl (Nat.le_refl _)

theorem manifestRows_chunks (size : Nat) (positive : 0 < size) (records : List ManifestRecord) :
    (chunks size records).flatMap (manifestRows platform) = manifestRows platform records := by
  have joined : (chunks size records).flatMap (manifestRows platform) =
      manifestRows platform (chunks size records).flatten := by
    unfold manifestRows
    rw [List.filterMap_flatten, List.flatMap_def]
  rw [joined, flatten_chunks positive]

theorem aggregate_phone (platform : ManifestPlatform) (rows : List ManifestRow) (phone : String) :
    (aggregateRows platform phone rows).phone = phone := rfl

theorem maxDate_reaches {dates : List (Option Instant)} {at_ : Instant} (dated : some at_ ∈ dates) :
    ∃ date ∈ maxDate dates, at_ ≤ date := by
  have later : ∀ (dates : List (Option Instant)) (last : Option Instant),
      ((∃ date ∈ last, at_ ≤ date) ∨ some at_ ∈ dates) → ∃ date ∈ dates.foldl laterDate last,
        at_ ≤ date := by
    intro dates
    induction dates with
    | nil => exact fun _ held => held.resolve_right not_mem_nil
    | cons date dates ih =>
    intro last held
    refine ih (laterDate last date) ?_
    rcases held with before | member
    · exact .inl (laterDate_reaches (.inl before))
    rcases mem_cons.mp member with rfl | rest
    · exact .inl (laterDate_reaches (.inr ⟨at_, rfl, le_refl _⟩))
    · exact .inr rest
  exact later dates none (.inr dated)

theorem mem_insertDeliveries {keys : List (Nat × Option Nat × Instant × String)} {e : DistributionEvent}
    (member : e ∈ (keys.foldl insertDelivery db).events) : e ∈ db.events ∨ e.legacyKey ∈ keys := by
  induction keys generalizing db with
  | nil => exact .inl member
  | cons key keys ih =>
  rcases ih member with before | later
  · unfold insertDelivery at before
    split at before
    · exact .inl before
    rcases mem_append.mp before with old | new
    · exact .inl old
    rw [mem_singleton.mp new]
    exact .inr mem_cons_self
  · exact .inr (mem_cons_of_mem _ later)

theorem mem_stagedDeliveries {rows : List ManifestRow} {key : Nat × Option Nat × Instant × String}
    (member : key ∈ stagedDeliveries db rows) :
    ∃ row ∈ rows, ∃ lead, db.leadOfPhone? row.phone = some lead ∧ key.1 = lead.id ∧
    row.lastDistributedAt = some key.2.2.1 := by
  obtain ⟨row, inRows, staged⟩ := mem_filterMap.mp (List.mem_dedup.mp member)
  unfold stagedDelivery at staged
  split at staged
  case h_1 date lead dated found =>
    split at staged
    · cases staged
    cases staged
    exact ⟨row, inRows, lead, found, rfl, dated⟩
  · cases staged

theorem importPostgresql_lead (platform : ManifestPlatform) (db : Db)
    (records : List ManifestRecord) (phone : String) :
    ((∀ row ∈ manifestRows platform records, row.phone ≠ phone) →
      (importPostgresql platform db records).leadOfPhone? phone = db.leadOfPhone? phone) ∧
    ((∃ row ∈ manifestRows platform records, row.phone = phone) →
    ∃ id, (importPostgresql platform db records).leadOfPhone? phone =
    some ((aggregateRows platform phone (manifestRows platform records)).merged id
    (db.leadOfPhone? phone))) := by
  unfold importPostgresql
  rw [manifestRows_chunks 50000 (by decide)]
  obtain ⟨events, eventSeq, frame⟩ :=
    insertDeliveries_frame (mergeLeads platform db (manifestRows platform records))
      (stagedDeliveries (mergeLeads platform db (manifestRows platform records))
        (manifestRows platform records))
  rw [frame]
  obtain ⟨unnamed, grouped⟩ :=
    mergeGroups_lead db (aggregate_phone platform (manifestRows platform records))
      (List.nodup_dedup ((manifestRows platform records).map ManifestRow.phone)) phone
  simp only [List.mem_dedup, mem_map, not_exists, not_and] at unnamed grouped
  exact ⟨unnamed, grouped⟩

theorem maxText_mem {texts : List String} {text : String}
    (top : maxText platform texts = some text) : text ∈ texts := by
  induction texts using reverseRecOn generalizing text with
  | nil => cases top
  | append_singleton texts x ih =>
  unfold maxText at top ih
  rw [foldl_append, foldl_cons, foldl_nil] at top
  split at top
  · cases top
    exact mem_append_right _ mem_cons_self
  case h_2 t earlier =>
  split at top
  · cases top
    exact mem_append_right _ mem_cons_self
  · cases top
    exact mem_append_left _ (ih earlier)

theorem maxText_isSome (platform : ManifestPlatform) {texts : List String} (present : texts ≠ []) :
    ∃ text, maxText platform texts = some text := by
  induction texts using reverseRecOn with
  | nil => exact absurd rfl present
  | append_singleton texts x ih =>
    unfold maxText
    rw [foldl_append, foldl_cons, foldl_nil]
    split
    · exact ⟨_, rfl⟩
    split <;> exact ⟨_, rfl⟩

theorem aggregate_state (platform : ManifestPlatform) {phone : String}
    (named : ∃ row ∈ rows, row.phone = phone) :
    ∃ row ∈ rows, row.phone = phone ∧ (aggregateRows platform phone rows).state = row.state := by
  obtain ⟨row, member, here⟩ := named
  have inOwn : row ∈ rows.filter fun row => row.phone = phone := mem_filter.mpr ⟨member, decide_eq_true here⟩
  obtain ⟨top, found⟩ := maxText_isSome platform (ne_nil_of_mem (mem_map_of_mem inOwn))
  obtain ⟨source, own, same⟩ := mem_map.mp (maxText_mem found)
  obtain ⟨stored, named⟩ := mem_filter.mp own
  refine ⟨source, stored, of_decide_eq_true named, ?_⟩
  change (maxText platform _).getD "" = source.state
  rw [found, same]
  rfl

end

section
variable {platform : ManifestPlatform} {backend : Backend} {db : Db} {records : List ManifestRecord}

theorem importedBy_frame (platform : ManifestPlatform) (backend : Backend) (db : Db)
    (records : List ManifestRecord) :
    ∃ leads leadSeq events eventSeq,
      importedBy platform backend db records = { db with leads, leadSeq, events, eventSeq } := by
  cases backend with
  | orm => exact importOrm_frame platform db records
  | postgresql => exact importPostgresql_frame platform db records

theorem importedBy_closed {P : Db → Prop} (closed : RegistryClosed P) (holds : P db) :
    P (importedBy platform backend db records) := by
  cases backend with
  | orm => exact importOrm_closed closed records holds
  | postgresql => exact importPostgresql_closed closed records holds

theorem importedBy_unnamed {phone : String}
    (unnamed : ∀ row ∈ manifestRows platform records, row.phone ≠ phone) :
    (importedBy platform backend db records).leadOfPhone? phone = db.leadOfPhone? phone := by
  cases backend with
  | orm =>
    refine importOrm_induct (P := fun old => old = db.leadOfPhone? phone) ?_ rfl
    exact fun row member here => absurd here (unnamed row member)
  | postgresql => exact (importPostgresql_lead platform db records phone).1 unnamed

/-- What an upsert of a row and a merge of an aggregate both keep of the Lead of a phone, a manifest
keeps. -/
theorem importedBy_induct {P : Option Lead → Prop} {phone : String}
    (upserts : ∀ row ∈ manifestRows platform records, row.phone = phone → ∀ id old, P old →
      P (some (row.upserted id old)))
    (merges : (∃ row ∈ manifestRows platform records, row.phone = phone) → ∀ id old, P old →
      P (some ((aggregateRows platform phone (manifestRows platform records)).merged id old)))
    (start : P (db.leadOfPhone? phone)) :
    P ((importedBy platform backend db records).leadOfPhone? phone) := by
  cases backend with
  | orm => exact importOrm_induct upserts start
  | postgresql =>
  obtain ⟨unnamed, grouped⟩ := importPostgresql_lead platform db records phone
  by_cases named : ∃ row ∈ manifestRows platform records, row.phone = phone
  · obtain ⟨id, read⟩ := grouped named
    change P ((importPostgresql platform db records).leadOfPhone? phone)
    rw [read]
    exact merges named id _ start
  change P ((importPostgresql platform db records).leadOfPhone? phone)
  rw [unnamed fun row member here => named ⟨row, member, here⟩]
  exact start

end

def datedManifests : ManifestPlatform where
  casing := plainCasing
  digit := Char.isDigit
  dateFromisoformat := fun text =>
    if text = "day 0" then some 0 else if text = "day 3" then some (days 3) else
      if text = "day 30" then some (days 30) else none
  collatesBefore := fun a b => a < b

def deliveryRow (date : String) : ManifestRecord :=
  { phone := some "2025550101", title := some "Plumbing", state := some "TX", agent := some "acme",
    dateDistributed := some date }

def acmeDb : Db := { customers := [{ id := 1, slug := "acme" }, { id := 2, slug := "globex" }] }

end Jawnix
