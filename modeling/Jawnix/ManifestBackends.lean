import Jawnix.ManifestLeads

/-!
# One manifest, two backends

The ORM folds a manifest batch by batch into the Leads, heeding the first row of
each phone, and raises where it would compare a row with a date that is stored;
PostgreSQL aggregates the whole file. The two agree where the first rows are as the
aggregate, where a Lead of DB2 alone is moved to DB1 without loss, where the dates
are new, and where no dated row names a recipient.
-/
namespace Jawnix

def Lead.entry (lead : Lead) : Bool × Option Uuid × String × String × Option Instant :=
  (lead.inDb1, lead.activeCorrectionId, lead.title, lead.state, lead.lastDistributedAt)

/-- The same inventory under other identities, and the same deliveries. -/
structure Agrees (db other : Db) : Prop where
  audits : other.audits = db.audits
  events : other.events = db.events
  leads : ∀ phone, (other.leadOfPhone? phone).map Lead.entry = (db.leadOfPhone? phone).map Lead.entry

section
variable {platform : ManifestPlatform} {row a : ManifestRow} {lead acc : Lead} {old : Option Lead}

/-- The row says of its Lead what the aggregate says. -/
def ManifestRow.Alike (row a : ManifestRow) : Prop :=
  row.title = a.title ∧ row.state = a.state ∧ row.lastDistributedAt = a.lastDistributedAt
  deriving Decidable

/-- A Lead of DB2 alone that a row moves to DB1 without loss. -/
def ManifestRow.Moves (row : ManifestRow) (lead : Lead) : Prop :=
  lead.activeCorrectionId = none ∧ (row.title ≠ "" ∨ lead.title = "") ∧
    ∀ date ∈ row.lastDistributedAt, lead.Reached date
  deriving Decidable

theorem laterDate_again (last date : Option Instant) :
    laterDate (laterDate last date) date = laterDate last date := by
  cases date with
  | none => cases last <;> rfl
  | some date =>
    cases last with
    | none => simp [laterDate]
    | some last => by_cases later : last < date <;> simp [laterDate, later]

theorem laterDate_of_reached {date : Option Instant} (reached : ∀ at_ ∈ date, lead.Reached at_) :
    laterDate lead.lastDistributedAt date = lead.lastDistributedAt := by
  cases date with
  | none => cases lead.lastDistributedAt <;> rfl
  | some date =>
    obtain ⟨last, named, later⟩ := reached date rfl
    rw [mem_def] at named
    rw [named]
    exact if_neg (not_lt.mpr later)

theorem merged_entry_congr {other : Option Lead} (id id' : Nat)
    (same : other.map Lead.entry = old.map Lead.entry) :
    (a.merged id' other).entry = (a.merged id old).entry := by
  cases old with
  | none =>
    cases other with
    | none => rfl
    | some lead => cases same
  | some lead =>
  cases other with
  | none => cases same
  | some lead' =>
    obtain ⟨_, active, title, _, last⟩ : lead'.inDb1 = lead.inDb1 ∧
      lead'.activeCorrectionId = lead.activeCorrectionId ∧
        lead'.title = lead.title ∧ lead'.state = lead.state ∧
          lead'.lastDistributedAt = lead.lastDistributedAt := by
      simpa [Lead.entry] using same
    simp only [ManifestRow.merged, ManifestRow.merge, Lead.entry, active, title, last]

theorem upserted_entry (alike : row.Alike a)
    (moves : ∀ lead ∈ old, lead.inDb1 = false → row.Moves lead) (id id' : Nat) :
    (row.upserted id old).entry = (a.merged id' old).entry := by
  obtain ⟨title, state, last⟩ := alike
  cases old with
  | none => simp only [ManifestRow.upserted, ManifestRow.merged, ManifestRow.newLead, Lead.entry,
      title, state, last]
  | some lead =>
  rw [ManifestRow.upserted]
  split
  case isTrue outside =>
    obtain ⟨free, titled, reached⟩ := moves lead rfl outside
    rw [title] at titled
    rw [last] at reached
    have kept : (if a.title = "" then lead.title else a.title) = a.title := by
      rcases titled with titled | bare
      · rw [if_neg titled]
      split
      case isTrue empty => rw [bare, empty]
      · rfl
    simp only [ManifestRow.enter, if_pos free, ManifestRow.merged, ManifestRow.merge, Lead.entry,
      title, state, kept, laterDate_of_reached reached]
  case isFalse inside =>
  obtain ⟨_, _, frame⟩ := overwrite_frame row lead
  have inside : lead.inDb1 := by simpa using inside
  simp only [frame, ManifestRow.merged, ManifestRow.merge, Lead.entry, title, state, last, inside]

theorem upserted_entry_again (alike : row.Alike a) (id id' : Nat)
    (same : acc.entry = (a.merged id' old).entry) :
    (row.upserted id (some acc)).entry = (a.merged id' old).entry := by
  obtain ⟨title, state, last⟩ := alike
  obtain ⟨inside, active, shown, named, dated⟩ : acc.inDb1 = (a.merged id' old).inDb1 ∧
      acc.activeCorrectionId = (a.merged id' old).activeCorrectionId ∧ acc.title = (a.merged id' old).title ∧
      acc.state = (a.merged id' old).state ∧ acc.lastDistributedAt =
        (a.merged id' old).lastDistributedAt := by
    simpa [Lead.entry] using same
  rw [merged_inDb1] at inside
  obtain ⟨_, _, frame⟩ := overwrite_frame row acc
  have titles : (if a.title = "" then (a.merged id' old).title else a.title) = (a.merged id' old).title := by
    split
    · rfl
    case isFalse titled =>
    cases old with
    | none => rfl
    | some lead => exact (if_neg titled).symm
  have states : a.state = (a.merged id' old).state := by
    cases old <;> rfl
  have dates : laterDate (a.merged id' old).lastDistributedAt a.lastDistributedAt =
    (a.merged id' old).lastDistributedAt := by
    cases old with
    | none =>
      change laterDate a.lastDistributedAt a.lastDistributedAt = a.lastDistributedAt
      cases a.lastDistributedAt with
      | none => rfl
      | some date => simp [laterDate]
    | some lead => exact laterDate_again _ _
  rw [ManifestRow.upserted, if_neg (by simp [inside]), frame]
  simp only [Lead.entry, inside, active, title, shown, titles, state, last, dated, dates, merged_inDb1]
  rw [← states]

/-- What the ORM can import without raising or writing a delivery: a phone with a dated row
has no dated Lead in DB1, is in one batch only, and is dated without a recipient. -/
@[mk_iff]
structure Admitted (platform : ManifestPlatform) (db : Db) (batches : List (List ManifestRecord)) :
    Prop where
  undated : ∀ batch ∈ batches, ∀ row ∈ manifestRows platform batch, row.lastDistributedAt ≠ none →
    ∀ lead ∈ db.leadOfPhone? row.phone, lead.inDb1 → lead.lastDistributedAt = none
  apart : batches.Pairwise fun batch other => ∀ row ∈ manifestRows platform batch,
    ∀ later ∈ manifestRows platform other, row.phone = later.phone →
      row.lastDistributedAt = none ∧ later.lastDistributedAt = none
  unnamed : ∀ batch ∈ batches, ∀ row ∈ manifestRows platform batch, row.lastDistributedAt ≠ none →
    orElse row.agent "" = ""

instance (platform : ManifestPlatform) (db : Db) (batches : List (List ManifestRecord)) :
    Decidable (Admitted platform db batches) :=
  decidable_of_iff' _ (admitted_iff ..)

/-- The first row of each phone in a batch has the greatest title and state and the latest
date of its rows in the file, and moves its Lead to DB1 without loss. -/
@[mk_iff]
structure Agreeable (platform : ManifestPlatform) (db : Db) (records : List ManifestRecord) :
    Prop where
  leading : ∀ batch ∈ chunks 10000 records, ∀ first ∈ firstRows (manifestRows platform batch),
    first.Alike (aggregateRows platform first.phone (manifestRows platform records))
  moves : ∀ batch ∈ chunks 10000 records, ∀ first ∈ firstRows (manifestRows platform batch),
    ∀ lead ∈ db.leadOfPhone? first.phone, lead.inDb1 = false → first.Moves lead
  admitted : Admitted platform db (chunks 10000 records)

instance (platform : ManifestPlatform) (db : Db) (records : List ManifestRecord) :
    Decidable (Agreeable platform db records) :=
  decidable_of_iff' _ (agreeable_iff ..)

section
variable {platform : ManifestPlatform} {db other : Db} {records : List ManifestRecord} {phone : String}

theorem importOrm_entry {a : ManifestRow} (id : Nat) (firsts : ∀ batch ∈ chunks 10000 records, ∀ first,
    lookup ManifestRow.phone phone (manifestRows platform batch) = some first →
    first.Alike a ∧ ∀ lead ∈ db.leadOfPhone? phone, lead.inDb1 = false → first.Moves lead) :
    ((importOrm platform db records).leadOfPhone? phone).map Lead.entry =
    if ∃ row ∈ manifestRows platform records, row.phone = phone then
    some (a.merged id (db.leadOfPhone? phone)).entry
    else (db.leadOfPhone? phone).map Lead.entry := by
  rw [← manifestRows_chunks 10000 (by decide) records]
  unfold importOrm
  generalize chunks 10000 records = batches at firsts ⊢
  -- once the aggregate has been reached, it stays
  have stays : ∀ (batches : List (List ManifestRecord)) (db' : Db),
      (∀ batch ∈ batches, ∀ first, lookup ManifestRow.phone phone (manifestRows platform batch) =
        some first → first.Alike a) →
      (db'.leadOfPhone? phone).map Lead.entry = some (a.merged id (db.leadOfPhone? phone)).entry →
      ((batches.foldl (importBatch platform) db').leadOfPhone? phone).map Lead.entry =
        some (a.merged id (db.leadOfPhone? phone)).entry := by
    intro batches
    induction batches with
    | nil => exact fun _ _ reached => reached
    | cons batch batches ih =>
    intro db' alike reached
    obtain ⟨here, later⟩ := forall_mem_cons.mp alike
    refine ih _ later ?_
    obtain ⟨unnamed, named⟩ := importBatch_lead platform db' batch phone
    cases found : lookup ManifestRow.phone phone (manifestRows platform batch) with
    | none => rw [unnamed found, reached]
    | some first =>
      obtain ⟨acc, held, same⟩ := map_eq_some_iff.mp reached
      obtain ⟨newId, read⟩ := named first found
      rw [read, held, map_some, upserted_entry_again (here first found) newId id same]
  induction batches generalizing db with
  | nil => simp
  | cons batch batches ih =>
  obtain ⟨here, later⟩ := forall_mem_cons.mp firsts
  obtain ⟨unnamed, named⟩ := importBatch_lead platform db batch phone
  rw [foldl_cons, List.flatMap_cons]
  cases found : lookup ManifestRow.phone phone (manifestRows platform batch) with
  | none =>
    have absent := lookup_none.mp found
    have skipped :
      (∃ row ∈ manifestRows platform batch ++ batches.flatMap (manifestRows platform),
        row.phone = phone) ↔
        ∃ row ∈ batches.flatMap (manifestRows platform), row.phone = phone := by
      constructor
      · rintro ⟨row, member, same⟩
        rcases mem_append.mp member with first | rest
        · exact absurd same (absent row first)
        · exact ⟨row, rest, same⟩
      · exact fun ⟨row, member, same⟩ => ⟨row, mem_append_right _ member, same⟩
    have rest := @ih (importBatch platform db batch) (by rw [unnamed found]; exact later)
      (by rw [unnamed found]; exact stays)
    rw [unnamed found] at rest
    rw [rest]
    simp only [skipped]
  | some first =>
  have member := (lookup_some found)
  obtain ⟨newId, read⟩ := named first found
  obtain ⟨alike, moves⟩ := here first found
  rw [if_pos ⟨first, mem_append_left _ member.1, member.2⟩]
  refine stays batches _ (fun other inRest next named => (later other inRest next named).1) ?_
  rw [read, map_some, upserted_entry alike moves newId id]

theorem Agrees.leads_imported (agrees : Agrees db other) (agreeable : Agreeable platform db records)
    (phone : String) :
    ((importPostgresql platform other records).leadOfPhone? phone).map Lead.entry =
    ((importOrm platform db records).leadOfPhone? phone).map Lead.entry := by
  have firsts : ∀ batch ∈ chunks 10000 records, ∀ first, lookup ManifestRow.phone phone
    (manifestRows platform batch) = some first →
        first.Alike (aggregateRows platform phone (manifestRows platform records)) ∧
          ∀ lead ∈ db.leadOfPhone? phone, lead.inDb1 = false → first.Moves lead := by
    intro batch member first found
    obtain ⟨inFirsts, here⟩ := lookup_some ((lookup_firstRows _ phone).trans found)
    subst here
    exact ⟨agreeable.leading batch member first inFirsts, agreeable.moves batch member first inFirsts⟩
  obtain ⟨unnamed, grouped⟩ := importPostgresql_lead platform other records phone
  rw [importOrm_entry 0 firsts]
  split
  case isTrue named =>
    obtain ⟨id, read⟩ := grouped named
    rw [read, map_some, merged_entry_congr 0 id (agrees.leads phone)]
  case isFalse absent =>
  rw [unnamed fun row member same => absent ⟨row, member, same⟩]
  exact agrees.leads phone

variable {row : ManifestRow} {rows : List ManifestRow} {batch : List ManifestRecord}
  {batches : List (List ManifestRecord)}

theorem recordLegacies_unnamed (stored : Nat)
    (unnamed : ∀ row ∈ rows, row.lastDistributedAt ≠ none → orElse row.agent "" = "") (db : Db) :
    rows.foldl (recordLegacy stored) db = db := by
  induction rows with
  | nil => rfl
  | cons row rows ih =>
    obtain ⟨here, later⟩ := forall_mem_cons.mp unnamed
    have same : recordLegacy stored db row = db := by
      unfold recordLegacy
      split
      case h_1 dated _ => exact if_pos (here (by rw [dated]; exact some_ne_none _))
      · rfl
    rw [foldl_cons, same, ih later]

theorem repeatsDelivery_unnamed (unnamed : row.lastDistributedAt ≠ none → orElse row.agent "" = "") :
    repeatsDelivery db row = false := by
  unfold repeatsDelivery
  split
  case h_1 dated _ => simp [unnamed (by rw [dated]; exact some_ne_none _)]
  · rfl

theorem stagedDelivery_unnamed (unnamed : row.lastDistributedAt ≠ none → orElse row.agent "" = "") :
    stagedDelivery db row = none := by
  unfold stagedDelivery
  split
  case h_1 dated _ =>
    have blank := unnamed (by rw [dated]; exact some_ne_none _)
    refine if_pos ?_
    unfold orElse at blank
    unfold ManifestRow.slug
    cases agent : row.agent with
    | none => rfl
    | some text =>
      rw [agent] at blank
      have empty : text = "" := by simpa using blank
      rw [getD_some, empty]
      rfl
  · rfl

theorem Admitted.later (admitted : Admitted platform db (batch :: batches)) :
    Admitted platform (importBatch platform db batch) batches := by
  obtain ⟨_, undated⟩ := forall_mem_cons.mp admitted.undated
  obtain ⟨apart, rest⟩ := List.pairwise_cons.mp admitted.apart
  refine ⟨fun other inRest row member dated => ?_, rest, (forall_mem_cons.mp admitted.unnamed).2⟩
  have absent : lookup ManifestRow.phone row.phone (manifestRows platform batch) = none :=
    lookup_none.mpr fun before inBatch same =>
      dated (apart other inRest before inBatch row member same).2
  rw [(importBatch_lead platform db batch row.phone).1 absent]
  exact undated other inRest row member dated

/-- The ORM raises nothing and writes no delivery. -/
theorem importBatches_quiet (admitted : Admitted platform db batches) (earlier : List ManifestRow) :
    ormFault platform db earlier batches = none ∧
      (batches.foldl (importBatch platform) db).events = db.events := by
  induction batches generalizing db earlier with
  | nil => exact ⟨rfl, rfl⟩
  | cons batch batches ih =>
  obtain ⟨quiet, kept⟩ := ih admitted.later (earlier ++ manifestRows platform batch)
  obtain ⟨here, _⟩ := forall_mem_cons.mp admitted.unnamed
  have compares : (firstRows (manifestRows platform batch)).any
      (comparesStored platform db earlier) = false := by
    refine any_eq_false.mpr fun first member compares => ?_
    simp only [comparesStored, and_eq_true, Option.any_eq_true] at compares
    obtain ⟨⟨dated, lead, held, inside, stored⟩, _⟩ := compares
    have none := admitted.undated batch mem_cons_self first (mem_firstRows member)
      (Option.isSome_iff_ne_none.mp dated) lead held inside
    rw [none] at stored
    cases stored
  have repeats : (manifestRows platform batch).any
      (repeatsDelivery (upsertLeadBatch true db (manifestRows platform batch))) = false :=
    any_eq_false.mpr fun row member repeats => by
      rw [repeatsDelivery_unnamed (here row member)] at repeats
      cases repeats
  refine ⟨?_, kept.trans ?_⟩
  · rw [ormFault]
    simp [compares, repeats, quiet]
  · rw [importBatch, recordLegacies_unnamed _ here]
    obtain ⟨_, _, frame⟩ := upsertLeads_frame db (firstRows (manifestRows platform batch))
    rw [upsertLeadBatch, frame]

theorem importPostgresql_quiet (admitted : Admitted platform db (chunks 10000 records)) :
    (importPostgresql platform other records).events = other.events := by
  have none : ∀ db : Db, stagedDeliveries db (manifestRows platform records) = [] := by
    intro db
    have unstaged : (manifestRows platform records).filterMap (stagedDelivery db) = [] := by
      refine List.filterMap_eq_nil_iff.mpr fun row member => ?_
      rw [← manifestRows_chunks 10000 (by decide) records] at member
      obtain ⟨batch, inFile, inBatch⟩ := List.mem_flatMap.mp member
      exact stagedDelivery_unnamed (admitted.unnamed batch inFile row inBatch)
    rw [stagedDeliveries, unstaged]
    rfl
  obtain ⟨_, _, frame⟩ := mergeLeads_frame other (((manifestRows platform records).map
    ManifestRow.phone).dedup.map fun phone => aggregateRows platform phone (manifestRows platform records))
  rw [importPostgresql, manifestRows_chunks 50000 (by decide), none, List.foldl_nil, mergeLeads, frame]

end

end

structure ManifestImport where
  path : String
  checksum : String
  file : ManifestFile

section
variable (platform : ManifestPlatform)

def manifestImportStep (backend : Backend) (db : Db) (op : ManifestImport) : Db :=
  commit db (importManifest platform backend db op.path op.checksum op.file)

def AgreeableImport (db : Db) (op : ManifestImport) : Prop :=
  db.auditedFile op.path op.checksum = false → op.file.hasColumns → Agreeable platform db op.file.records
  deriving Decidable

end

section
variable {platform : ManifestPlatform} {db other : Db}

theorem manifestImportStep_eq (platform : ManifestPlatform) (backend : Backend) (db : Db)
    (op : ManifestImport)
    (quiet : backend = .orm → db.auditedFile op.path op.checksum = false → op.file.hasColumns →
      ormFault platform db [] (chunks 10000 op.file.records) = none) :
    manifestImportStep platform backend db op =
      if db.auditedFile op.path op.checksum ∨ op.file.hasColumns = false then db
      else
        { importedBy platform backend db op.file.records with
          audits := (importedBy platform backend db op.file.records).audits ++
            [manifestAudit platform op.path op.checksum op.file] } := by
  unfold manifestImportStep importManifest
  cases audited : db.auditedFile op.path op.checksum with
  | true => simp [commit]
  | false =>
    cases header : op.file.hasColumns with
    | false => simp [commit]
    | true =>
      cases backend with
      | orm => simp [commit, quiet rfl audited header]
      | postgresql => simp [commit]

theorem Agrees.step (agrees : Agrees db other) {op : ManifestImport}
    (guard : AgreeableImport platform db op) :
    Agrees (manifestImportStep platform .orm db op) (manifestImportStep platform .postgresql other op) := by
  have audited : other.auditedFile op.path op.checksum = db.auditedFile op.path op.checksum := by
    unfold Db.auditedFile
    rw [agrees.audits]
  rw [manifestImportStep_eq platform .orm db op fun _ fresh header =>
      (importBatches_quiet (guard fresh header).admitted []).1,
    manifestImportStep_eq platform .postgresql other op nofun, audited]
  split
  · exact agrees
  case isFalse read =>
  obtain ⟨fresh, header⟩ := not_or.mp read
  have agreeable : Agreeable platform db op.file.records :=
    guard (by simpa using fresh) (by simpa using header)
  obtain ⟨_, _, _, _, orm⟩ := importOrm_frame platform db op.file.records
  obtain ⟨_, _, _, _, postgresql⟩ := importPostgresql_frame platform other op.file.records
  refine ⟨?_, ?_, fun phone => agrees.leads_imported agreeable phone⟩
  · change (importPostgresql platform other op.file.records).audits ++ _ =
      (importOrm platform db op.file.records).audits ++ _
    rw [orm, postgresql]
    exact congrArg (· ++ _) agrees.audits
  · exact (importPostgresql_quiet agreeable.admitted).trans
      (agrees.events.trans (importBatches_quiet agreeable.admitted []).2.symm)

end

end Jawnix
