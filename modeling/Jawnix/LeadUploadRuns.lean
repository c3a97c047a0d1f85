import Jawnix.CsvPass
import Jawnix.RetainedRows
import Jawnix.Worker

/-!
# Crashes and retries of a CSV import

Attempts to import one upload follow each other in any number, each cut off between
any two of its transactions. Between them the worker's failure handler runs, the
upload is sent again, and other transactions write other uploads. Every pass over
the same file writes the same last row for each phone, so the pass that completes
leaves exactly those.
-/
namespace Jawnix

/-- An upload with the file it was made for. -/
structure Submission (platform : ImportPlatform) where
  upload : LeadUpload
  octets : List UInt8
  checksum : platform.sha256 octets = upload.sha256

section
variable {platform : ImportPlatform} (sub : Submission platform) (s : Importer)

def Submission.file : List ImportRow := validRows platform (platform.readCsv sub.octets)
def Submission.phones : List String := (sub.file.map ImportRow.phone).dedup

def Submission.Counts (p : Progress) : Prop :=
  CountsFile platform (platform.readCsv sub.octets) p

/-- Other transactions keep every Lead, and touch neither the upload nor its rows. -/
@[mk_iff]
structure LeavesImport (id : Uuid) (s : Importer) (tables : Db) (source : SourceDb) : Prop where
  schema : LeadSchema tables
  leads : LeadsKept s.db.leads tables.leads
  upload : tables.upload? id = s.db.upload? id
  members : Keyed LeadDatabaseMembership.leadId tables.memberships
  memberships : ∀ m ∈ tables.memberships, m.uploadId = id → m ∈ s.db.memberships
  uploads : Keyed SourceUpload.id source.uploads
  keyed : Keyed SourceRow.key source.rows
  phones : Keyed SourceRow.phoneKey source.rows
  sourceUpload : source.upload? id = s.source.upload? id
  rows : source.rows.filter (fun r => r.uploadId = id) = s.source.rows.filter fun r => r.uploadId = id

instance (id : Uuid) (s : Importer) (tables : Db) (source : SourceDb) :
    Decidable (LeavesImport id s tables source) :=
  decidable_of_iff' _ (leavesImport_iff ..)

inductive ImportOp where
  | start
  | advance (jobId : Option Nat) (stored : Option (List UInt8)) (now : Instant)
  | crash
  | interrupted (job : Job) (exc : JobException) (now : Instant)
  | retry (now : Instant)
  | elsewhere (tables : Db) (source : SourceDb)

/-- A stored file is the submitted one, or its digest differs. -/
def Submission.Stored : ImportOp → Prop
  | .advance _ stored _ => ∀ octets ∈ stored, platform.sha256 octets = sub.upload.sha256 →
      octets = sub.octets
  | _ => True

/-- One attempt at a time; everything else may come between its transactions. -/
def importStep (platform : ImportPlatform) (uploadId : Uuid) (s : Importer) (op : ImportOp) : Importer :=
  match op with
  | .start => if s.phase = .idle then beginImport s uploadId else s
  | .advance jobId stored now => advanceImport platform jobId s stored now
  | .crash => { s with phase := .idle }
  | .interrupted job exc now => { s with db := importFailed s.db job exc now }
  | .retry now => { s with db := commit s.db (retryUpload s.db uploadId now) }
  | .elsewhere tables source => if LeavesImport uploadId s tables source then
      { s with db := tables, source } else s

structure PublishedCounts (item : LeadUpload) : Prop where
  file : sub.Counts ⟨item.processedRows, item.validRows, item.rejectedRows⟩
  split : item.validRows = item.importedRows + item.updatedRows + item.duplicateRows
  distinct : item.importedRows + item.updatedRows = sub.phones.length

structure Tables : Prop where
  schema : LeadSchema s.db
  uploads : Keyed SourceUpload.id s.source.uploads
  rows : RowsSound s.db.leads sub.file sub.upload s.source.rows
  phones : Keyed SourceRow.phoneKey s.source.rows
  members : Keyed LeadDatabaseMembership.leadId s.db.memberships
  digest : ∀ e ∈ s.source.upload? sub.upload.id, e.sha256 = sub.upload.sha256
  ready : ∀ e ∈ s.source.upload? sub.upload.id, e.ready →
    Retained sub.upload s.source.rows sub.file ∧ sub.Counts e.progress
  item : ∃ item, s.db.upload? sub.upload.id = some item ∧ item.sha256 = sub.upload.sha256 ∧
    (item.status = .complete ↔ s.publications = 1) ∧ (s.publications = 1 → PublishedCounts sub item)
  once : s.publications ≤ 1
  published : s.publications = 1 → s.source.isReady sub.upload.id
  unpublished : s.publications = 0 → ∀ m ∈ s.db.memberships, m.uploadId ≠ sub.upload.id

def Submission.IsRead (upload : LeadUpload) : Prop :=
  upload.id = sub.upload.id ∧ upload.sha256 = sub.upload.sha256

structure InPass (upload : LeadUpload) (pass : CsvRun) (done todo : List Chunk) : Prop where
  upload : sub.IsRead upload
  chunks : pass.chunks = done ++ todo
  isPass : pass = csvChunks platform (platform.readCsv sub.octets)
  underway : ∃ e, s.source.upload? sub.upload.id = some e ∧ e.ready = false
  retained : Retained sub.upload s.source.rows (done.flatMap Chunk.rows)

def PhaseSound : Prop :=
  match s.phase with
  | .idle => True
  | .opening upload => sub.IsRead upload ∧ s.publications = 0
  | .registering upload pass chunks => ∃ done, InPass sub s upload pass done chunks
  | .retaining upload pass chunk ids chunks =>
    (∃ done, InPass sub s upload pass done (chunk :: chunks)) ∧ ∀ entry ∈ ids,
      HasLead s.db.leads entry.2 entry.1
  | .counting upload pass _ chunks => ∃ done, InPass sub s upload pass done chunks
  | .publishing upload progress =>
    sub.IsRead upload ∧ s.publications = 0 ∧ ∃ e, s.source.upload? sub.upload.id = some e ∧
      e.ready ∧ e.progress = progress
  | .refusing upload _ _ => sub.IsRead upload ∧ s.publications = 0

structure Submitted : Prop where
  schema : LeadSchema s.db
  members : Keyed LeadDatabaseMembership.leadId s.db.memberships
  uploads : Keyed SourceUpload.id s.source.uploads
  keyed : Keyed SourceRow.key s.source.rows
  phones : Keyed SourceRow.phoneKey s.source.rows
  item : s.db.upload? sub.upload.id = some sub.upload
  queued : sub.upload.status = .queued
  idle : s.phase = .idle
  unread : s.source.upload? sub.upload.id = none
  rows : ∀ r ∈ s.source.rows, r.uploadId ≠ sub.upload.id
  memberships : ∀ m ∈ s.db.memberships, m.uploadId ≠ sub.upload.id
  publications : s.publications = 0

variable {sub : Submission platform} {s : Importer} {chunk : Chunk} {chunks done : List Chunk}

theorem Submitted.tables (start : Submitted sub s) : Tables sub s where
  schema := start.schema
  uploads := start.uploads
  rows := ⟨start.keyed, fun r member ours => absurd ours (start.rows r member),
    fun r member ours => absurd ours (start.rows r member)⟩
  phones := start.phones
  members := start.members
  digest := by simp [start.unread]
  ready := by simp [start.unread]
  item := ⟨sub.upload, start.item, rfl, by simp [start.queued, start.publications],
    by simp [start.publications]⟩
  once := by simp [start.publications]
  published := by simp [start.publications]
  unpublished := fun _ => start.memberships

/-! ### Database-one transactions -/

/-- A transaction that leaves Leads and memberships, and the upload's file and its completion. -/
structure KeepsUpload (id : Uuid) (db db' : Db) : Prop where
  leads : db'.leads = db.leads
  leadSeq : db'.leadSeq = db.leadSeq
  memberships : db'.memberships = db.memberships
  item : ∀ item, db.upload? id = some item → ∃ item', db'.upload? id = some item' ∧
    item'.sha256 = item.sha256 ∧
    (item.status = .complete → item' = item) ∧ (item.status ≠ .complete → item'.status ≠ .complete)

theorem Tables.keepsUpload {db : Db} (kept : KeepsUpload sub.upload.id s.db db)
    (tables : Tables sub s) : Tables sub { s with db } := by
  obtain ⟨item, found, digest, complete, counts⟩ := tables.item
  obtain ⟨item', found', digest', same, open'⟩ := kept.item item found
  refine { tables with
    schema := ⟨kept.leads ▸ tables.schema.ids, kept.leads ▸ tables.schema.phones, ?_⟩
    rows := kept.leads ▸ tables.rows
    members := kept.memberships ▸ tables.members
    item := ⟨item', found', digest'.trans digest, ?_, ?_⟩
    unpublished := ?_ }
  · rw [kept.leads, kept.leadSeq]
    exact tables.schema.drawn
  · by_cases done : item.status = .complete
    · rw [same done]
      exact complete
    · exact ⟨fun h => absurd h (open' done), fun h => absurd (complete.mpr h) done⟩
  · intro published
    rw [same (complete.mpr published)]
    exact counts published
  intro none
  rw [kept.memberships]
  exact tables.unpublished none

theorem KeepsUpload.setUpload {db : Db} {id other : Uuid} {f : LeadUpload → LeadUpload}
    (named : ∀ u, (f u).id = u.id) (digest : ∀ u, (f u).sha256 = u.sha256)
    (stays : ∀ u, u.status ≠ .complete → (f u).status ≠ .complete)
    (incomplete : ∀ item, db.upload? other = some item → item.status ≠ .complete) :
    KeepsUpload id db (db.setUpload other f) := by
  refine ⟨rfl, rfl, rfl, ?_⟩
  intro item found
  have looked : (db.setUpload other f).upload? id = if id = other then (db.upload? id).map f else
    db.upload? id := lookup_adjust (fun u _ => named u)
  rw [looked, found]
  split
  case isTrue here =>
    have still := incomplete item (here ▸ found)
    exact ⟨f item, rfl, digest item, fun done => absurd done still, stays item⟩
  · exact ⟨item, rfl, rfl, fun _ => rfl, fun h => h⟩

variable {db' : Db} {todo : List Chunk} {e : SourceUpload}
  {memberships : List LeadDatabaseMembership}

theorem KeepsUpload.jobs {id : Uuid} {db : Db} (kept : KeepsUpload id db db') (jobs : List Job)
    (jobSeq : Nat) :
    KeepsUpload id db { db' with jobs, jobSeq } := { kept with }

theorem KeepsUpload.refl (id : Uuid) (db : Db) : KeepsUpload id db db :=
  ⟨rfl, rfl, rfl, fun item found => ⟨item, found, rfl, fun _ => rfl, fun h => h⟩⟩

theorem importFailed_keepsUpload (id : Uuid) (db : Db) (job : Job) (exc : JobException)
    (now : Instant) : KeepsUpload id db (importFailed db job exc now) := by
  unfold importFailed
  split
  case h_1 uploadId payload =>
    split
    · exact (KeepsUpload.refl id db).jobs _ _
    case isFalse open' =>
    have incomplete : ∀ item, db.upload? uploadId = some item → item.status ≠ .complete := by
      intro item found done
      simp [found, done] at open'
    have stays : ∀ retry u, u.status ≠ .complete → (interruptedUpload retry u).status ≠ .complete := by
      intro retry u _
      cases retry <;> simp [interruptedUpload]
    exact (KeepsUpload.setUpload (f := interruptedUpload (importRetried exc job)) (fun _ => rfl)
      (fun _ => rfl) (stays _) incomplete).jobs _ _
  · exact .refl id db

theorem retryUpload_keepsUpload {id : Uuid} {db : Db} {now : Instant}
    (done : retryUpload db id now = .ok db') : KeepsUpload id db db' := by
  unfold retryUpload at done
  split at done
  · cases done
  case h_2 item found =>
  obtain ⟨failed, done⟩ := guard_ok done
  cases done
  rw [not_not] at failed
  have incomplete : ∀ u, db.upload? id = some u → u.status ≠ .complete := by
    intro u same complete
    rw [found] at same
    cases same
    rw [failed] at complete
    cases complete
  exact (KeepsUpload.setUpload (f := fun u => { u with status := .queued, error := "" }) (fun _ => rfl)
    (fun _ => rfl) (fun _ _ => by simp) incomplete).jobs _ _

/-! ### What a phase depends on -/

section
variable {upload : LeadUpload} {pass : CsvRun}

theorem InPass.db (db : Db) (phase : ImportPhase)
    (inPass : InPass sub s upload pass done todo) : InPass sub { s with db, phase } upload pass done todo :=
  { inPass with }

theorem PhaseSound.db {db : Db} (kept : LeadsKept s.db.leads db.leads) (sound : PhaseSound sub s) :
    PhaseSound sub { s with db } := by
  unfold PhaseSound at sound ⊢
  cases phase : s.phase with
  | idle => trivial
  | opening upload => simpa only [phase] using sound
  | registering upload pass chunks =>
    simp only [phase] at sound ⊢
    exact sound.imp fun _ inPass => inPass.db db _
  | retaining upload pass chunk ids chunks =>
    simp only [phase] at sound ⊢
    exact ⟨sound.1.imp fun _ inPass => inPass.db db _, fun entry member => (sound.2 entry member).kept kept⟩
  | counting upload pass chunk chunks =>
    simp only [phase] at sound ⊢
    exact sound.imp fun _ inPass => inPass.db db _
  | publishing upload progress => simpa only [phase] using sound
  | refusing upload message progress => simpa only [phase] using sound

theorem Tables.phase (tables : Tables sub s) (phase : ImportPhase) : Tables sub { s with phase } :=
  { tables with }

theorem Tables.leads {leads : List Lead} {leadSeq : Nat} (schema : LeadSchema { s.db with leads, leadSeq })
    (kept : LeadsKept s.db.leads leads) (tables : Tables sub s) :
    Tables sub { s with db := { s.db with leads, leadSeq } } :=
  { tables with schema, rows := tables.rows.kept kept }

theorem Tables.source {source : SourceDb} (tables : Tables sub s) (unpublished : s.publications = 0)
    (uploads : Keyed SourceUpload.id source.uploads)
    (rows : RowsSound s.db.leads sub.file sub.upload source.rows)
    (phones : Keyed SourceRow.phoneKey source.rows) (found : source.upload? sub.upload.id = some e)
    (digest : e.sha256 = sub.upload.sha256)
    (ready : e.ready → Retained sub.upload source.rows sub.file ∧ sub.Counts e.progress) :
    Tables sub { s with source } :=
  { tables with
    uploads, rows, phones
    digest := fun _ same => some.inj (found.symm.trans same) ▸ digest
    ready := fun _ same => some.inj (found.symm.trans same) ▸ ready
    published := fun once => absurd (unpublished.symm.trans once) (by decide) }

theorem InPass.unpublished (tables : Tables sub s)
    (inPass : InPass sub s upload pass done todo) : s.publications = 0 := by
  obtain ⟨e, found, open'⟩ := inPass.underway
  have once := tables.once
  have notReady : s.publications ≠ 1 := by
    intro published
    have ready := tables.published published
    rw [SourceDb.isReady, found, any_some, open'] at ready
    cases ready
  omega

theorem InPass.inFile (inPass : InPass sub s upload pass done (chunk :: chunks)) :
    ∀ row ∈ (uniqueRows chunk.rows).map Prod.snd, row ∈ sub.file := by
  intro row member
  obtain ⟨entry, inDict, rfl⟩ := mem_map.mp member
  have here : chunk ∈ pass.chunks := by simp [inPass.chunks]
  exact csvChunks_valid (inPass.isPass ▸ here) (mem_uniqueRows inDict).1

end

/-! ### The transactions of an attempt -/

theorem begin_sound (tables : Tables sub s) :
    Tables sub (beginImport s sub.upload.id) ∧ PhaseSound sub (beginImport s sub.upload.id) := by
  obtain ⟨item, found, digest, complete, _⟩ := tables.item
  unfold beginImport
  rw [found]
  simp only
  split
  · exact ⟨tables.phase .idle, trivial⟩
  case isFalse open' =>
  have incomplete : ∀ u, s.db.upload? sub.upload.id = some u → u.status ≠ .complete := by
    intro u same
    rw [found] at same
    cases same
    exact open'
  have kept : KeepsUpload sub.upload.id s.db
      (s.db.setUpload sub.upload.id fun u => { u with status := .processing, error := "" }) :=
    .setUpload (fun _ => rfl) (fun _ => rfl) (fun _ _ => by simp) incomplete
  have none : s.publications = 0 := by
    have once := tables.once
    have := mt complete.mpr open'
    omega
  exact ⟨(tables.keepsUpload kept).phase _, ⟨(lookup_some found).2, digest⟩, none⟩

theorem readStored_sound {upload : LeadUpload} (isRead : sub.IsRead upload) {stored : Option (List UInt8)}
    (file : ∀ octets ∈ stored, platform.sha256 octets = sub.upload.sha256 → octets = sub.octets)
    (unpublished : s.publications = 0)
    (underway : ∃ e, s.source.upload? sub.upload.id = some e ∧ e.ready = false) :
    PhaseSound sub { s with phase := readStored platform upload stored } := by
  unfold readStored
  cases stored with
  | none => exact ⟨isRead, unpublished⟩
  | some octets =>
  simp only
  split
  · exact ⟨isRead, unpublished⟩
  case isFalse same =>
  rw [not_not, isRead.2] at same
  rw [file octets rfl same]
  exact ⟨[], isRead, rfl, rfl, underway, fun phone row last => absurd last (by simp)⟩

section
variable (tables : Tables sub s)
include tables

variable {upload : LeadUpload} {pass : CsvRun}

theorem open_sound (isRead : sub.IsRead upload) (unpublished : s.publications = 0)
    {stored : Option (List UInt8)}
    (file : ∀ octets ∈ stored, platform.sha256 octets = sub.upload.sha256 → octets = sub.octets) :
    Tables sub (openSource platform s upload stored) ∧ PhaseSound sub
    (openSource platform s upload stored) := by
  unfold openSource
  rw [isRead.1]
  split
  case h_1 existing found =>
    split
    · exact ⟨tables.phase _, isRead, unpublished⟩
    split
    case isTrue ready => exact ⟨tables.phase _, isRead, unpublished, existing, found, ready, rfl⟩
    case isFalse open' =>
      exact ⟨tables.phase _, readStored_sound isRead file unpublished
        ⟨existing, found, eq_false_iff.mpr open'⟩⟩
  case h_2 absent =>
  -- the new row answers for the upload
  have inserted := SourceDb.insertUpload_upload? isRead.1 absent
  have uploads : Keyed SourceUpload.id (upsert SourceUpload.id (fun old _ => old) s.source.uploads
      (newUpload upload)) := Rows.keyed_upsert (fun _ _ => rfl) tables.uploads
  have kept : Tables sub { s with source := s.source.insertUpload upload } :=
    tables.source unpublished uploads tables.rows tables.phones inserted isRead.2
      (fun ready => by cases ready)
  refine ⟨kept.phase _, ?_⟩
  exact readStored_sound (s := { s with source := s.source.insertUpload upload }) isRead file unpublished
    ⟨_, inserted, rfl⟩

theorem register_sound (inPass : InPass sub s upload pass done (chunk :: chunks))
    (phones : List String) :
    let registered := canonicalIds s.db phones
    let t : Importer :=
      { s with db := registered.1, phase := .retaining upload pass chunk registered.2 chunks }
    Tables sub t ∧ PhaseSound sub t := by
  obtain ⟨schema, kept⟩ := canonicalIds_keeps tables.schema phones
  have frame : ∃ leads leadSeq, (canonicalIds s.db phones).1 = { s.db with leads, leadSeq } :=
    canonicalIds_frame s.db phones
  have known := canonicalIds_leads s.db phones
  obtain ⟨leads, leadSeq, same⟩ := frame
  simp only
  rw [same] at schema kept known ⊢
  exact ⟨(tables.leads schema kept).phase _, ⟨done, inPass.db _ _⟩, known⟩

theorem retain_sound (inPass : InPass sub s upload pass done (chunk :: chunks))
    {staged : List SourceRow}
    (stages : List.Forall₂ (Stages sub.upload s.db.leads) ((uniqueRows chunk.rows).map Prod.snd) staged)
    {source : SourceDb} (retained : s.source.retain sub.upload.id staged chunk.progress = some source) :
    Tables sub { s with source } ∧ InPass sub { s with source } upload pass (done ++ [chunk]) chunks := by
  have unpublished := inPass.unpublished tables
  obtain ⟨e, found, open'⟩ := inPass.underway
  rw [SourceDb.retain] at retained
  split at retained
  case isFalse => cases retained
  case isTrue phones =>
  obtain ⟨sound, kept⟩ := upserts_retained tables.schema stages inPass.inFile tables.rows inPass.retained
  obtain ⟨rows, uploaded, keyed⟩ := SourceDb.setUpload_some retained found (fun _ => rfl)
  have last : Retained sub.upload source.rows ((done ++ [chunk]).flatMap Chunk.rows) := by
    rw [rows]
    refine kept.congr fun phone => ?_
    rw [List.flatMap_append, Rows.latest_append, Rows.latest_append, latest_uniqueRows]
    simp
  refine ⟨?_, { inPass with chunks := ?_, underway := ⟨_, uploaded, open'⟩, retained := last }⟩
  · exact tables.source unpublished (keyed tables.uploads) (rows ▸ sound) (rows ▸ phones) uploaded
      (tables.digest e found) (fun ready => absurd ready (by simp [open']))
  · rw [inPass.chunks, append_assoc, List.singleton_append]

theorem finish_sound (inPass : InPass sub s upload pass done []) :
    Tables sub (finishPass s upload pass) ∧ PhaseSound sub (finishPass s upload pass) := by
  have unpublished := inPass.unpublished tables
  have isRead := inPass.upload
  obtain ⟨e, found, open'⟩ := inPass.underway
  unfold finishPass
  split
  · exact ⟨tables.phase _, isRead, unpublished⟩
  case h_2 ended =>
  split
  · exact ⟨tables.phase _, isRead, unpublished⟩
  split
  · exact ⟨tables.phase _, isRead, unpublished⟩
  split
  · exact ⟨tables.phase _, trivial⟩
  case h_2 source marked =>
  rw [isRead.1] at marked
  obtain ⟨rows, uploaded, keyed⟩ := SourceDb.setUpload_some marked found (fun _ => rfl)
  have whole : done.flatMap Chunk.rows = sub.file ∧ sub.Counts pass.progress := by
    have complete := csvChunks_complete (inPass.isPass ▸ ended)
    rw [← inPass.isPass, inPass.chunks, append_nil] at complete
    exact complete
  have all : Retained sub.upload source.rows sub.file := by
    rw [rows, ← whole.1]
    exact inPass.retained
  refine ⟨(tables.source unpublished (keyed tables.uploads) (rows ▸ tables.rows)
    (rows ▸ tables.phones) uploaded
    (tables.digest e found) (fun _ => ⟨all, whole.2⟩)).phase _, isRead, unpublished, _, uploaded, rfl, rfl⟩

/-! ### Publication -/

end

def Submission.version (sub : Submission platform) (s : Importer) : List Db2InventoryRow :=
  s.source.published.filter fun row => row.uploadId = sub.upload.id

/-- The version holds, for every valid phone and no other, the listing of its last valid row. -/
structure VersionExact (sub : Submission platform) (version : List Db2InventoryRow) : Prop where
  phones : Keyed Db2InventoryRow.phone version
  leads : Keyed Db2InventoryRow.leadId version
  listing : ∀ phone, (lookup Db2InventoryRow.phone phone version).map (fun r => (r.title, r.rowNumber)) =
    (latest ImportRow.phone phone sub.file).map fun row => (row.title, row.number)

theorem version_exact (tables : Tables sub s) (found : s.source.upload? sub.upload.id = some e)
    (ready : e.ready) : VersionExact sub (sub.version s) := by
  unfold Submission.version
  rw [SourceDb.published_version tables.uploads found ready]
  let rows := s.source.rows.filter fun r => r.uploadId = sub.upload.id
  have phones : Keyed SourceRow.phone rows := Rows.keyed_group tables.phones _
  have leads : Keyed SourceRow.leadId rows := Rows.keyed_group tables.rows.keyed _
  refine ⟨by simpa [Keyed, comp_def, SourceRow.foreign] using phones,
    by simpa [Keyed, comp_def, SourceRow.foreign] using leads, ?_⟩
  intro phone
  have read : (lookup Db2InventoryRow.phone phone (rows.map fun r => r.foreign e.managerId)).map
        (fun r => (r.title, r.rowNumber)) =
      (lookup SourceRow.phone phone rows).map fun r => (r.title, r.rowNumber) := by
    simp [lookup, List.find?_map, comp_def, SourceRow.foreign]
  rw [read]
  cases last : latest ImportRow.phone phone sub.file with
  | some row =>
    obtain ⟨r, member, ours, same, title, number⟩ := (tables.ready e found ready).1 phone row last
    have stored := lookup_of_mem phones (mem_filter.mpr ⟨member, decide_eq_true ours⟩)
    rw [same] at stored
    rw [stored, map_some, map_some, title, number]
  | none =>
  -- a stored phone stands in the file
  have absent : lookup SourceRow.phone phone rows = none := by
    rw [lookup_none]
    intro r member same
    obtain ⟨stored, ours⟩ := mem_filter.mp member
    obtain ⟨row, inFile, named⟩ := tables.rows.inFile r stored (of_decide_eq_true ours)
    exact Rows.latest_none.mp last row inFile (named.trans same)
  rw [absent, map_none, map_none]

section
variable {version : List Db2InventoryRow}

theorem VersionExact.length (exact' : VersionExact sub version) :
    version.length = sub.phones.length := by
  have members : ∀ phone, phone ∈ version.map Db2InventoryRow.phone ↔ phone ∈ sub.phones := by
    intro phone
    have listing := exact'.listing phone
    rw [Submission.phones, List.mem_dedup, mem_map, mem_map]
    constructor
    · rintro ⟨r, member, rfl⟩
      rw [lookup_of_mem exact'.phones member, map_some] at listing
      obtain ⟨row, last, _⟩ := map_eq_some_iff.mp listing.symm
      exact ⟨row, Rows.latest_some last⟩
    rintro ⟨row, member, rfl⟩
    cases last : latest ImportRow.phone row.phone sub.file with
    | none => exact absurd rfl (Rows.latest_none.mp last row member)
    | some kept =>
      rw [last, map_some] at listing
      obtain ⟨r, stored, _⟩ := map_eq_some_iff.mp listing
      exact ⟨r, lookup_some stored⟩
  have permuted := (List.perm_ext_iff_of_nodup exact'.phones (List.nodup_dedup _)).mpr members
  simpa [Submission.phones] using permuted.length_eq

theorem joinVersion_keyed (keyed : Keyed LeadDatabaseMembership.leadId memberships)
    (version : List Db2InventoryRow) :
    Keyed LeadDatabaseMembership.leadId (joinVersion memberships version) := by
  unfold joinVersion
  induction version generalizing memberships with
  | nil => exact keyed
  | cons row version ih =>
    apply ih
    apply Rows.keyed_upsert _ keyed
    exact fun _ _ => rfl

theorem VersionExact.updated_le (_ : VersionExact sub version)
    (keyed : Keyed LeadDatabaseMembership.leadId memberships) :
    (memberships.filter fun m => m.leadId ∈ version.map Db2InventoryRow.leadId).length ≤ version.length := by
  have distinct : ((memberships.filter fun m => m.leadId ∈ version.map Db2InventoryRow.leadId).map
      LeadDatabaseMembership.leadId).Nodup := keyed.sublist (filter_sublist.map _)
  have within : (memberships.filter fun m => m.leadId ∈ version.map Db2InventoryRow.leadId).map
      LeadDatabaseMembership.leadId ⊆ version.map Db2InventoryRow.leadId := by
    intro leadId member
    obtain ⟨m, kept, rfl⟩ := mem_map.mp member
    exact of_decide_eq_true (mem_filter.mp kept).2
  simpa using (List.subperm_of_subset distinct within).length_le

theorem publishedUpload_counts (exact' : VersionExact sub version) {progress : Progress}
    (counts : sub.Counts progress) {updated : Nat} (bound : updated ≤ version.length)
    (now : Instant) (u : LeadUpload) :
    PublishedCounts sub (publishedUpload progress version.length updated now u) := by
  have distinct : sub.phones.length ≤ sub.file.length := by
    simpa [Submission.phones] using (List.dedup_sublist (sub.file.map ImportRow.phone)).length_le
  have total := exact'.length
  have valid : progress.valid = sub.file.length := counts.valid
  refine ⟨counts, ?_, ?_⟩
  · simp only [publishedUpload, counted]
    omega
  · simp only [publishedUpload]
    omega

end

theorem publish_sound (tables : Tables sub s) {upload : LeadUpload} (isRead : sub.IsRead upload)
    (unpublished : s.publications = 0) (found : s.source.upload? sub.upload.id = some e)
    (ready : e.ready) (now : Instant) :
    let db := { s.db with db2Rows := s.source.published }
    Tables sub { s with
      db := publish db upload.id e.progress now
      phase := .idle
      publications := s.publications + if publishable db upload.id then 1 else 0 } := by
  obtain ⟨item, stored, digest, complete, _⟩ := tables.item
  have open' : item.status ≠ .complete :=
    fun done => absurd (unpublished.symm.trans (complete.mp done)) (by decide)
  have looked : ({ s.db with db2Rows := s.source.published } : Db).upload? sub.upload.id =
    some item := stored
  have exact' := version_exact tables found ready
  have counts := (tables.ready e found ready).2
  simp only
  rw [isRead.1, publish, looked]
  simp only
  rw [if_neg open', publishable, looked, any_some, decide_eq_true open', if_pos rfl, unpublished]
  refine { tables with
    schema := ⟨tables.schema.ids, tables.schema.phones, tables.schema.drawn⟩
    members := joinVersion_keyed tables.members _
    item := ⟨_, lookup_adjust_self (fun _ _ => rfl) stored, digest, by simp [publishedUpload], fun _ => ?_⟩
    once := Nat.le_refl 1
    published := fun _ => by simp [SourceDb.isReady, found, ready]
    unpublished := fun none => by cases none }
  exact publishedUpload_counts exact' counts (exact'.updated_le tables.members) now item

/-! ### Whole runs -/

theorem keepsUpload_sound {db : Db} (kept : KeepsUpload sub.upload.id s.db db) (tables : Tables sub s)
    (phase : PhaseSound sub s) : Tables sub { s with db } ∧ PhaseSound sub { s with db } := by
  refine ⟨tables.keepsUpload kept, phase.db ?_⟩
  rw [kept.leads]
  exact fun lead member => ⟨lead, member, rfl, rfl⟩

theorem advance_sound (tables : Tables sub s) (phase : PhaseSound sub s) {jobId : Option Nat}
    {stored : Option (List UInt8)} {now : Instant} (file : sub.Stored (.advance jobId stored now)) :
    Tables sub (advanceImport platform jobId s stored now) ∧
    PhaseSound sub (advanceImport platform jobId s stored now) := by
  have incomplete : s.publications = 0 → ∀ item, s.db.upload? sub.upload.id = some item →
    item.status ≠ .complete := by
    intro none item found done
    obtain ⟨item', found', _, complete, _⟩ := tables.item
    rw [found] at found'
    cases found'
    exact absurd (none.symm.trans (complete.mp done)) (by decide)
  unfold advanceImport
  cases at' : s.phase with
  | idle => exact ⟨tables, by rwa [at'] at *⟩
  | opening upload =>
    simp only [PhaseSound, at'] at phase
    exact open_sound tables phase.1 phase.2 file
  | registering upload pass chunks =>
    simp only [PhaseSound, at'] at phase
    obtain ⟨done, inPass⟩ := phase
    cases chunks with
    | nil => exact finish_sound tables inPass
    | cons chunk chunks => exact register_sound tables inPass _
  | retaining upload pass chunk ids chunks =>
    simp only [PhaseSound, at'] at phase
    obtain ⟨⟨done, inPass⟩, known⟩ := phase
    simp only
    split
    · exact ⟨tables.phase _, trivial⟩
    case h_2 source retained =>
    obtain ⟨staged, copied, written⟩ := bind_eq_some_iff.mp retained
    rw [inPass.upload.1] at written
    have stages : List.Forall₂ (Stages sub.upload s.db.leads)
      ((uniqueRows chunk.rows).map Prod.snd) staged :=
      (stagedRows_stages known copied).imp fun _ _ h =>
        { h with uploadId := h.uploadId.trans inPass.upload.1 }
    obtain ⟨kept, later⟩ := retain_sound tables inPass stages written
    exact ⟨kept.phase _, _, later.db _ _⟩
  | counting upload pass chunk chunks =>
    simp only [PhaseSound, at'] at phase
    obtain ⟨done, inPass⟩ := phase
    have named := inPass.upload.1
    have kept : KeepsUpload sub.upload.id s.db (recordProgress s.db upload.id jobId chunk.progress now) := by
      have counts : KeepsUpload sub.upload.id s.db (s.db.setUpload upload.id (counted chunk.progress)) :=
        .setUpload (fun _ => rfl) (fun _ => rfl) (fun _ h => h)
          (named ▸ incomplete (inPass.unpublished tables))
      cases jobId with
      | none => exact counts
      | some id => exact counts.jobs _ _
    exact ⟨(tables.keepsUpload kept).phase _, done, inPass.db _ _⟩
  | publishing upload progress =>
    simp only [PhaseSound, at'] at phase
    obtain ⟨isRead, unpublished, e, found, ready, rfl⟩ := phase
    exact ⟨publish_sound tables isRead unpublished found ready now, trivial⟩
  | refusing upload message progress =>
    simp only [PhaseSound, at'] at phase
    have kept : KeepsUpload sub.upload.id s.db (s.db.setUpload upload.id (refusedUpload message progress)) :=
      .setUpload (fun _ => rfl) (fun _ => rfl) (fun _ _ => by simp [refusedUpload])
        (phase.1.1 ▸ incomplete phase.2)
    exact ⟨(tables.keepsUpload kept).phase _, trivial⟩

theorem elsewhere_sound {db : Db} {source : SourceDb} (leaves : LeavesImport sub.upload.id s db source)
    (tables : Tables sub s) (phase : PhaseSound sub s) :
    Tables sub { s with db, source } ∧ PhaseSound sub { s with db, source } := by
  have rows : ∀ r : SourceRow, r.uploadId = sub.upload.id → (r ∈ source.rows ↔ r ∈ s.source.rows) := by
    intro r ours
    have same := congrArg (r ∈ ·) leaves.rows
    simpa [mem_filter, ours] using same
  have retained : ∀ read, Retained sub.upload s.source.rows read → Retained sub.upload source.rows read := by
    intro read holds phone row last
    obtain ⟨r, member, ours, listing⟩ := holds phone row last
    exact ⟨r, (rows r ours).mpr member, ours, listing⟩
  have inPass : ∀ {upload pass done todo phase}, InPass sub s upload pass done todo →
      InPass sub { s with db, source, phase } upload pass done todo := by
    intro upload pass done todo phase holds
    exact { holds with
      underway := by simpa [leaves.sourceUpload] using holds.underway
      retained := retained _ holds.retained }
  constructor
  · refine { tables with
      schema := leaves.schema
      uploads := leaves.uploads
      rows := ⟨leaves.keyed, ?_, ?_⟩
      phones := leaves.phones
      members := leaves.members
      digest := leaves.sourceUpload ▸ tables.digest
      ready := ?_
      item := leaves.upload ▸ tables.item
      published := ?_
      unpublished := ?_ }
    · exact fun r member ours => (tables.rows.lead r ((rows r ours).mp member) ours).kept leaves.leads
    · exact fun r member ours => tables.rows.inFile r ((rows r ours).mp member) ours
    · intro e found ready
      rw [leaves.sourceUpload] at found
      exact ⟨retained _ (tables.ready e found ready).1, (tables.ready e found ready).2⟩
    · simpa only [SourceDb.isReady, leaves.sourceUpload] using tables.published
    · exact fun none m member ours => tables.unpublished none m (leaves.memberships m member ours) ours
  unfold PhaseSound at phase ⊢
  cases at' : s.phase with
  | idle => trivial
  | opening upload => simpa only [at'] using phase
  | registering upload pass chunks =>
    simp only [at'] at phase ⊢
    exact phase.imp fun _ => inPass
  | retaining upload pass chunk ids chunks =>
    simp only [at'] at phase ⊢
    exact ⟨phase.1.imp fun _ => inPass, fun entry member => (phase.2 entry member).kept leaves.leads⟩
  | counting upload pass chunk chunks =>
    simp only [at'] at phase ⊢
    exact phase.imp fun _ => inPass
  | publishing upload progress => simpa only [at', leaves.sourceUpload] using phase
  | refusing upload message progress => simpa only [at'] using phase

theorem importStep_sound {op : ImportOp} (file : sub.Stored op) (sound : Tables sub s ∧ PhaseSound sub s) :
    Tables sub (importStep platform sub.upload.id s op) ∧
    PhaseSound sub (importStep platform sub.upload.id s op) := by
  obtain ⟨tables, phase⟩ := sound
  cases op with
  | start =>
    simp only [importStep]
    split
    · exact begin_sound tables
    · exact ⟨tables, phase⟩
  | advance jobId stored now => exact advance_sound tables phase file
  | crash => exact ⟨tables.phase .idle, trivial⟩
  | interrupted job exc now =>
    exact keepsUpload_sound (importFailed_keepsUpload _ _ job exc now) tables phase
  | retry now =>
    refine keepsUpload_sound ?_ tables phase
    exact commit_cases (.refl _ _) fun db done => retryUpload_keepsUpload done
  | elsewhere db source =>
    simp only [importStep]
    split
    case isTrue leaves => exact elsewhere_sound leaves tables phase
    · exact ⟨tables, phase⟩

/-! ### Completion -/

section
variable {upload : LeadUpload} {pass : CsvRun} (jobId : Option Nat) (now : Instant)

def Submission.attempt (sub : Submission platform) (jobId : Option Nat) (now : Instant) (n : Nat)
    (s : Importer) : Importer :=
  run (importStep platform sub.upload.id) s (List.replicate n (.advance jobId (some sub.octets) now))

theorem attempt_add (s : Importer) (m n : Nat) :
    sub.attempt jobId now (m + n) s = sub.attempt jobId now n (sub.attempt jobId now m s) := by
  unfold Submission.attempt
  rw [← List.replicate_append_replicate, Runs.run_append]

theorem attempt_one (s : Importer) :
    sub.attempt jobId now 1 s = advanceImport platform jobId s (some sub.octets) now := rfl

theorem attempt_sound (sound : Tables sub s ∧ PhaseSound sub s) (n : Nat) :
    Tables sub (sub.attempt jobId now n s) ∧ PhaseSound sub (sub.attempt jobId now n s) :=
  run_invariant_of_meets (I := fun t => Tables sub t ∧ PhaseSound sub t) (fun _ _ => importStep_sound) sound
    (Runs.meets_of_forall fun op member => by
      cases List.eq_of_mem_replicate member
      exact fun octets same _ => (Option.some.inj same).symm)

theorem chunk_completes (tables : Tables sub s)
    (inPass : InPass sub s upload pass done (chunk :: chunks))
    (at' : s.phase = .registering upload pass (chunk :: chunks)) :
    (sub.attempt jobId now 3 s).phase = .registering upload pass chunks := by
  let registered := canonicalIds s.db ((uniqueRows chunk.rows).map Prod.fst)
  let t : Importer :=
    { s with db := registered.1, phase := .retaining upload pass chunk registered.2 chunks }
  have first : sub.attempt jobId now 1 s = t := by
    rw [attempt_one, advanceImport, at']
  obtain ⟨tablesT, _, known⟩ := register_sound tables inPass ((uniqueRows chunk.rows).map Prod.fst)
  obtain ⟨staged, copied⟩ : ∃ staged, stagedRows upload registered.2
    ((uniqueRows chunk.rows).map Prod.snd) = some staged := by
    refine stagedRows_isSome fun row member => ?_
    obtain ⟨entry, inDict, rfl⟩ := mem_map.mp member
    refine canonicalIds_has s.db tables.schema (mem_map.mpr ⟨entry, inDict, ?_⟩)
    exact (mem_uniqueRows inDict).2.symm
  have stages : List.Forall₂ (Stages sub.upload t.db.leads) ((uniqueRows chunk.rows).map Prod.snd) staged :=
    (stagedRows_stages known copied).imp fun _ _ h => { h with uploadId := h.uploadId.trans inPass.upload.1 }
  obtain ⟨source, written⟩ : ∃ source, s.source.retain upload.id staged chunk.progress = some source := by
    have keyed := upserts_phones tablesT.schema stages inPass.inFile tablesT.rows tablesT.phones
    obtain ⟨e, found, open'⟩ := inPass.underway
    refine ⟨_, (if_pos keyed).trans (if_neg ?_)⟩
    have notReady : s.source.isReady upload.id = false := by
      simp [SourceDb.isReady, inPass.upload.1, found, open']
    exact fun ready => absurd (notReady.symm.trans ready) (by decide)
  have second :
    sub.attempt jobId now 1 t = { t with source, phase := .counting upload pass chunk chunks } := by
    simp only [attempt_one, advanceImport, t]
    rw [copied, bind_some, written]
  rw [attempt_add jobId now s 1 2, first, attempt_add jobId now t 1 1, second]
  rfl

theorem pass_completes (sound : Tables sub s ∧ PhaseSound sub s)
    (at' : s.phase = .registering upload pass chunks) :
    ∃ n, (sub.attempt jobId now n s).phase = .registering upload pass [] := by
  induction chunks generalizing s with
  | nil => exact ⟨0, at'⟩
  | cons chunk chunks ih =>
    have inPass := sound.2
    simp only [PhaseSound, at'] at inPass
    obtain ⟨done, inPass⟩ := inPass
    obtain ⟨n, ended⟩ := ih (attempt_sound jobId now sound 3) (chunk_completes jobId now sound.1 inPass at')
    exact ⟨3 + n, by rw [attempt_add]; exact ended⟩

def Submission.Importable (sub : Submission platform) : Prop :=
  (csvChunks platform (platform.readCsv sub.octets)).failure = none ∧ sub.file ≠ []

theorem finish_completes (importable : sub.Importable) (sound : Tables sub s ∧ PhaseSound sub s)
    (at' : s.phase = .registering upload pass []) :
    (sub.attempt jobId now 1 s).phase = .publishing upload pass.progress := by
  have inPass := sound.2
  simp only [PhaseSound, at'] at inPass
  obtain ⟨done, inPass⟩ := inPass
  have isPass := inPass.isPass
  obtain ⟨e, found, open'⟩ := inPass.underway
  have counts := (csvChunks_complete importable.1).2
  rw [← isPass] at counts
  have valid : 0 < pass.progress.valid := counts.valid ▸ List.length_pos_iff.mpr importable.2
  have processed := counts.split
  have ended : pass.failure = none := isPass ▸ importable.1
  have notReady : s.source.isReady upload.id = false := by
    simp [SourceDb.isReady, inPass.upload.1, found, open']
  rw [attempt_one, advanceImport, at']
  simp only [finishPass, ended, SourceDb.setUpload, notReady, Bool.false_eq_true, if_false]
  rw [if_neg (by omega), if_neg (by omega)]

theorem publishing_completes (sound : Tables sub s ∧ PhaseSound sub s) {progress : Progress}
    (at' : s.phase = .publishing upload progress) : (sub.attempt jobId now 1 s).publications = 1 := by
  have phase := sound.2
  simp only [PhaseSound, at'] at phase
  obtain ⟨isRead, unpublished, _⟩ := phase
  obtain ⟨item, stored, _, complete, _⟩ := sound.1.item
  have open' : item.status ≠ .complete :=
    fun done => absurd (unpublished.symm.trans (complete.mp done)) (by decide)
  have looked : ({ s.db with db2Rows := s.source.published } : Db).upload? sub.upload.id =
    some item := stored
  rw [attempt_one, advanceImport, at']
  simp only [publishable, isRead.1, looked, any_some, decide_eq_true open', if_true, unpublished]

theorem open_completes (sound : Tables sub s ∧ PhaseSound sub s) (at' : s.phase = .opening upload) :
    (∃ progress, (sub.attempt jobId now 1 s).phase = .publishing upload progress) ∨
    (sub.attempt jobId now 1 s).phase = .registering upload
    (csvChunks platform (platform.readCsv sub.octets))
    (csvChunks platform (platform.readCsv sub.octets)).chunks := by
  have phase := sound.2
  simp only [PhaseSound, at'] at phase
  obtain ⟨isRead, _⟩ := phase
  have read : readStored platform upload (some sub.octets) = .registering upload
    (csvChunks platform (platform.readCsv sub.octets))
        (csvChunks platform (platform.readCsv sub.octets)).chunks := by
    simp [readStored, sub.checksum, isRead.2]
  rw [attempt_one, advanceImport, at']
  simp only [openSource, isRead.1]
  split
  case h_1 existing found =>
    have digest := sound.1.digest existing found
    rw [if_neg (by simp [digest, isRead.2])]
    split
    · exact .inl ⟨_, rfl⟩
    · exact .inr read
  · exact .inr read

theorem attempt_completes (importable : sub.Importable) (sound : Tables sub s ∧ PhaseSound sub s) :
    ∃ n, (sub.attempt jobId now n (beginImport s sub.upload.id)).publications = 1 := by
  obtain ⟨item, found, _, complete, _⟩ := sound.1.item
  by_cases done : item.status = .complete
  · refine ⟨0, ?_⟩
    change (beginImport s sub.upload.id).publications = 1
    rw [beginImport, found]
    simp only [if_pos done]
    exact complete.mp done
  have begun := begin_sound sound.1
  have opened : ∃ upload, (beginImport s sub.upload.id).phase = .opening upload := by
    rw [beginImport, found]
    simp only [if_neg done]
    exact ⟨_, rfl⟩
  obtain ⟨upload, opening⟩ := opened
  have afterOpen := attempt_sound jobId now begun 1
  rcases open_completes jobId now begun opening with ⟨progress, publishing⟩ | registering
  · exact ⟨1 + 1, by rw [attempt_add]; exact publishing_completes jobId now afterOpen publishing⟩
  obtain ⟨n, ended⟩ := pass_completes jobId now afterOpen registering
  have afterPass := attempt_sound jobId now afterOpen n
  have ready := finish_completes jobId now importable afterPass ended
  have afterFinish := attempt_sound jobId now afterPass 1
  refine ⟨1 + (n + (1 + 1)), ?_⟩
  rw [attempt_add, attempt_add, attempt_add]
  exact publishing_completes jobId now afterFinish ready

end

/-- What a publication stands for: the version is exact, and so are the counts recorded with it. -/
structure PublishedExactly (sub : Submission platform) (s : Importer) : Prop where
  version : VersionExact sub (sub.version s)
  counts : ∃ item, s.db.upload? sub.upload.id = some item ∧ item.status = .complete ∧
    PublishedCounts sub item

/-- Through any crashes and retries an upload is published at most once, and then exactly; until
then nothing of it is in the eligibility index. A file that can be imported is published by the next
attempt from the start that runs to its end. -/
theorem import_run_exact (sub : Submission platform) {s : Importer} (start : Submitted sub s)
    {ops : List ImportOp} (files : ∀ op ∈ ops, sub.Stored op) :
    let t := run (importStep platform sub.upload.id) s ops
    t.publications ≤ 1 ∧ (t.publications = 1 → PublishedExactly sub t) ∧
      (t.publications = 0 → ∀ m ∈ t.db.memberships, m.uploadId ≠ sub.upload.id) ∧
      (sub.Importable → ∀ jobId now, ∃ n,
      (sub.attempt jobId now n (beginImport t sub.upload.id)).publications = 1) := by
  have initially : Tables sub s ∧ PhaseSound sub s := by
    refine ⟨start.tables, ?_⟩
    rw [PhaseSound, start.idle]
    trivial
  have sound := run_invariant_of_meets (I := fun t => Tables sub t ∧ PhaseSound sub t)
    (fun _ _ => importStep_sound) initially (Runs.meets_of_forall files)
  obtain ⟨tables, phase⟩ := sound
  refine ⟨tables.once, fun published => ?_, tables.unpublished,
    fun importable jobId now => attempt_completes jobId now importable ⟨tables, phase⟩⟩
  obtain ⟨item, found, _, complete, counts⟩ := tables.item
  obtain ⟨e, uploaded, ready⟩ := (Option.any_eq_true _ _).mp (tables.published published)
  exact ⟨version_exact tables uploaded ready, item, found, complete.mpr published, counts published⟩

end

/-! A file with a phone on two lines and a line without one, imported through a crash. -/

def listPlatform : ImportPlatform where
  casing := plainCasing
  digit := Char.isDigit
  sha256 := fun octets => if octets = [1] then "list" else "other"
  readCsv := fun _ =>
    { header := some ["name", "phone"]
      records :=
        [["Ann", "555-123-4567"], ["Bob", "none"], [], ["Cy", "5559990000"],
        ["Ann B", "(555) 123-4567"]] }

def listSubmission : Submission listPlatform where
  upload := { id := 1, uploaderId := 9, state := "TX", status := .queued, path := "1.csv", sha256 := "list" }
  octets := [1]
  checksum := by decide

def listImporter : Importer :=
  { db :=
      { leads := [{ id := 1, phone := "5559990000", state := "OK" }]
        leadSeq := 1
        memberships := [{ leadId := 1, uploadId := 4, state := "OK" }]
        uploads := [listSubmission.upload] } }

def listRun : List ImportOp :=
  [.start, .advance none (some [1]) 10, .advance none none 11, .crash, .start] ++ List.replicate 6
    (.advance none (some [1]) 20)

theorem import_run_exact_list : Submitted listSubmission listImporter ∧
      (run (importStep listPlatform 1) listImporter listRun).publications = 1 ∧
      PublishedExactly listSubmission (run (importStep listPlatform 1) listImporter listRun) := by
  have start : Submitted listSubmission listImporter := by
    refine ⟨by decide, by decide, by decide, by decide, by decide, by decide, by decide, by decide,
      by decide, ?_, ?_, by decide⟩
    · exact fun r member => absurd member not_mem_nil
    · decide
  have once : (run (importStep listPlatform 1) listImporter listRun).publications = 1 := by decide +kernel
  have files : ∀ op ∈ listRun, listSubmission.Stored op := by
    simp [listRun, List.replicate, Submission.Stored, listSubmission]
  exact ⟨start, once, (import_run_exact listSubmission start files).2.1 once⟩

end Jawnix
