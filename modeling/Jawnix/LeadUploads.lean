import Jawnix.Jobs
import Jawnix.States

/-!
# CSV uploads into DB2

`lead_uploads.py`: a stored CSV file is read in bounded chunks, each chunk is
retained in the physical DB2, and the complete version is published to the
eligibility index in one transaction. The `csv` module and the digest are
parameters.

`import_lead_upload` spans several transactions over two databases. Its attempt is a
machine whose phase says which transaction comes next, so that a crash can fall
between any two of them.
-/
namespace Jawnix

/-- What the `csv` module makes of a stored file: the names in its first record (`none` when it
cannot be read), the records after it, and whether reading them ends in an error. -/
structure CsvReading where
  header : Option (List String)
  records : List (List String)
  broken : Bool := false

structure ImportPlatform where
  casing : Casing
  digit : Char → Bool
  sha256 : List UInt8 → String
  readCsv : List UInt8 → CsvReading

structure Progress where
  processed : Nat := 0
  valid : Nat := 0
  rejected : Nat := 0
  deriving DecidableEq

structure ImportRow where
  phone : String
  title : String
  number : Nat
  deriving DecidableEq

structure ReportRow where
  number : Nat
  phone : String
  reason : String
  deriving DecidableEq

structure Chunk where
  rows : List ImportRow
  progress : Progress
  deriving DecidableEq

def chunkRows : Nat := 5000
def chunkBytes : Nat := 8 * 1024 * 1024

def phoneHeaders : List String :=
  ["phone", "phonenumber", "telephone", "telephonenumber", "mobile", "mobilenumber", "cell",
    "cellphone", "number"]

def titleHeaders : List String := ["title", "name", "fullname", "businessname", "company", "companyname"]

variable (casing : Casing) (fields : List String) (platform : ImportPlatform)

/-- `re.sub(r"[^a-z0-9]", "", name.lower())` -/
def headerKey (name : String) : String :=
  ofList ((casing.lower name).toList.filter fun c => ('a' ≤ c && c ≤ 'z') || ('0' ≤ c && c ≤ '9'))

def headerColumn (accepted : List String) : Option String :=
  fields.find? fun name => headerKey casing name ∈ accepted

/-- `row.get(column) or ""` on a `DictReader` row: of several columns of one name the last
counts. -/
def cell (record : List String) (column : String) : String :=
  match (fields.zipIdx.filter fun p => p.1 = column).getLast? with
  | some (_, i) => record.getD i ""
  | none => ""

def phoneReason : String := "Phone must normalize to a ten-digit US number."
def titleReason : String := "Name contains a null byte."

structure CsvColumns where
  fields : List String
  phone : String
  title : Option String

def CsvColumns.rawPhone (columns : CsvColumns) (record : List String) : String :=
  cell columns.fields record columns.phone

def CsvColumns.titleOf (columns : CsvColumns) (record : List String) : String :=
  match columns.title with
  | some column => cell columns.fields record column
  | none => ""

def readRecord (columns : CsvColumns) (numbered : List String × Nat) : Except String ImportRow :=
  match normalizePhone platform.digit (columns.rawPhone numbered.1) with
  | none => .error phoneReason
  | some phone =>
    if '\x00' ∈ (columns.titleOf numbered.1).toList then .error titleReason
    else .ok { phone, title := columns.titleOf numbered.1, number := numbered.2 }

/-- Formula-like input is quoted in the error report. -/
def safePhone (raw : String) : String :=
  if raw.toList.head?.any (fun c => c ∈ ['=', '+', '-', '@']) then "'" ++ raw else raw

/-! ## Reading in chunks -/

/-- The generator's variables, with what it has yielded and reported so far. -/
structure Cutting where
  progress : Progress := {}
  rows : List ImportRow := []
  size : Nat := 0
  chunks : List Chunk := []
  report : List ReportRow := []

def Cutting.cut (s : Cutting) : Cutting :=
  { s with chunks := s.chunks ++ [⟨s.rows, s.progress⟩], rows := [], size := 0 }

def Cutting.read (columns : CsvColumns) (s : Cutting) (numbered : List String × Nat) : Cutting :=
  match readRecord platform columns numbered with
  | .error reason =>
    { s with
      progress :=
        { s.progress with processed := s.progress.processed + 1, rejected := s.progress.rejected + 1 }
      report := s.report ++ [⟨numbered.2, safePhone (columns.rawPhone numbered.1), reason⟩] }
  | .ok row =>
    { s with
      progress := { s.progress with processed := s.progress.processed + 1, valid := s.progress.valid + 1 }
      rows := s.rows ++ [row]
      size := s.size + (Utf8.encode row.title.toList).length + 32 }

def Cutting.next (columns : CsvColumns) (s : Cutting) (numbered : List String × Nat) : Cutting :=
  let s := s.read platform columns numbered
  if chunkRows ≤ s.rows.length ∨ chunkBytes ≤ s.size ∨ s.progress.processed % chunkRows = 0 then s.cut else s

structure CsvRun where
  chunks : List Chunk := []
  progress : Progress := {}
  report : List ReportRow := []
  failure : Option String := none
  deriving DecidableEq

def unreadable : String := "The CSV could not be read. Use UTF-8 text with a Phone column."

/-- `DictReader` passes over empty records; the first one after the header has number 2. -/
def numberedRecords (reading : CsvReading) : List (List String × Nat) :=
  (reading.records.filter fun record => record ≠ []).zipIdx 2

def csvColumns : Option CsvColumns :=
  (headerColumn casing fields phoneHeaders).map
    (fun phone => { fields, phone, title := headerColumn casing fields titleHeaders })

def csvChunks (reading : CsvReading) : CsvRun :=
  match reading.header with
  | none => { failure := some unreadable }
  | some fields =>
    match csvColumns platform.casing fields with
    | none => { failure := some "The CSV must contain a Phone or Phone Number column." }
    | some columns =>
      let s := (numberedRecords reading).foldl (Cutting.next platform columns) {}
      if reading.broken then
        { chunks := s.chunks, progress := s.progress, report := s.report, failure := some unreadable }
      else
        let s := if s.rows ≠ [] ∨ s.progress.processed % chunkRows ≠ 0 then s.cut else s
        { chunks := s.chunks, progress := s.progress, report := s.report }

/-! ## The physical DB2 -/

structure SourceUpload where
  id : Uuid
  managerId : Uuid
  state : String
  sha256 : String
  ready : Bool := false
  progress : Progress := {}
  deriving DecidableEq

def newUpload (upload : LeadUpload) : SourceUpload :=
  { id := upload.id, managerId := upload.uploaderId, state := upload.state, sha256 := upload.sha256 }

structure SourceRow where
  uploadId : Uuid
  leadId : Nat
  phone : String
  title : String
  state : String
  rowNumber : Nat
  deriving DecidableEq

variable (r : SourceRow)

/-- `PRIMARY KEY (upload_id, lead_id)` -/
def SourceRow.key : Uuid × Nat := (r.uploadId, r.leadId)

/-- `UNIQUE (upload_id, phone)` -/
def SourceRow.phoneKey : Uuid × String := (r.uploadId, r.phone)

def SourceRow.foreign (ownerId : Uuid) : Db2InventoryRow :=
  { leadId := r.leadId, uploadId := r.uploadId, phone := r.phone, title := r.title, state := r.state,
    rowNumber := r.rowNumber, ownerId }

/-- `DO UPDATE SET title=EXCLUDED.title,row_number=EXCLUDED.row_number` -/
def replaceListing (old new : SourceRow) : SourceRow :=
  { old with title := new.title, rowNumber := new.rowNumber }

structure SourceDb where
  uploads : List SourceUpload := []
  rows : List SourceRow := []

namespace SourceDb

variable (source : SourceDb)

def upload? (id : Uuid) : Option SourceUpload := lookup SourceUpload.id id source.uploads
def isReady (id : Uuid) : Bool := (source.upload? id).any SourceUpload.ready

/-- The view `published_inventory`, which DB1 reads as `db2_inventory_rows`. -/
def published : List Db2InventoryRow :=
  source.rows.flatMap (fun r =>
    (source.uploads.filter fun u => u.id = r.uploadId && u.ready).map fun u => r.foreign u.managerId)

/-- `INSERT INTO uploads ... ON CONFLICT (id) DO NOTHING` -/
def insertUpload (upload : LeadUpload) : SourceDb :=
  { source with uploads := upsert SourceUpload.id (fun old _ => old) source.uploads (newUpload upload) }

def setUpload (id : Uuid) (f : SourceUpload → SourceUpload) : Option SourceDb :=
  if source.isReady id then none
  else some { source with uploads := adjust SourceUpload.id id f source.uploads }

/-- The rows of a chunk with its progress. The triggers refuse a ready upload, the unique index a
second Lead under one phone. -/
def retain (id : Uuid) (staged : List SourceRow) (progress : Progress) : Option SourceDb :=
  let rows := staged.foldl (upsert SourceRow.key replaceListing) source.rows
  if Keyed SourceRow.phoneKey rows then
    ({ source with rows } : SourceDb).setUpload id (fun u => { u with progress })
  else none

end SourceDb

/-! ## The transactions of an import -/

def registryLead (id : Nat) (phone : String) : Lead :=
  { id, phone, inDb1 := false, title := "", state := "", sourceFlow := "db2_registry" }

/-- `INSERT INTO lead_inventory ... ON CONFLICT (phone) DO NOTHING`; the identity is drawn either
way. -/
def registerPhone (db : Db) (phone : String) : Db :=
  { db with
    leads := upsert Lead.phone (fun old _ => old) db.leads (registryLead (db.leadSeq + 1) phone)
    leadSeq := db.leadSeq + 1 }

def canonicalIds (db : Db) (phones : List String) : Db × List (String × Nat) :=
  let registered := phones.foldl registerPhone db
  (registered, (registered.leads.filter fun lead => lead.phone ∈ phones).map fun lead =>
    (lead.phone, lead.id))

/-- `{row[0]: row for row in rows}` -/
def uniqueRows (rows : List ImportRow) : List (String × ImportRow) := Dict.update ImportRow.phone id [] rows

/-- The rows copied to DB2; `none` is the `KeyError` of `ids[phone]`. -/
def stagedRows (upload : LeadUpload) (ids : List (String × Nat)) (rows : List ImportRow) :
    Option (List SourceRow) :=
  rows.mapM (fun row => (get? row.phone ids).map (fun leadId =>
    { uploadId := upload.id, leadId, phone := row.phone, title := row.title, state := upload.state,
      rowNumber := row.number }))

def counted (progress : Progress) (u : LeadUpload) : LeadUpload :=
  { u with
    processedRows := progress.processed, validRows := progress.valid, rejectedRows := progress.rejected }

/-- The last transaction of `_retain_chunk`: the counts, and a sign of life for the job's lock. -/
def recordProgress (db : Db) (uploadId : Uuid) (jobId : Option Nat) (progress : Progress)
    (now : Instant) : Db :=
  let db := db.setUpload uploadId (counted progress)
  match jobId with
  | some id => db.setJob id (fun j => { j with lockedAt := some now })
  | none => db

def Db.versionOf (db : Db) (uploadId : Uuid) : List Db2InventoryRow :=
  db.db2Rows.filter fun row => row.uploadId = uploadId

/-- `INSERT INTO lead_database_memberships ... SELECT ... ON CONFLICT (lead_id) DO UPDATE` -/
def joinVersion (memberships : List LeadDatabaseMembership) (version : List Db2InventoryRow) :
    List LeadDatabaseMembership :=
  version.foldl
    (fun rows row => upsert LeadDatabaseMembership.leadId
      (fun old new => { old with uploadId := new.uploadId, state := new.state }) rows
      { leadId := row.leadId, uploadId := row.uploadId, state := row.state }) memberships

def publishedUpload (progress : Progress) (total updated : Nat) (now : Instant) (u : LeadUpload) :
    LeadUpload :=
  { counted progress u with
    status := .complete
    error := ""
    importedRows := total - updated
    updatedRows := updated
    duplicateRows := progress.valid - total
    completedAt := some now }

def publish (db : Db) (uploadId : Uuid) (progress : Progress) (now : Instant) : Db :=
  match db.upload? uploadId with
  | none => db
  | some item =>
    if item.status = .complete then db
    else
      let version := db.versionOf uploadId
      let updated := db.memberships.filter (fun m => m.leadId ∈ version.map Db2InventoryRow.leadId)
      let db := { db with memberships := joinVersion db.memberships version }
      enqueueJob (db.setUpload uploadId (publishedUpload progress version.length updated.length now))
        .fulfillRoundRobin none .empty now

def refusedUpload (message : String) (progress : Progress) (u : LeadUpload) : LeadUpload :=
  { counted progress u with status := .failed, error := message }

def retryUpload (db : Db) (uploadId : Uuid) (now : Instant) : Except Fault Db :=
  match db.upload? uploadId with
  | none => .error (.http 404 "Upload was not found.")
  | some item =>
    if item.status ≠ .failed then .error (.http 409 "Only failed uploads can be retried.")
    else .ok (enqueueJob (db.setUpload uploadId fun u => { u with status := .queued, error := "" })
      .importLeadUpload none (.upload uploadId) now)

/-! ## One attempt -/

/-- The transaction an attempt commits next, with the upload as it was read at the start and the
rest of the pass over the file. -/
inductive ImportPhase where
  | idle
  | opening (upload : LeadUpload)
  | registering (upload : LeadUpload) (pass : CsvRun) (chunks : List Chunk)
  | retaining (upload : LeadUpload) (pass : CsvRun) (chunk : Chunk) (ids : List (String × Nat))
      (chunks : List Chunk)
  | counting (upload : LeadUpload) (pass : CsvRun) (chunk : Chunk) (chunks : List Chunk)
  | publishing (upload : LeadUpload) (progress : Progress)
  | refusing (upload : LeadUpload) (message : String) (progress : Progress)
  deriving DecidableEq

structure Importer where
  db : Db
  source : SourceDb := {}
  phase : ImportPhase := .idle
  publications : Nat := 0

variable (s : Importer)

/-- The first transaction of an attempt; an upload already complete is left alone. -/
def beginImport (uploadId : Uuid) : Importer :=
  match s.db.upload? uploadId with
  | none => { s with phase := .idle }
  | some item =>
    if item.status = .complete then { s with phase := .idle }
    else
      let processing := fun u : LeadUpload => { u with status := .processing, error := "" }
      { s with db := s.db.setUpload uploadId processing, phase := .opening (processing item) }

def mismatch : String := "The stored CSV does not match the submitted upload."

variable (upload : LeadUpload)

/-- The file is read when its digest is the submitted one; `stored` is `none` when it cannot be
opened. -/
def readStored (stored : Option (List UInt8)) : ImportPhase :=
  match stored with
  | none => .refusing upload unreadable {}
  | some octets =>
    if platform.sha256 octets ≠ upload.sha256 then .refusing upload mismatch {}
    else
      let pass := csvChunks platform (platform.readCsv octets)
      .registering upload pass pass.chunks

/-- A version completed by an earlier attempt goes straight to publication. -/
def openSource (stored : Option (List UInt8)) : Importer :=
  match s.source.upload? upload.id with
  | some existing =>
    if existing.sha256 ≠ upload.sha256 then { s with phase := .refusing upload mismatch {} }
    else if existing.ready then { s with phase := .publishing upload existing.progress }
    else { s with phase := readStored platform upload stored }
  | none => { s with source := s.source.insertUpload upload, phase := readStored platform upload stored }

/-- After the last chunk the version is complete, unless the file turned out to be unusable. -/
def finishPass (pass : CsvRun) : Importer :=
  match pass.failure with
  | some message => { s with phase := .refusing upload message pass.progress }
  | none =>
    if pass.progress.processed = 0 then
      { s with phase := .refusing upload "The CSV contains no lead records." pass.progress }
    else if pass.progress.valid = 0 then
      { s with
        phase :=
          .refusing upload "The CSV contains no valid phone records. Review the rejected rows."
          pass.progress }
    else
      match s.source.setUpload upload.id (fun u => { u with ready := true, progress := pass.progress }) with
      | none => { s with phase := .idle }
      | some source => { s with source, phase := .publishing upload pass.progress }

def publishable (db : Db) (uploadId : Uuid) : Bool :=
  (db.upload? uploadId).any fun u => u.status ≠ .complete

/-- The next transaction of the attempt. An error of the database ends it as a crash does. -/
def advanceImport (jobId : Option Nat) (s : Importer) (stored : Option (List UInt8))
    (now : Instant) : Importer :=
  match s.phase with
  | .idle => s
  | .opening upload => openSource platform s upload stored
  | .registering upload pass [] => finishPass s upload pass
  | .registering upload pass (chunk :: chunks) =>
    let registered := canonicalIds s.db ((uniqueRows chunk.rows).map Prod.fst)
    { s with db := registered.1, phase := .retaining upload pass chunk registered.2 chunks }
  | .retaining upload pass chunk ids chunks =>
    match (stagedRows upload ids ((uniqueRows chunk.rows).map Prod.snd)).bind
        (fun staged => s.source.retain upload.id staged chunk.progress) with
    | none => { s with phase := .idle }
    | some source => { s with source, phase := .counting upload pass chunk chunks }
  | .counting upload pass chunk chunks =>
    { s with
      db := recordProgress s.db upload.id jobId chunk.progress now
      phase := .registering upload pass chunks }
  | .publishing upload progress =>
    let db := { s.db with db2Rows := s.source.published }
    { s with
      db := publish db upload.id progress now
      phase := .idle
      publications := s.publications + if publishable db upload.id then 1 else 0 }
  | .refusing upload message progress =>
    { s with db := s.db.setUpload upload.id (refusedUpload message progress), phase := .idle }

end Jawnix
