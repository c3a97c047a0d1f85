import Mathlib.Data.Prod.Lex
import Mathlib.Data.String.Basic
import Jawnix.Library.Register
import Jawnix.Jobs
import Jawnix.States

/-!
# Synchronising Google Maps Scraper Datasets

`import_scraper_sqlite` of `migration.py` and `sync_dataset_version` of
`scraper.py`: every row of a dataset becomes a listing observation, and a valid row
newer than the Current Listing of its Lead replaces it. A digest determines the
dataset. Case mapping, the decimal digits and `datetime.fromisoformat` are the
interpreter's.
-/
namespace Jawnix

structure ScraperRow where
  rowNumber : Nat
  phone : Option String := none
  company : Option String := none
  fullName : Option String := none
  niche : Option String := none
  state : Option String := none
  source : Option String := none
  createdAt : Option String := none

/-- The columns and rows of the `leads` table; `rowid` is unique. -/
structure ScraperDataset where
  columns : List String
  rows : List ScraperRow
  numbered : (rows.map ScraperRow.rowNumber).Nodup

structure SyncPlatform where
  casing : Casing
  digit : Char → Bool
  /-- The instant of an ISO 8601 text, read as UTC where it names no offset. -/
  fromisoformat : String → Option Instant
  /-- The database in the file with a digest, if it is one. -/
  dataset : String → Option ScraperDataset

structure Listing where
  rowNumber : Nat
  phone : Option String
  title : String
  state : String
  source : String
  niche : String
  observedAt : Instant

def requiredColumns : List String := ["company", "full_name", "niche", "phone", "source", "state"]

/-- `value or other` on a nullable text. -/
def orElse (value : Option String) (other : String) : String :=
  match value with
  | none => other
  | some text => if text = "" then other else text

/-- SQLite's `UPPER`, which maps the ASCII letters alone. -/
def asciiUpper (s : String) : String := ofList (s.toList.map Char.toUpper)

def ScraperDataset.observed (dataset : ScraperDataset) (row : ScraperRow) : Option String :=
  if "created_at" ∈ dataset.columns then row.createdAt else none

/-- `text.replace("Z", "+00:00")` -/
def zuluOffset (s : String) : String :=
  ofList (s.toList.flatMap fun c => if c = 'Z' then "+00:00".toList else [c])

variable (platform : SyncPlatform) (l : Listing) (db : Db) (checksum : String)

/-- A row without a readable time is as old as its number says. -/
def observedAt (observed : Option String) (rowNumber : Nat) : Instant :=
  match platform.fromisoformat (zuluOffset (strip (observed.getD ""))) with
  | some instant => instant
  | none => ((rowNumber % 1000000 : Nat) : Int)

def readListing (dataset : ScraperDataset) (row : ScraperRow) : Listing where
  rowNumber := row.rowNumber
  phone := normalizePhone platform.digit (row.phone.getD "")
  title := strip (orElse row.company (row.fullName.getD ""))
  state := platform.casing.upper (strip (row.state.getD ""))
  source := strip (orElse row.source "unknown")
  niche := strip (row.niche.getD "")
  observedAt := observedAt platform (dataset.observed row) row.rowNumber

def ScraperDataset.selected (dataset : ScraperDataset) : List ScraperRow :=
  let kept := dataset.rows.filter (fun row => asciiUpper (row.source.getD "") ≠ "NPPES")
  let place := fun row : ScraperRow => toLex ((dataset.observed row).getD "", row.rowNumber)
  kept.insertionSort fun a b => place a ≤ place b

def listings (dataset : ScraperDataset) : List Listing :=
  dataset.selected.map (readListing platform dataset)

def Listing.valid : Bool := l.phone.isSome && l.title ≠ "" && l.state ∈ usStates
def Listing.validPhone : Option String := if l.valid then l.phone else none

/-- `(observed_at, checksum, row_number)` -/
def ListingObservation.order (o : ListingObservation) : Int ×ₗ String ×ₗ Nat :=
  toLex (o.observedAt, toLex (o.datasetChecksum, o.rowNumber))

def Listing.observation (checksum : String) (id : Nat) (leadId : Option Nat) : ListingObservation where
  id := id
  leadId := leadId
  datasetChecksum := checksum
  rowNumber := l.rowNumber
  normalizedPhone := l.phone.getD ""
  title := l.title
  state := if l.state ∈ usStates then l.state else ""
  source := clipped 160 l.source
  niche := clipped 160 l.niche
  valid := l.valid
  observedAt := l.observedAt

def Listing.flow : String := clipped 80 ("google_maps:" ++ l.source)
def fromGoogleMaps (flow : String) : Bool := "google_maps:".toList.isPrefixOf flow.toList

def Listing.newLead (id : Nat) (phone : String) : Lead :=
  { id, phone, title := l.title, state := l.state, sourceFlow := l.flow }

def enterDb1 (lead : Lead) : Lead := { lead with inDb1 := true }

def admitListing (db : Db) (l : Listing) (phone : String) : Db :=
  match db.leadOfPhone? phone with
  | none => { db with leads := db.leads ++ [l.newLead (db.leadSeq + 1) phone], leadSeq := db.leadSeq + 1 }
  | some _ => db.editLead phone enterDb1

def recordObservation (db : Db) (checksum : String) (l : Listing) : Db :=
  { db with
    observations := db.observations ++
      [l.observation checksum (db.observationSeq + 1) ((l.phone.bind db.leadOfPhone?).map Lead.id)]
    observationSeq := db.observationSeq + 1 }

def Db.currentListing (db : Db) (lead : Lead) : Option ListingObservation :=
  lead.currentListingObservationId.bind db.observation?

def Db.activeCorrection (lead : Lead) : Option LeadCorrectionEvent :=
  lead.activeCorrectionId.bind db.correction?

/-- A Lead that had another source keeps its listing as the Legacy Listing Snapshot. -/
def keepLegacy (lead : Lead) : Lead :=
  if lead.legacyTitle = "" ∧ fromGoogleMaps lead.sourceFlow = false then
    { lead with legacyTitle := lead.title, legacyState := lead.state }
  else lead

/-- The Lead under a newer listing, whose title and state are its own unless they are corrected. -/
def relist (id : Nat) (current : Option ListingObservation)
    (correction : Option LeadCorrectionEvent) (lead : Lead) : Lead :=
  let kept := if current = none then keepLegacy lead else lead
  let listed := { kept with sourceFlow := l.flow, currentListingObservationId := some id }
  if correction = none then { listed with title := l.title, state := l.state } else listed

/-- The observation last recorded replaces an older Current Listing of its Lead. -/
def supersede (l : Listing) (phone : String) : Db :=
  match db.leadOfPhone? phone with
  | none => db
  | some lead =>
    let current := db.currentListing lead
    let new := l.observation checksum db.observationSeq (some lead.id)
    if current.all (fun c => c.order < new.order) then
      db.editLead phone (relist l db.observationSeq current (db.activeCorrection lead))
    else db

/-- The loop over the rows: the database and the counts of the audit. -/
structure Syncing where
  db : Db
  sourceRows : Nat := 0
  imported : Nat := 0
  quarantined : Nat := 0

def observeRow (s : Syncing) (l : Listing) : Syncing :=
  match l.validPhone with
  | none =>
    { s with
      db := recordObservation s.db checksum l
      sourceRows := s.sourceRows + 1
      quarantined := s.quarantined + 1 }
  | some phone =>
    { s with
      db := supersede (recordObservation (admitListing s.db l phone) checksum l) checksum l phone
      sourceRows := s.sourceRows + 1
      imported := if (s.db.leadOfPhone? phone).isSome then s.imported else s.imported + 1 }

def Db.audited : Bool := db.audits.any fun a => a.checksum = checksum

def missingColumns (dataset : ScraperDataset) : List String :=
  requiredColumns.filter fun c => c ∉ dataset.columns

def importScraperSqlite (path checksum : String) : Except Fault Db :=
  if db.audited checksum then .ok db
  else
    match platform.dataset checksum with
    | none => .error (.runtime "file is not a database")
    | some dataset =>
      if missingColumns dataset = [] then
        let s := (listings platform dataset).foldl (observeRow checksum) { db }
        .ok { s.db with
          audits := s.db.audits ++
            [{ sourcePath := path, checksum, sourceRows := s.sourceRows, importedRows := s.imported,
               quarantinedRows := s.quarantined }] }
      else
        .error (.value ("Google Maps Scraper Dataset is missing column(s): " ++
          String.intercalate ", " (missingColumns dataset)))

structure FoundFile where
  path : String
  checksum : String

/-- The `try` block: the file must be the published one. A `broken` import raises an error of the
database. -/
def importPublication (publication : DatasetPublication) (found : Option FoundFile)
    (broken : Bool) : Except Fault Db :=
  match found with
  | none => .error (.runtime "No such file or directory")
  | some file =>
    if file.checksum = publication.checksum then
      if broken then .error (.runtime "database error")
      else importScraperSqlite platform db file.path publication.checksum
    else .error (.runtime "Scraper Dataset checksum does not match its publication.")

def syncDatasetVersion (version : Nat) (force : Bool) (found : Option FoundFile)
    (broken : Bool) (now : Instant) : Except Fault Db :=
  match db.publication? version with
  | none => .error (.lookup "Scraper Dataset version was not found.")
  | some publication =>
    if publication.syncStatus = .complete ∧ force = false then .ok db
    else
      match importPublication platform db publication found broken with
      | .ok imported =>
        .ok (enqueueJob (imported.setPublication version fun p => { p with syncStatus := .complete })
          .fulfillRoundRobin none .empty now)
      | .error _ =>
        .ok (enqueueJob (db.setPublication version fun p => { p with syncStatus := .failed })
          (.other "sync_inventory") none (.dataset version) now)

end Jawnix
