import Jawnix.ScraperSync

/-!
# CSV manifest imports

`import_manifest` of `migration.py`, on its two backends. The ORM path upserts the
rows of a batch one phone at a time; the PostgreSQL path stages the whole file and
merges it with one aggregate per phone.
-/
namespace Jawnix

/-- The cells of a `DictReader` row; one past the end of the record is missing. -/
structure ManifestRecord where
  phone : Option String := none
  title : Option String := none
  state : Option String := none
  flow : Option String := none
  agent : Option String := none
  dateDistributed : Option String := none

structure ManifestFile where
  header : List String
  records : List ManifestRecord

structure ManifestRow where
  phone : String
  title : String
  state : String
  sourceFlow : String
  lastDistributedAt : Option Instant
  agent : Option String

structure ManifestPlatform where
  casing : Casing
  digit : Char → Bool
  /-- Midnight UTC of an ISO 8601 date. -/
  dateFromisoformat : String → Option Instant
  /-- The order of the database's collation. -/
  collatesBefore : String → String → Bool
  /-- Whether the session, after these rows of an import, still holds the Lead of a
  phone among them, and with it the time zone of its date. -/
  remembers : List ManifestRow → String → Bool := fun _ _ => false

def manifestColumns : List String :=
    ["phone", "title", "state", "first_seen", "flow", "agent", "date_distributed"]
def manifestSchema : String := "Manifest header does not match the expected schema."

/-- `none` is a quarantined row. -/
def readManifestRow (platform : ManifestPlatform) (record : ManifestRecord) : Option ManifestRow :=
  let state := platform.casing.upper (strip (record.state.getD ""))
  match normalizePhone platform.digit (record.phone.getD "") with
  | none => none
  | some phone =>
    if state ∈ usStates then
      some
        { phone
          title := record.title.getD ""
          state
          sourceFlow := orElse record.flow "manifest"
          lastDistributedAt :=
            record.dateDistributed.bind
              (fun text => if text = "" then none else platform.dateFromisoformat text)
          agent := record.agent }
    else none

def manifestRows (platform : ManifestPlatform) (records : List ManifestRecord) : List ManifestRow :=
  records.filterMap (readManifestRow platform)

def ManifestRow.slug (row : ManifestRow) : String := strip (row.agent.getD "")

/-- `by_phone.setdefault(row["phone"], row)` over a batch. -/
def firstRows (batch : List ManifestRow) : List ManifestRow :=
  batch.foldl (fun firsts row => if firsts.any (fun f => f.phone = row.phone) then firsts else
    firsts ++ [row]) []

/-- The Legacy Listing Snapshot of a new Lead is its first import. -/
def ManifestRow.newLead (row : ManifestRow) (id : Nat) : Lead :=
  { id
    phone := row.phone
    title := row.title
    state := row.state
    legacyTitle := row.title
    legacyState := row.state
    sourceFlow := row.sourceFlow
    lastDistributedAt := row.lastDistributedAt }

def ManifestRow.enter (row : ManifestRow) (lead : Lead) : Lead :=
  let entered := { lead with inDb1 := true, legacyTitle := row.title, legacyState := row.state }
  if lead.activeCorrectionId = none then { entered with title := row.title, state := row.state } else entered

/-- `date > last`, where no last date is older than any. -/
def laterDate (last date : Option Instant) : Option Instant :=
  match last, date with
  | last, none => last
  | none, some date => some date
  | some last, some date => if last < date then some date else some last

/-- The manifest wins over a Lead of DB1. -/
def ManifestRow.overwrite (row : ManifestRow) (lead : Lead) : Lead :=
  let named := { lead with title := if row.title = "" then lead.title else row.title, state := row.state }
  let kept :=
    if named.legacyTitle = "" ∧ named.legacyState = "" then
      { named with legacyTitle := named.title, legacyState := named.state }
    else named
  { kept with lastDistributedAt := laterDate lead.lastDistributedAt row.lastDistributedAt }

def upsertLead (manifestWins : Bool) (db : Db) (row : ManifestRow) : Db :=
  match db.leadOfPhone? row.phone with
  | none => { db with leads := db.leads ++ [row.newLead (db.leadSeq + 1)], leadSeq := db.leadSeq + 1 }
  | some lead =>
    if lead.inDb1 = false then db.editLead row.phone row.enter
    else if manifestWins then db.editLead row.phone row.overwrite
    else db

def upsertLeadBatch (manifestWins : Bool) (db : Db) (batch : List ManifestRow) : Db :=
  (firstRows batch).foldl (upsertLead manifestWins) db

/-- The recipient of a legacy delivery, among the agents. -/
def Db.agentOfSlug? (db : Db) (slug : String) : Option Customer := lookup Customer.slug slug db.customers

def unknownRecipient : String := "legacy_unknown_recipient"

/-- `(lead_id, agent_id, delivered_at, source)` -/
def DistributionEvent.legacyKey (e : DistributionEvent) : Nat × Option Nat × Instant × String :=
  (e.leadId, e.customerId, e.deliveredAt, e.source)

variable (db : Db) (platform : ManifestPlatform) (row : ManifestRow)

def manifestEvent (id : Nat) (row : ManifestRow) (deliveredAt : Instant) (lead : Lead) : DistributionEvent :=
  let agent := db.agentOfSlug? row.slug
  { id
    leadId := lead.id
    customerId := agent.map Customer.id
    agencyId := none
    requestId := none
    deliveredAt
    source := if agent.isSome then "manifest" else unknownRecipient }

def appendEvent (e : DistributionEvent) : Db :=
  { db with events := db.events ++ [e], eventSeq := db.eventSeq + 1 }

/-- An event is added unless the batch, which began with `stored` events, has added one of
the same recipient, date and source. One that is stored comes back from SQLite without
its time zone, and equals none. -/
def recordLegacy (stored : Nat) (db : Db) (row : ManifestRow) : Db :=
  match row.lastDistributedAt, db.leadOfPhone? row.phone with
  | some deliveredAt, some lead =>
    if orElse row.agent "" = "" then db
    else
      let e := manifestEvent db (db.eventSeq + 1) row deliveredAt lead
      if (db.events.drop stored).any (fun old => old.legacyKey = e.legacyKey) then db
      else appendEvent db e
  | _, _ => db

def importBatch (db : Db) (batch : List ManifestRecord) : Db :=
  let valid := manifestRows platform batch
  valid.foldl (recordLegacy db.events.length) (upsertLeadBatch true db valid)

def importOrm (db : Db) (records : List ManifestRecord) : Db :=
  (chunks 10000 records).foldl (importBatch platform) db

/-- `row["last_distributed_at"] > lead.last_distributed_at` raises where the stored date has
no time zone. -/
def comparesStored (db : Db) (earlier : List ManifestRow) (row : ManifestRow) : Bool :=
  row.lastDistributedAt.isSome &&
    (db.leadOfPhone? row.phone).any (fun lead => lead.inDb1 && lead.lastDistributedAt.isSome) &&
    !(earlier.any (fun old => old.phone = row.phone) && platform.remembers earlier row.phone)

/-- The row adds a delivery to a Customer that is stored, which the unique constraint refuses. -/
def repeatsDelivery (row : ManifestRow) : Bool :=
  match row.lastDistributedAt, db.leadOfPhone? row.phone with
  | some deliveredAt, some lead =>
    orElse row.agent "" ≠ "" && (db.agentOfSlug? row.slug).isSome &&
      db.events.any fun old => old.legacyKey = (manifestEvent db 0 row deliveredAt lead).legacyKey
  | _, _ => false

/-- What the ORM raises on SQLite, by the first batch that does. -/
def ormFault (db : Db) (earlier : List ManifestRow) : List (List ManifestRecord) → Option Fault
  | [] => none
  | batch :: batches =>
    let valid := manifestRows platform batch
    if (firstRows valid).any (comparesStored platform db earlier) then
      some (.type "can't compare offset-naive and offset-aware datetimes")
    else if valid.any (repeatsDelivery (upsertLeadBatch true db valid)) then
      some (.integrity "uq_legacy_distribution_event")
    else ormFault (importBatch platform db batch) (earlier ++ valid) batches

/-- `MAX(text)`, which is NULL over no rows. -/
def maxText (texts : List String) : Option String :=
  texts.foldl (fun top text =>
    match top with
    | none => some text
    | some t => if platform.collatesBefore t text then some text else some t) none

def maxDate (dates : List (Option Instant)) : Option Instant := dates.foldl laterDate none

def aggregateRows (phone : String) (rows : List ManifestRow) : ManifestRow :=
  let own := rows.filter (fun row => row.phone = phone)
  { phone
    title := (maxText platform ((own.map ManifestRow.title).filter fun t => t ≠ "")).getD ""
    state := (maxText platform (own.map ManifestRow.state)).getD ""
    sourceFlow :=
      (maxText platform ((own.map ManifestRow.sourceFlow).filter fun t => t ≠ "")).getD "manifest"
    lastDistributedAt := maxDate (own.map ManifestRow.lastDistributedAt)
    agent := none }

def ManifestRow.merge (lead : Lead) : Lead :=
  let bare := lead.legacyTitle = "" ∧ lead.legacyState = ""
  let title := if row.title = "" then lead.title else row.title
  { lead with
    inDb1 := true
    title
    state := row.state
    legacyTitle := if bare then title else lead.legacyTitle
    legacyState := if bare then row.state else lead.legacyState
    sourceFlow := if row.sourceFlow = "" then lead.sourceFlow else row.sourceFlow
    lastDistributedAt := laterDate lead.lastDistributedAt row.lastDistributedAt }

/-- One group of `INSERT ... SELECT ... GROUP BY phone ON CONFLICT (phone) DO UPDATE`; an identity
is drawn either way. -/
def mergeLead : Db :=
  { db with
    leads := upsert Lead.phone (fun old _ => row.merge old) db.leads (row.newLead (db.leadSeq + 1))
    leadSeq := db.leadSeq + 1 }

def mergeLeads (db : Db) (rows : List ManifestRow) : Db :=
  ((rows.map ManifestRow.phone).dedup.map fun phone => aggregateRows platform phone rows).foldl mergeLead db

def stagedDelivery : Option (Nat × Option Nat × Instant × String) :=
  match row.lastDistributedAt, db.leadOfPhone? row.phone with
  | some deliveredAt, some lead =>
    if row.slug = "" then none else some (manifestEvent db 0 row deliveredAt lead).legacyKey
  | _, _ => none

def stagedDeliveries (rows : List ManifestRow) : List (Nat × Option Nat × Instant × String) :=
  (rows.filterMap (stagedDelivery db)).dedup

/-- `ON CONFLICT DO NOTHING` on a key in which NULL differs from every value. -/
def insertDelivery (key : Nat × Option Nat × Instant × String) : Db :=
  if key.2.1.isSome && db.events.any (fun old => old.legacyKey = key) then db
  else
    appendEvent db
      { id := db.eventSeq + 1, leadId := key.1, customerId := key.2.1, agencyId := none, requestId := none,
        deliveredAt := key.2.2.1, source := key.2.2.2 }

def importPostgresql (db : Db) (records : List ManifestRecord) : Db :=
  let stage := (chunks 50000 records).flatMap (manifestRows platform)
  let merged := mergeLeads platform db stage
  (stagedDeliveries merged stage).foldl insertDelivery merged

inductive Backend where
  | orm | postgresql

def Db.auditedFile (path checksum : String) : Bool :=
  db.audits.any fun a => decide (a.sourcePath = path ∧ a.checksum = checksum)

def manifestAudit (path checksum : String) (file : ManifestFile) : MigrationAudit :=
  let valid := manifestRows platform file.records
  { sourcePath := path
    checksum
    sourceRows := file.records.length
    importedRows := valid.length
    quarantinedRows := file.records.length - valid.length }

/-- What an import writes that does not raise. -/
def importedBy (backend : Backend) (db : Db) (records : List ManifestRecord) : Db :=
  match backend with
  | .orm => importOrm platform db records
  | .postgresql => importPostgresql platform db records

def ManifestFile.hasColumns (file : ManifestFile) : Bool := manifestColumns.all fun c => c ∈ file.header

def importManifest (backend : Backend) (db : Db) (path checksum : String)
    (file : ManifestFile) : Except Fault Db :=
  if db.auditedFile path checksum then .ok db
  else if file.hasColumns then
    match backend, ormFault platform db [] (chunks 10000 file.records) with
    | .orm, some fault => .error fault
    | _, _ =>
      let imported := importedBy platform backend db file.records
      .ok { imported with audits := imported.audits ++ [manifestAudit platform path checksum file] }
  else .error (.value manifestSchema)

end Jawnix
