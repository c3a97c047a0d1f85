import Jawnix.LeadDatabases
import Jawnix.ScraperSync

/-!
# Lead Corrections

`eligibility.py` and the correction endpoints of `api.py`: an audited override of a
Lead's delivered title and state. An active Lead Correction outranks the Current
Listing, which outranks the Legacy Listing Snapshot; a Lead of DB2 alone rests on
its published CSV row.
-/
namespace Jawnix

structure LeadEvidence where
  kind : EvidenceKind
  title : String := ""
  state : String := ""
  observationId : Option Nat := none
  uploadId : Option Uuid := none

def noEvidence : LeadEvidence := { kind := .noEvidence }

def csvEvidence (db : Db) (lead : Lead) : LeadEvidence :=
  match db.membership? lead.id with
  | none => noEvidence
  | some membership =>
    match get? lead.id (db2Listings db [(lead.id, membership.uploadId)]) with
    | none => noEvidence
    | some source =>
      { kind := .csvUpload, title := source.title, state := source.state,
        uploadId := some membership.uploadId }

def listingEvidence (db : Db) (lead : Lead) : LeadEvidence :=
  match db.currentListing lead with
  | some o => { kind := .currentListing, title := o.title, state := o.state, observationId := some o.id }
  | none =>
    if lead.legacyTitle ≠ "" ∨ lead.legacyState ≠ "" then
      { kind := .legacySnapshot, title := lead.legacyTitle, state := lead.legacyState }
    else noEvidence

def underlyingEvidence (db : Db) (lead : Lead) (database : Option LeadDatabase) : LeadEvidence :=
  if database = some .db2 ∨ lead.inDb1 = false then csvEvidence db lead else listingEvidence db lead

def leadEvidence (db : Db) (lead : Lead) (database : Option LeadDatabase) : LeadEvidence :=
  match db.activeCorrection lead with
  | some active =>
    { kind := .priorCorrection, title := active.title, state := active.state,
      uploadId := active.basedOnUploadId }
  | none => underlyingEvidence db lead database

structure Override where
  actorId : String
  reason : String
  title : Option String
  state : Option String
  database : Option LeadDatabase := none

def emptyCorrection : String := "A Lead Correction must change the delivered title or state."

def deliveredValues (db : Db) (lead : Lead) (database : Option LeadDatabase) : String × String :=
  if database = some .db2 ∨ lead.inDb1 = false then
    ((leadEvidence db lead database).title, (leadEvidence db lead database).state)
  else (lead.title, lead.state)

def proposed (override : Override) (current : String × String) : String × String :=
  ((override.title.map strip).getD current.1, orElse override.state current.2)

def correctionEvent (db : Db) (lead : Lead) (override : Override) (values : String × String)
    (id : Uuid) (now : Instant) : LeadCorrectionEvent :=
  let evidence := leadEvidence db lead override.database
  { id
    leadId := lead.id
    action := .applied
    title := values.1
    state := values.2
    actorId := override.actorId
    reason := strip override.reason
    supersedesCorrectionId := lead.activeCorrectionId
    basedOnKind := evidence.kind
    basedOnObservationId := evidence.observationId
    basedOnUploadId := evidence.uploadId
    basedOnTitle := evidence.title
    basedOnState := evidence.state
    createdAt := now }

/-- `INSERT INTO lead_correction_events`; the identity is the primary key. -/
def insertCorrection (db : Db) (event : LeadCorrectionEvent) : Except Fault Db :=
  if (db.correction? event.id).isSome then .error (.integrity "lead_correction_events_pkey")
  else .ok { db with corrections := db.corrections ++ [event] }

def correctLead (event : LeadCorrectionEvent) (lead : Lead) : Lead :=
  { lead with activeCorrectionId := some event.id, title := event.title, state := event.state }

def recordCorrection (db : Db) (lead : Lead) (override : Override) (id : Uuid) (now : Instant) :
    Except Fault Db :=
  let current := deliveredValues db lead override.database
  let values := proposed override current
  if values = current then .error (.control emptyCorrection)
  else do
    let event := correctionEvent db lead override values id now
    let inserted ← insertCorrection db event
    .ok (inserted.editLead lead.phone (correctLead event))

def Db.withCorrection (db : Db) (e : LeadCorrectionEvent) : Db :=
  { db with corrections := db.corrections ++ [e] }

theorem recordCorrection_ok {db db' : Db} {lead : Lead} {override : Override} {id : Uuid}
    {now : Instant} (done : recordCorrection db lead override id now = .ok db') :
    ∃ e, db.correction? e.id = none ∧ db' = (db.withCorrection e).editLead lead.phone (correctLead e) := by
  rw [recordCorrection] at done
  split at done
  · cases done
  obtain ⟨inserted, stored, done⟩ := bind_ok done
  cases done
  obtain ⟨fresh, stored⟩ := guard_ok stored
  cases stored
  exact ⟨_, by simpa using fresh, rfl⟩

variable (db : Db) (reportId : Uuid)

/-- `PUT /api/admin/leads/{lead_id}/correction`, which names no database. -/
def applyLeadCorrection (leadId : Nat) (override : Override) (id : Uuid) (now : Instant) : Except Fault Db :=
  match db.lead? leadId with
  | none => .error (.http 404 "Lead was not found.")
  | some lead =>
    match recordCorrection db lead { override with database := none } id now with
    | .error (.control message) => .error (.http 422 message)
    | outcome => outcome

def fallBack (evidence : LeadEvidence) (lead : Lead) : Lead :=
  { lead with activeCorrectionId := none, title := evidence.title, state := evidence.state }

def nowhereToFall : String :=
  "This Lead Correction cannot be removed because there is no Current Listing or Legacy Listing Snapshot to fall back to."

def removeLeadCorrection (leadId : Nat) (actorId reason : String) (id : Uuid) (now : Instant) :
    Except Fault Db :=
  match db.lead? leadId with
  | none => .error (.http 404 "Lead was not found.")
  | some lead =>
    match lead.activeCorrectionId with
    | none => .error (.http 409 "Lead has no active correction.")
    | some activeId =>
      match db.correction? activeId with
      | none => .error (.runtime "'NoneType' object has no attribute 'id'")
      | some active => do
        let evidence := leadEvidence db { lead with activeCorrectionId := none } none
        if evidence.kind = .noEvidence then .error (.http 409 nowhereToFall)
        else
          let inserted ← insertCorrection db
            { id
              leadId := lead.id
              action := .removed
              title := active.title
              state := active.state
              actorId
              reason := strip reason
              supersedesCorrectionId := some active.id
              basedOnKind := evidence.kind
              basedOnObservationId := evidence.observationId
              basedOnTitle := evidence.title
              basedOnState := evidence.state
              createdAt := now }
          .ok (inserted.editLead lead.phone (fallBack evidence))

/-- `release_report_hold`: the one active hold of the report ends. -/
def releaseReportHold : Db :=
  match db.eligibilityHolds.find? (fun hold => hold.reportId = some reportId && hold.active) with
  | none => db
  | some hold =>
    { db with
      eligibilityHolds :=
        adjust EligibilityHold.id hold.id
        (fun h => { h with active := false }) db.eligibilityHolds }

theorem releaseReportHold_frame :
    ∃ eligibilityHolds, releaseReportHold db reportId = { db with eligibilityHolds } := by
  unfold releaseReportHold
  split
  · exact ⟨db.eligibilityHolds, rfl⟩
  · exact ⟨_, rfl⟩

end Jawnix
