import Jawnix.Corrections
import Jawnix.Feedback

/-!
# Lead Report resolutions

The three decisions an administrator makes on a Lead Report: `dismiss_report`,
`correct_from_report` and `suppress_from_report` of `eligibility.py` behind their
endpoints. Each closes the report and releases its hold first, through the shared
`_resolve`, and may still raise after that; so a service is modelled by what it has
written so far together with what it returned or raised.
-/
namespace Jawnix

variable (db : Db) (reportId : Uuid) (note : String)

def closeReport (action : ReportStatus) : Db :=
  (releaseReportHold db reportId).setReport reportId fun r => { r with status := action }

def resolve (report : LeadReport) (action : ReportStatus) :
    Db × Except Fault (DistributionEvent × Option Lead) :=
  if report.status ≠ .opened then (db, .error (.control "This Lead Report is already resolved."))
  else
    match db.event? report.distributionEventId with
    | none => (db, .error (.runtime "'NoneType' object has no attribute 'lead_id'"))
    | some event => (closeReport db report.id action, .ok (event, db.lead? event.leadId))

theorem resolve_ok {db written : Db} {report : LeadReport} {action : ReportStatus}
    {result : DistributionEvent × Option Lead} (done : resolve db report action = (written, .ok result)) :
    report.status = .opened ∧ written = closeReport db report.id action ∧
      db.event? report.distributionEventId = some result.1 ∧ db.lead? result.1.leadId = result.2 := by
  unfold resolve at done
  split at done
  · cases done
  case isFalse isOpen =>
  split at done
  · cases done
  case h_2 event delivered =>
  cases done
  exact ⟨not_not.mp isOpen, rfl, delivered, rfl⟩

def dismissReport (report : LeadReport) : Db × Except Fault Unit :=
  match resolve db report .dismissed with
  | (written, .error fault) => (written, .error fault)
  | (written, .ok _) => (written, .ok ())

def correctReport (override : Override) (id : Uuid) (now : Instant) (report : LeadReport) :
    Db × Except Fault Unit :=
  if override.title = none ∧ override.state = none then
    (db, .error (.control "A Lead Correction must propose a title, a state, or both."))
  else
    match resolve db report .corrected with
    | (written, .error fault) => (written, .error fault)
    | (written, .ok (_, none)) =>
        (written, .error (.runtime "'NoneType' object has no attribute 'active_correction_id'"))
    | (written, .ok (event, some lead)) =>
      match recordCorrection written lead
        { override with database := some event.inventoryDatabase } id now with
      | .error fault => (written, .error fault)
      | .ok corrected => (corrected, .ok ())

def suppressLead (lead : Lead) : Lead :=
  { lead with suppressed := true, suppressionReason := strip note }

def suppressFromReport (report : LeadReport) : Db × Except Fault Unit :=
  match resolve db report .suppressed with
  | (written, .error fault) => (written, .error fault)
  | (written, .ok (_, none)) =>
      (written, .error (.runtime "'NoneType' object has no attribute 'suppressed'"))
  | (written, .ok (_, some lead)) => (written.editLead lead.phone (suppressLead note), .ok ())

def answerReport (refusal : Nat) (service : LeadReport → Db × Except Fault Unit) :
    Db × Except Fault Unit :=
  match db.report? reportId with
  | none => (db, .error (.http 404 "Lead Report was not found."))
  | some report =>
    match service report with
    | (_, .error (.control message)) => (db, .error (.http refusal message))
    | (_, .error fault) => (db, .error fault)
    | (written, .ok ()) => (written, .ok ())

inductive Resolution where
  | dismiss
  | correct (override : Override) (id : Uuid) (now : Instant)
  | suppress (note : String)

def dismissLeadReport : Db × Except Fault Unit :=
  answerReport db reportId 409 (dismissReport db)

def correctLeadReport (override : Override) (id : Uuid) (now : Instant) : Db × Except Fault Unit :=
  answerReport db reportId 422 (correctReport db override id now)

def suppressLeadReport : Db × Except Fault Unit :=
  answerReport db reportId 409 (suppressFromReport db note)

def resolveLeadReport : Resolution → Db × Except Fault Unit
  | .dismiss => dismissLeadReport db reportId
  | .correct override id now => correctLeadReport db reportId override id now
  | .suppress note => suppressLeadReport db reportId note

def Resolution.action : Resolution → ReportStatus
  | .dismiss => .dismissed
  | .correct .. => .corrected
  | .suppress _ => .suppressed

theorem resolution_action_closes (resolution : Resolution) : resolution.action ≠ .opened := by
  cases resolution <;> nofun

/-- The endpoint commits what the service wrote, and nothing of what it wrote before it raised. -/
theorem answerReport_cases (refusal : Nat) (service : LeadReport → Db × Except Fault Unit) :
    (∃ fault, answerReport db reportId refusal service = (db, .error fault)) ∨
    ∃ report written, db.report? reportId = some report ∧ service report = (written, .ok ()) ∧
    answerReport db reportId refusal service = (written, .ok ()) := by
  unfold answerReport
  cases found : db.report? reportId with
  | none => exact .inl ⟨_, rfl⟩
  | some report =>
  rcases answer : service report with ⟨written, outcome⟩
  cases outcome with
  | ok result => exact .inr ⟨report, written, rfl, answer, by simp only [answer]⟩
  | error fault =>
    simp only [answer]
    cases fault <;> exact .inl ⟨_, rfl⟩

/-- A resolution that succeeds closed an open report; beyond that it touched the Lead and its
corrections at most. -/
theorem resolveLeadReport_cases (resolution : Resolution) :
    (∃ fault, resolveLeadReport db reportId resolution = (db, .error fault)) ∨
      ∃ report leads corrections, db.report? reportId = some report ∧ report.status = .opened ∧
      resolveLeadReport db reportId resolution =
          ({ closeReport db report.id resolution.action with leads, corrections }, .ok ()) := by
  cases resolution with
  | dismiss =>
    rcases answerReport_cases db reportId 409 (dismissReport db) with
      refused | ⟨report, written, found, done, answer⟩
    · exact .inl refused
    unfold dismissReport at done
    split at done
    · cases done
    case h_2 result resolved =>
    cases done
    obtain ⟨isOpen, rfl, _⟩ := resolve_ok resolved
    exact .inr ⟨report, _, _, found, isOpen, answer⟩
  | correct override id now =>
    rcases answerReport_cases db reportId 422 (correctReport db override id now) with
      refused | ⟨report, written, found, done, answer⟩
    · exact .inl refused
    unfold correctReport at done
    split at done
    · cases done
    split at done
    · cases done
    · cases done
    case h_3 between event lead resolved =>
    obtain ⟨isOpen, rfl, _⟩ := resolve_ok resolved
    split at done
    · cases done
    case h_2 corrected recorded =>
    cases done
    obtain ⟨e, _, rfl⟩ := recordCorrection_ok recorded
    exact .inr ⟨report, _, _, found, isOpen, answer⟩
  | suppress note =>
  rcases answerReport_cases db reportId 409 (suppressFromReport db note) with
    refused | ⟨report, written, found, done, answer⟩
  · exact .inl refused
  unfold suppressFromReport at done
  split at done
  · cases done
  · cases done
  case h_3 between event lead resolved =>
  cases done
  obtain ⟨isOpen, rfl, _⟩ := resolve_ok resolved
  exact .inr ⟨report, _, _, found, isOpen, answer⟩

end Jawnix
