import Jawnix.LeadBasis
import Jawnix.ListingRuns
import Jawnix.ReportResolutions

/-!
# Precedence of Lead Corrections

Corrections, their removal, dataset synchronisations and manifest imports write the
same two columns of a Lead. Where no manifest has written over it since, a corrected
Lead shows its correction and any other what it rests on.
-/
namespace Jawnix

open Register (offer)

/-- The catalogue of Leads, with the phones a manifest has renamed since their title was last
written from a correction, a listing or a removal, and those corrected outside of DB1. -/
structure Catalogue where
  db : Db
  renamed : List String := []
  corrected : List String := []

/-- Every operation on one Lead names it by its phone; a correction comes from an Admin, or from a
report. -/
inductive CatalogueOp where
  | correct (phone : String) (report : Option Uuid) (override : Override) (id : Uuid) (now : Instant)
  | remove (phone actorId reason : String) (id : Uuid) (now : Instant)
  | sync (op : SyncOp)
  | manifest (backend : Backend) (path checksum : String) (file : ManifestFile)

/-- A manifest renames the Leads it finds in DB1 or corrected, and those it names in two ways. -/
def renames (db : Db) (rows : List ManifestRow) (phone : String) : Bool :=
  (db.leadOfPhone? phone).any (fun lead => lead.inDb1 || lead.activeCorrectionId.isSome) ||
    rows.any (fun a => a.phone = phone && rows.any fun b =>
      b.phone = phone && (b.title, b.state) ≠ (a.title, a.state))

def renamedBy (db : Db) (rows : List ManifestRow) : List String :=
  (rows.map ManifestRow.phone).filter (renames db rows)

def relisted (db after : Db) (phone : String) : Bool :=
  after.listed phone ≠ db.listed phone && (after.leadOfPhone? phone).all fun lead =>
    lead.activeCorrectionId = none

section
variable (syncs : SyncPlatform) (manifests : ManifestPlatform) (s : Catalogue)

def Db.concerns (db : Db) (report : Option Uuid) (lead : Lead) : Prop :=
  ∀ reportId ∈ report,
    ((db.report? reportId).bind fun r => db.event? r.distributionEventId).map
      DistributionEvent.leadId = some lead.id
  deriving Decidable

def correctedBy (db : Db) (lead : Lead) (report : Option Uuid) (override : Override) (id : Uuid)
    (now : Instant) : Except Fault Db :=
  match report with
  | none => applyLeadCorrection db lead.id override id now
  | some reportId =>
    let (written, outcome) := correctLeadReport db reportId override id now
    outcome.map fun _ => written

def correctStep (phone : String) (report : Option Uuid) (override : Override) (id : Uuid)
    (now : Instant) : Catalogue :=
  match s.db.leadOfPhone? phone with
  | none => s
  | some lead =>
    if s.db.concerns report lead then
      match correctedBy s.db lead report override id now with
      | .error _ => s
      | .ok db =>
        { db
          renamed := s.renamed.filter (fun p => p ≠ phone)
          corrected := if lead.inDb1 then s.corrected else phone :: s.corrected }
    else s

def removeStep (phone actorId reason : String) (id : Uuid) (now : Instant) : Catalogue :=
  match s.db.leadOfPhone? phone with
  | none => s
  | some lead =>
    match removeLeadCorrection s.db lead.id actorId reason id now with
    | .error _ => s
    | .ok db => { s with db, renamed := s.renamed.filter (fun p => p ≠ phone) }

def relistStep (op : SyncOp) : Catalogue :=
  let db := syncStep syncs s.db op
  { s with db, renamed := s.renamed.filter (fun p => !relisted s.db db p) }

/-- An import that raises is rolled back whole; a run has those that do not. -/
def manifestStep (backend : Backend) (path checksum : String) (file : ManifestFile) : Catalogue :=
  if s.db.auditedFile path checksum ∨ file.hasColumns = false then s
  else
    let imported := importedBy manifests backend s.db file.records
    { s with
      db := { imported with
        audits := imported.audits ++ [manifestAudit manifests path checksum file] }
      renamed := s.renamed ++ renamedBy s.db (manifestRows manifests file.records) }

def catalogueStep : CatalogueOp → Catalogue
  | .correct phone report override id now => correctStep s phone report override id now
  | .remove phone actorId reason id now => removeStep s phone actorId reason id now
  | .sync op => relistStep syncs s op
  | .manifest backend path checksum file => manifestStep manifests s backend path checksum file

def catalogueRun (ops : List CatalogueOp) : Catalogue := run (catalogueStep syncs manifests) s ops

end

structure Stood (corrected : List String) (db : Db) : Prop where
  observed : Observed db
  schema : LeadSchema db
  sits : ∀ phone, ∀ lead ∈ db.leadOfPhone? phone, Sits db lead
  strays : ∀ phone, ∀ lead ∈ db.leadOfPhone? phone, lead.inDb1 = false →
    lead.activeCorrectionId ≠ none → phone ∈ corrected

structure Sound (s : Catalogue) : Prop extends Stood s.corrected s.db where
  rests : ∀ phone, phone ∉ s.renamed → ∀ lead ∈ s.db.leadOfPhone? phone, AtRest s.db lead

section
variable {db : Db} {lead : Lead} {e : LeadCorrectionEvent} {phone : String} {now : Instant}
  {db' : Db} {s : Catalogue}

theorem correctedBy_ok {report : Option Uuid} {override : Override} {id : Uuid}
    (found : db.lead? lead.id = some lead) (concerns : db.concerns report lead)
    (done : correctedBy db lead report override id now = .ok db') :
    ∃ eligibilityHolds reports override',
      recordCorrection { db with eligibilityHolds, reports } lead override' id now = .ok db' := by
  cases report with
  | none =>
    simp only [correctedBy, applyLeadCorrection, found] at done
    split at done
    · cases done
    exact ⟨db.eligibilityHolds, db.reports, _, done⟩
  | some reportId =>
  have named := concerns reportId rfl
  simp only [correctedBy, correctLeadReport] at done
  rcases answerReport_cases db reportId 422 (correctReport db override id now) with
    ⟨fault, refused⟩ | ⟨report, written, stored, corrects, answer⟩
  · rw [refused] at done
    cases done
  rw [answer] at done
  cases done
  rw [stored, bind_some] at named
  unfold correctReport at corrects
  split at corrects
  · cases corrects
  split at corrects
  · cases corrects
  · cases corrects
  case h_3 between event reported resolved =>
  split at corrects
  · cases corrects
  case h_2 corrected recorded =>
  cases corrects
  obtain ⟨_, rfl, delivered, reads⟩ := resolve_ok resolved
  rw [delivered, map_some, some.injEq] at named
  rw [named, found] at reads
  cases reads
  obtain ⟨eligibilityHolds, released⟩ := releaseReportHold_frame db report.id
  rw [closeReport, released] at recorded
  exact ⟨eligibilityHolds, _, _, recorded⟩

theorem removeLeadCorrection_ok {leadId : Nat} {actorId reason : String} {id : Uuid}
    (found : db.lead? leadId = some lead)
    (done : removeLeadCorrection db leadId actorId reason id now = .ok db') :
    ∃ e, lead.activeCorrectionId ≠ none ∧ db.correction? e.id = none ∧
    (underlyingEvidence db lead none).kind ≠ .noEvidence ∧
    db' = (db.withCorrection e).editLead lead.phone (fallBack (underlyingEvidence db lead none)) := by
  unfold removeLeadCorrection at done
  simp only [found] at done
  split at done
  · cases done
  case h_2 activeId named =>
  split at done
  · cases done
  have same : leadEvidence db { lead with activeCorrectionId := none } none =
    underlyingEvidence db lead none := rfl
  rw [same] at done
  obtain ⟨evidence, done⟩ := guard_ok done
  obtain ⟨inserted, stored, done⟩ := bind_ok done
  cases done
  obtain ⟨fresh, stored⟩ := guard_ok stored
  cases stored
  exact ⟨_, by rw [named]; exact some_ne_none _, by simpa using fresh, evidence, rfl⟩

theorem activeCorrection_withCorrection (sits : Sits db lead) (e : LeadCorrectionEvent) :
    (db.withCorrection e).activeCorrection lead = db.activeCorrection lead := by
  unfold Db.activeCorrection
  cases named : lead.activeCorrectionId with
  | none => rfl
  | some id =>
    obtain ⟨c, found⟩ := isSome_iff_exists.mp (sits.resolved id named)
    rw [bind_some, bind_some, found]
    exact Rows.lookup_append_some found e

theorem Sits.withCorrection (sits : Sits db lead) (e : LeadCorrectionEvent) :
    Sits (db.withCorrection e) lead where
  resolved := fun id named => by
    obtain ⟨c, found⟩ := isSome_iff_exists.mp (sits.resolved id named)
    rw [Db.correction?, Db.withCorrection, Rows.lookup_append_some found e]
    rfl
  inside := sits.inside
  grounded := sits.grounded
  bare := sits.bare

theorem AtRest.withCorrection (sits : Sits db lead) (rests : AtRest db lead)
    (e : LeadCorrectionEvent) : AtRest (db.withCorrection e) lead := by
  rw [AtRest, activeCorrection_withCorrection sits e, basis_congr rfl lead]
  exact rests

theorem Sound.rewrite (sound : Sound s) (found : s.db.leadOfPhone? phone = some lead)
    (e : LeadCorrectionEvent) (f : Lead → Lead) (ids : ∀ l, (f l).id = l.id)
    (named : ∀ l, (f l).phone = l.phone)
    (current : ∀ l, (f l).currentListingObservationId = l.currentListingObservationId)
    {corrected : List String} (sits : Sits (s.db.withCorrection e) (f lead))
    (rests : AtRest (s.db.withCorrection e) (f lead)) (kept : ∀ p ∈ s.corrected, p ∈ corrected)
    (strays : (f lead).inDb1 = false → (f lead).activeCorrectionId ≠ none → phone ∈ corrected) :
    Sound
      { db := (s.db.withCorrection e).editLead phone f
        renamed := s.renamed.filter (fun p => p ≠ phone)
        corrected } := by
  have stored : (s.db.withCorrection e).leadOfPhone? phone = some lead := found
  have read := leadOfPhone?_edit stored named
  refine ⟨⟨⟨sound.observed.drawn, ?_⟩, ?_, ?_, ?_⟩, ?_⟩
  · have edited : Observed (s.db.editLead phone f) :=
      sound.observed.editLead fun l id held => .inl (current l ▸ held)
    exact edited.current
  · have noted : LeadSchema (s.db.withCorrection e) := schema_closed.congr sound.schema rfl (Nat.le_refl _)
    exact noted.edit phone ids named
  · intro other old held
    rw [mem_def, read] at held
    split at held
    · cases held
      exact sits.congr rfl rfl
    · exact ((sound.sits other old held).withCorrection e).congr rfl rfl
  · intro other old held outside active
    rw [mem_def, read] at held
    split at held
    case isTrue here =>
      cases held
      exact here ▸ strays outside active
    · exact kept other (sound.strays other old held outside active)
  intro other unnamed old held
  rw [mem_def, read] at held
  split at held
  · cases held
    exact rests.congr rfl rfl
  case isFalse apart =>
  have before : other ∉ s.renamed := fun member =>
    unnamed (mem_filter.mpr ⟨member, decide_eq_true apart⟩)
  exact ((sound.rests other before old held).withCorrection (sound.sits other old held) e).congr rfl rfl

theorem Sound.reported (sound : Sound s) (eligibilityHolds : List EligibilityHold)
    (reports : List LeadReport) : Sound { s with db := { s.db with eligibilityHolds, reports } } where
  observed := sound.observed.congr rfl rfl rfl
  schema := schema_closed.congr sound.schema rfl (Nat.le_refl _)
  sits := fun phone lead held => (sound.sits phone lead held).congr rfl rfl
  strays := sound.strays
  rests := fun phone unnamed lead held => (sound.rests phone unnamed lead held).congr rfl rfl

theorem correctStep_cases (schema : LeadSchema s.db) (phone : String) (report : Option Uuid)
    (override : Override) (id : Uuid) (now : Instant) :
    correctStep s phone report override id now = s ∨
      ∃ lead e eligibilityHolds reports, s.db.leadOfPhone? phone = some lead ∧
      s.db.correction? e.id = none ∧ correctStep s phone report override id now =
          { db := (({ s.db with eligibilityHolds, reports } : Db).withCorrection e).editLead phone
              (correctLead e)
            renamed := s.renamed.filter (fun p => p ≠ phone)
            corrected := if lead.inDb1 then s.corrected else phone :: s.corrected } := by
  unfold correctStep
  split
  · exact .inl rfl
  case h_2 lead found =>
  split
  case isTrue concerns =>
    split
    · exact .inl rfl
    case h_2 db done =>
    obtain ⟨holds, reports, _, done⟩ := correctedBy_ok (schema.lead?_of_found found) concerns done
    obtain ⟨e, fresh, rfl⟩ := recordCorrection_ok done
    refine .inr ⟨lead, e, holds, reports, found, fresh, ?_⟩
    rw [(lookup_some found).2]
  · exact .inl rfl

theorem removeStep_cases (schema : LeadSchema s.db) (phone actorId reason : String) (id : Uuid)
    (now : Instant) :
    removeStep s phone actorId reason id now = s ∨
      ∃ lead e, s.db.leadOfPhone? phone = some lead ∧ lead.activeCorrectionId ≠ none ∧
      removeStep s phone actorId reason id now =
          { s with
            db := (s.db.withCorrection e).editLead phone (fallBack (underlyingEvidence s.db lead none))
            renamed := s.renamed.filter (fun p => p ≠ phone) } := by
  unfold removeStep
  split
  · exact .inl rfl
  case h_2 lead found =>
  split
  · exact .inl rfl
  case h_2 db done =>
  obtain ⟨e, active, _, _, rfl⟩ := removeLeadCorrection_ok (schema.lead?_of_found found) done
  refine .inr ⟨lead, e, found, active, ?_⟩
  rw [(lookup_some found).2]

theorem Sound.correctStep (sound : Sound s) (phone : String) (report : Option Uuid)
    (override : Override) (id : Uuid) (now : Instant) :
    Sound (correctStep s phone report override id now) := by
  rcases correctStep_cases sound.schema phone report override id now with
    unchanged | ⟨lead, e, holds, reports, found, fresh, after⟩
  · rw [unchanged]
    exact sound
  rw [after]
  have before := sound.sits phone lead found
  have stored : (s.db.withCorrection e).correction? e.id = some e :=
    (lookup_append_new fresh rfl e.id).trans (if_pos rfl)
  refine (sound.reported holds reports).rewrite found e (correctLead e) (fun _ => rfl)
    (fun _ => rfl) (fun _ => rfl) ?_ ?_ ?_ ?_
  · refine ⟨fun other named => ?_, before.inside, before.grounded, before.bare⟩
    cases named
    exact Option.isSome_of_eq_some stored
  · have active : (s.db.withCorrection e).activeCorrection (correctLead e lead) = some e := stored
    have rests : AtRest (s.db.withCorrection e) (correctLead e lead) := by
      rw [AtRest, active]
      rfl
    exact rests.congr rfl rfl
  · intro p member
    split
    · exact member
    · exact mem_cons_of_mem _ member
  intro outside _
  have outside : lead.inDb1 = false := outside
  rw [outside]
  exact mem_cons_self

theorem basis_correctLead (e : LeadCorrectionEvent) (inside : lead.inDb1) :
    basis db (correctLead e lead) = basis db lead := by
  have current : db.currentListing (correctLead e lead) = db.currentListing lead := rfl
  rw [basis, basis, current]
  cases db.currentListing lead with
  | none => simp only [correctLead, inside, if_true, map_none]
  | some o => rfl

theorem basis_fallBack (evidence : LeadEvidence) (inside : lead.inDb1) :
    basis db (fallBack evidence lead) = basis db lead := by
  have current : db.currentListing (fallBack evidence lead) = db.currentListing lead := rfl
  rw [basis, basis, current]
  cases db.currentListing lead with
  | none => simp only [fallBack, inside, if_true, map_none]
  | some o => rfl

theorem fallBack_values (sits : Sits db lead) (e : LeadCorrectionEvent) :
    let after := fallBack (underlyingEvidence db lead none) lead
    (after.title, after.state) = (basis (db.withCorrection e) after).values := by
  intro after
  have current : db.currentListing after = db.currentListing lead := rfl
  have observations : basis (db.withCorrection e) after = basis db after := basis_congr rfl _
  rw [observations]
  by_cases inside : lead.inDb1
  · have evidence : underlyingEvidence db lead none = listingEvidence db lead := by
      unfold underlyingEvidence
      rw [if_neg (by simp [inside])]
    rw [basis_fallBack _ inside, ← listingEvidence_values sits inside, ← evidence]
    rfl
  have outside : lead.inDb1 = false := by simpa using inside
  have away : after.inDb1 = false := outside
  rw [basis_outside away (current.trans (sits.unlisted outside))]
  rfl

theorem Sound.removeStep (sound : Sound s) (phone actorId reason : String) (id : Uuid)
    (now : Instant) : Sound (removeStep s phone actorId reason id now) := by
  rcases removeStep_cases sound.schema phone actorId reason id now with
    unchanged | ⟨lead, e, found, _, after⟩
  · rw [unchanged]
    exact sound
  rw [after]
  have before := sound.sits phone lead found
  refine sound.rewrite found e (fallBack (underlyingEvidence s.db lead none)) (fun _ => rfl) (fun _ => rfl)
    (fun _ => rfl) ?_ ?_ (fun _ member => member) ?_
  · exact ⟨fun _ named => (nomatch named), before.inside, before.grounded, before.bare⟩
  · have free : (s.db.withCorrection e).activeCorrection
      (fallBack (underlyingEvidence s.db lead none) lead) = none := rfl
    rw [AtRest, free]
    exact fallBack_values before e
  · exact fun _ active => absurd rfl active

end

section
variable {syncs : SyncPlatform} {phone : String} {corrected : List String} {db' : Db}

theorem Stood.congr {db : Db} (stood : Stood corrected db) (leads : db'.leads = db.leads)
    (leadSeq : db'.leadSeq = db.leadSeq) (observations : db'.observations = db.observations)
    (observationSeq : db'.observationSeq = db.observationSeq)
    (corrections : db'.corrections = db.corrections) : Stood corrected db' := by
  have found : ∀ phone, db'.leadOfPhone? phone = db.leadOfPhone? phone := fun phone => by
    rw [Db.leadOfPhone?, leads]
    rfl
  have current : ∀ lead, db'.currentListing lead = db.currentListing lead := fun lead => by
    unfold Db.currentListing Db.observation?
    rw [observations]
  refine ⟨stood.observed.congr leads observations observationSeq,
    schema_closed.congr stood.schema leads (Nat.le_of_eq leadSeq.symm), ?_, ?_⟩
  · intro phone lead held
    exact (stood.sits phone lead (found phone ▸ held)).congr corrections (current lead)
  · intro phone lead held
    exact stood.strays phone lead (found phone ▸ held)

theorem Stood.observeRow {s : Syncing} (stood : Stood corrected s.db) (checksum : String)
    (l : Listing) : Stood corrected (observeRow checksum s l).db := by
  refine ⟨stood.observed.observeRow, observeRow_closed schema_closed stood.schema,
    fun phone => Sits.observeRow stood.observed (stood.sits phone), fun phone lead held outside => ?_⟩
  rw [mem_def, leadOfPhone?_observeRow _ _ stood.observed] at held
  split at held
  · cases held
    rw [(listLead_active s.db l checksum phone).2] at outside
    cases outside
  · exact stood.strays phone lead held outside

theorem Stood.syncStep {db : Db} (stood : Stood corrected db) (op : SyncOp) :
    Stood corrected (syncStep syncs db op) :=
  syncStep_induct (fun stood leads leadSeq observations observationSeq corrections _ =>
    stood.congr leads leadSeq observations observationSeq corrections)
      (fun checksum _ l stood => stood.observeRow checksum l) stood op

theorem ComesToRest.congr {settled : Prop} {before : Option ListingObservation} {db : Db}
    (rests : ComesToRest settled before db phone) (leads : db'.leads = db.leads)
    (observations : db'.observations = db.observations)
    (corrections : db'.corrections = db.corrections) : ComesToRest settled before db' phone := by
  have found : db'.leadOfPhone? phone = db.leadOfPhone? phone := by
    rw [Db.leadOfPhone?, leads]
    rfl
  have current : ∀ lead, db'.currentListing lead = db.currentListing lead := fun lead => by
    unfold Db.currentListing Db.observation?
    rw [observations]
  have active : ∀ lead, db'.activeCorrection lead = db.activeCorrection lead := fun lead => by
    unfold Db.activeCorrection Db.correction?
    rw [corrections]
  intro lead held condition
  have listed : db'.listed phone = db.listed phone := by
    rw [← listed_of_found held, current, listed_of_found (found ▸ held)]
  rw [active, listed] at condition
  exact (rests lead (found ▸ held) condition).congr corrections (current lead)

theorem Sound.relistStep {s : Catalogue} (sound : Sound s) (op : SyncOp) :
    Sound (relistStep syncs s op) := by
  have stood : Stood s.corrected (Jawnix.syncStep syncs s.db op) := sound.toStood.syncStep op
  refine ⟨stood, fun phone unnamed lead held => ?_⟩
  have rests : Observed (Jawnix.syncStep syncs s.db op) ∧
      ComesToRest (phone ∉ s.renamed) (s.db.listed phone) (Jawnix.syncStep syncs s.db op) phone := by
    refine syncStep_induct
      (P := fun db => Observed db ∧ ComesToRest (phone ∉ s.renamed) (s.db.listed phone) db phone) ?_
        ?_ ⟨sound.observed, ?_⟩ op
    · intro db db' holds leads _ observations observationSeq corrections _
      exact ⟨holds.1.congr leads observations observationSeq, holds.2.congr leads observations corrections⟩
    · exact fun _ _ _ holds => ⟨holds.1.observeRow, holds.2.observeRow holds.1⟩
    intro lead held condition
    rcases condition with unnamed | ⟨_, changed⟩
    · exact sound.rests phone unnamed lead held
    · exact absurd rfl changed
  refine rests.2 lead held ?_
  by_cases before : phone ∈ s.renamed
  · right
    have named : relisted s.db (Jawnix.syncStep syncs s.db op) phone := by
      by_contra unchanged
      exact unnamed (mem_filter.mpr ⟨before, by simpa using unchanged⟩)
    simp only [relisted, and_eq_true, decide_eq_true_eq] at named
    obtain ⟨changed, free⟩ := named
    have held : (Jawnix.syncStep syncs s.db op).leadOfPhone? phone = some lead := held
    rw [held, Option.all_some, decide_eq_true_eq] at free
    exact ⟨(stood.sits phone lead held).activeCorrection.mpr free, changed⟩
  · exact .inl before

end

section
variable {manifests : ManifestPlatform} {backend : Backend} {records : List ManifestRecord}
  {phone : String} {db : Db}

theorem aggregate_state_ne (named : ∃ row ∈ manifestRows manifests records, row.phone = phone) :
    (aggregateRows manifests phone (manifestRows manifests records)).state ≠ "" := by
  obtain ⟨row, member, _, same⟩ := aggregate_state manifests named
  rw [same]
  exact manifestRows_state member

theorem importedBy_sits (sits : ∀ lead ∈ db.leadOfPhone? phone, Sits db lead) :
    ∀ lead ∈ (importedBy manifests backend db records).leadOfPhone? phone, Sits db lead := by
  refine importedBy_induct (P := fun old => ∀ lead ∈ old, Sits db lead) ?_ ?_ sits
  · intro row member _ id old before lead held
    cases held
    exact (Sits.upserted (manifestRows_state member) id before).1
  intro named id old before lead held
  cases held
  exact (Sits.merged (aggregate_state_ne named) id before).1

theorem importedBy_strays {corrected : List String}
    (strays : ∀ lead ∈ db.leadOfPhone? phone, lead.inDb1 = false → lead.activeCorrectionId ≠ none →
      phone ∈ corrected) :
    ∀ lead ∈ (importedBy manifests backend db records).leadOfPhone? phone, lead.inDb1 = false →
    lead.activeCorrectionId ≠ none → phone ∈ corrected := by
  refine importedBy_induct (P := fun old => ∀ lead ∈ old, lead.inDb1 = false →
    lead.activeCorrectionId ≠ none → phone ∈ corrected) ?_ ?_ strays
  · intro row _ _ id old _ lead held outside
    cases held
    rw [upserted_inDb1] at outside
    cases outside
  intro _ id old _ lead held outside
  cases held
  rw [merged_inDb1] at outside
  cases outside

structure Enters (db : Db) (title state : String) (lead : Lead) : Prop where
  sits : Sits db lead
  free : lead.activeCorrectionId = none
  named : lead.inDb1 → basis db lead = .snapshot title state ∧ lead.title = title ∧ lead.state = state

theorem Enters.atRest {title state : String} {lead : Lead} (enters : Enters db title state lead) :
    AtRest db lead := by
  rw [AtRest, enters.sits.activeCorrection.mpr enters.free]
  by_cases inside : lead.inDb1
  · obtain ⟨rests, sameTitle, sameState⟩ := enters.named inside
    rw [rests, sameTitle, sameState]
    rfl
  have outside : lead.inDb1 = false := by simpa using inside
  rw [basis_outside outside (enters.sits.unlisted outside)]
  rfl

variable {row : ManifestRow} {old : Option Lead}

theorem Enters.upserted (state : row.state ≠ "") (id : Nat)
    (enters : ∀ lead ∈ old, Enters db row.title row.state lead) :
    Enters db row.title row.state (row.upserted id old) := by
  obtain ⟨sits, rests⟩ := Sits.upserted state id fun lead held => (enters lead held).sits
  cases old with
  | none => exact ⟨sits, rfl, fun _ => ⟨rests, rfl, rfl⟩⟩
  | some lead =>
  have before := enters lead rfl
  by_cases inside : lead.inDb1
  · obtain ⟨held, title, named⟩ := before.named inside
    have overwritten : row.upserted id (some lead) = row.overwrite lead := by
      rw [ManifestRow.upserted, if_neg (by simp [inside])]
    obtain ⟨_, _, frame⟩ := overwrite_frame row lead
    refine ⟨sits, ?_, fun _ => ⟨?_, ?_, ?_⟩⟩
    · rw [overwritten, frame]
      exact before.free
    · rw [rests, map_some, held]
      rfl
    · rw [overwritten, frame]
      split
      · exact title
      · rfl
    · rw [overwritten, frame]
  have outside : lead.inDb1 = false := by simpa using inside
  have entered : row.upserted id (some lead) = row.enter lead := by
    rw [ManifestRow.upserted, if_pos outside]
  have frame : row.enter lead =
      { lead with
        inDb1 := true, legacyTitle := row.title, legacyState := row.state,
          title := row.title, state := row.state } := by
    rw [ManifestRow.enter, if_pos before.free]
  refine ⟨sits, ?_, fun _ => ⟨?_, ?_, ?_⟩⟩
  · rw [entered, frame]
    exact before.free
  · rw [rests, map_some, basis_outside outside (before.sits.unlisted outside)]
    rfl
  · rw [entered, frame]
  · rw [entered, frame]

theorem merged_atRest (state : row.state ≠ "") (id : Nat)
    (before : ∀ lead ∈ old, Sits db lead ∧ lead.activeCorrectionId = none ∧ lead.inDb1 = false) :
    AtRest db (row.merged id old) := by
  obtain ⟨sits, rests⟩ := Sits.merged state id fun lead held => (before lead held).1
  cases old with
  | none =>
    rw [AtRest, sits.activeCorrection.mpr rfl, rests]
    rfl
  | some lead =>
    obtain ⟨held, free, outside⟩ := before lead rfl
    rw [AtRest, sits.activeCorrection.mpr free, rests, map_some,
      basis_outside outside (held.unlisted outside)]
    rfl

theorem not_renames {rows : List ManifestRow} (kept : renames db rows phone = false) :
    (∀ lead ∈ db.leadOfPhone? phone, lead.inDb1 = false ∧ lead.activeCorrectionId = none) ∧
    ∀ a ∈ rows, a.phone = phone → ∀ b ∈ rows, b.phone = phone → b.title = a.title ∧ b.state = a.state := by
  simp only [renames, Bool.or_eq_false_iff] at kept
  obtain ⟨apart, agree⟩ := kept
  constructor
  · intro lead held
    rw [mem_def] at held
    simpa [held] using apart
  intro a inRows here b inRows' here'
  have differs := any_eq_false.mp agree a inRows
  simp only [here, decide_true, Bool.true_and, Bool.not_eq_true] at differs
  have same := any_eq_false.mp differs b inRows'
  simpa [here'] using same

theorem importedBy_rests (sits : ∀ lead ∈ db.leadOfPhone? phone, Sits db lead)
    (rests : ∀ lead ∈ db.leadOfPhone? phone, AtRest db lead)
    (kept : phone ∉ renamedBy db (manifestRows manifests records)) :
    ∀ lead ∈ (importedBy manifests backend db records).leadOfPhone? phone, AtRest db lead := by
  by_cases named : ∃ row ∈ manifestRows manifests records, row.phone = phone
  · obtain ⟨row, member, here⟩ := named
    have kept : renames db (manifestRows manifests records) phone = false := by
      by_contra renamed
      exact kept (mem_filter.mpr ⟨mem_map.mpr ⟨row, member, here⟩, by simpa using renamed⟩)
    obtain ⟨apart, agree⟩ := not_renames kept
    cases backend with
    | orm =>
      have enters : ∀ lead ∈ (importOrm manifests db records).leadOfPhone? phone,
          Enters db row.title row.state lead := by
        refine importOrm_induct (P := fun old => ∀ lead ∈ old, Enters db row.title row.state lead) ?_ ?_
        · intro other inRows there id old before lead held
          cases held
          obtain ⟨title, state⟩ := agree row member here other inRows there
          rw [← title, ← state] at before ⊢
          exact Enters.upserted (manifestRows_state inRows) id before
        intro lead held
        obtain ⟨outside, free⟩ := apart lead held
        refine ⟨sits lead held, free, fun inside => ?_⟩
        rw [outside] at inside
        cases inside
      exact fun lead held => (enters lead held).atRest
    | postgresql =>
    have named : ∃ row ∈ manifestRows manifests records, row.phone = phone := ⟨row, member, here⟩
    obtain ⟨id, read⟩ := (importPostgresql_lead manifests db records phone).2 named
    intro lead held
    obtain rfl := some.inj (read.symm.trans held)
    refine merged_atRest (aggregate_state_ne named) id fun old stored => ?_
    exact ⟨sits old stored, (apart old stored).2, (apart old stored).1⟩
  · have unnamed : ∀ row ∈ manifestRows manifests records, row.phone ≠ phone := fun row member here =>
      named ⟨row, member, here⟩
    rw [importedBy_unnamed unnamed]
    exact rests

theorem upserted_kept (row : ManifestRow) (id : Nat) (old : Option Lead) :
    (row.upserted id old).currentListingObservationId = old.bind Lead.currentListingObservationId ∧
    (row.upserted id old).activeCorrectionId = old.bind Lead.activeCorrectionId := by
  cases old with
  | none => exact ⟨rfl, rfl⟩
  | some lead =>
  rw [ManifestRow.upserted]
  split
  · obtain ⟨_, _, frame⟩ := enter_frame row lead
    rw [frame]
    exact ⟨rfl, rfl⟩
  obtain ⟨_, _, frame⟩ := overwrite_frame row lead
  rw [frame]
  exact ⟨rfl, rfl⟩

theorem importedBy_current (phone : String) :
    ∀ lead ∈ (importedBy manifests backend db records).leadOfPhone? phone,
    ∀ id ∈ lead.currentListingObservationId,
    ∃ old ∈ db.leads, id ∈ old.currentListingObservationId := by
  refine importedBy_induct (P := fun found => ∀ lead ∈ found, ∀ id ∈ lead.currentListingObservationId,
    ∃ old ∈ db.leads, id ∈ old.currentListingObservationId) ?_ ?_ ?_
  · intro row _ _ id found before lead held observation current
    cases held
    rw [(upserted_kept row id found).1] at current
    obtain ⟨old, stored, current⟩ := bind_eq_some_iff.mp current
    exact before old stored observation current
  · intro _ id found before lead held observation current
    cases held
    cases found with
    | none => cases current
    | some old => exact before old rfl observation current
  · exact fun lead held id current => ⟨lead, (lookup_some held).1, current⟩

theorem importedBy_active (free : ∀ lead ∈ db.leadOfPhone? phone, lead.activeCorrectionId = none) :
    ∀ lead ∈ (importedBy manifests backend db records).leadOfPhone? phone,
    lead.activeCorrectionId = none := by
  refine importedBy_induct (P := fun found => ∀ lead ∈ found, lead.activeCorrectionId = none) ?_ ?_ free
  · intro row _ _ id found before lead held
    cases held
    rw [(upserted_kept row id found).2, Option.bind_eq_none_iff]
    exact before
  intro _ id found before lead held
  cases held
  cases found with
  | none => rfl
  | some old => exact before old rfl

theorem Stood.importedBy {corrected : List String} (stood : Stood corrected db) (backend : Backend)
    (records : List ManifestRecord) : Stood corrected (importedBy manifests backend db records) := by
  obtain ⟨leads, leadSeq, events, eventSeq, frame⟩ := importedBy_frame manifests backend db records
  have schema : LeadSchema (Jawnix.importedBy manifests backend db records) :=
    importedBy_closed schema_closed stood.schema
  refine ⟨⟨?_, ?_⟩, schema, ?_, fun phone => importedBy_strays (stood.strays phone)⟩
  · rw [frame]
    exact stood.observed.drawn
  · intro lead member id current
    have held : (Jawnix.importedBy manifests backend db records).leadOfPhone? lead.phone =
      some lead := lookup_of_mem schema.phones member
    obtain ⟨old, stored, current⟩ := importedBy_current lead.phone lead held id current
    rw [frame]
    exact stood.observed.current old stored id current
  intro phone lead held
  refine (importedBy_sits (stood.sits phone) lead held).congr ?_ ?_
  · rw [frame]
  · rw [frame]
    rfl

theorem Sound.manifestStep {s : Catalogue} (sound : Sound s) (backend : Backend) (path checksum : String)
    (file : ManifestFile) : Sound (manifestStep manifests s backend path checksum file) := by
  unfold Jawnix.manifestStep
  split
  · exact sound
  obtain ⟨leads, leadSeq, events, eventSeq, frame⟩ := importedBy_frame manifests backend s.db file.records
  have stood : Stood s.corrected (importedBy manifests backend s.db file.records) :=
    sound.toStood.importedBy backend file.records
  refine ⟨stood.congr rfl rfl rfl rfl rfl, fun phone unnamed lead held => ?_⟩
  have before : phone ∉ s.renamed := fun member => unnamed (mem_append_left _ member)
  have kept : phone ∉ renamedBy s.db (manifestRows manifests file.records) := fun member =>
    unnamed (mem_append_right _ member)
  refine (importedBy_rests (sound.sits phone) (sound.rests phone before) kept lead held).congr ?_ ?_
  · change (importedBy manifests backend s.db file.records).corrections = s.db.corrections
    rw [frame]
  · unfold Db.currentListing Db.observation?
    rw [frame]

theorem Sound.run {syncs : SyncPlatform} {s : Catalogue} (sound : Sound s)
    (ops : List CatalogueOp) : Sound (catalogueRun syncs manifests s ops) := by
  refine run_invariant (I := Sound) (fun s op sound => ?_) sound ops
  cases op with
  | correct phone report override id now => exact sound.correctStep phone report override id now
  | remove phone actorId reason id now => exact sound.removeStep phone actorId reason id now
  | sync op => exact sound.relistStep op
  | manifest backend path checksum file => exact sound.manifestStep backend path checksum file

end

end Jawnix
