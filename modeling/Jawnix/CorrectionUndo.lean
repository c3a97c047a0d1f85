import Jawnix.CorrectionRuns

/-!
# A run without the corrections of a Lead

What a Lead of DB1 rests on does not depend on its corrections, so a run that
ends with one removed shows the Lead as the run without any of them does.
-/
namespace Jawnix

def auditKeys (db : Db) : List (String × String) := db.audits.map fun a => (a.sourcePath, a.checksum)

/-- Two databases in which the Lead of a phone rests on the same, and the same files were
imported. -/
structure Alike (phone : String) (db other : Db) : Prop where
  audits : auditKeys other = auditKeys db
  publications : other.publications = db.publications
  rests : other.basisOf phone = db.basisOf phone

section
variable {syncs : SyncPlatform} {manifests : ManifestPlatform} {phone : String} {db other : Db}
  {lead : Lead}

theorem Alike.audited (alike : Alike phone db other) (checksum : String) :
    other.audited checksum = db.audited checksum := by
  have read : ∀ db : Db, db.audited checksum = (auditKeys db).any fun key => key.2 = checksum := fun db => by
    simp [Db.audited, auditKeys, comp_def]
  rw [read, read, alike.audits]

theorem Alike.auditedFile (alike : Alike phone db other) (path checksum : String) :
    other.auditedFile path checksum = db.auditedFile path checksum := by
  have read : ∀ db : Db, db.auditedFile path checksum =
      (auditKeys db).any fun key => decide (key.1 = path ∧ key.2 = checksum) := fun db => by
    simp [Db.auditedFile, auditKeys, comp_def]
  rw [read, read, alike.audits]

theorem basisOf_observeRows {checksum : String} (rows : List Listing) {s u : Syncing}
    (observed : Observed s.db) (observed' : Observed u.db)
    (rests : u.db.basisOf phone = s.db.basisOf phone) :
    (rows.foldl (observeRow checksum) u).db.basisOf phone =
    (rows.foldl (observeRow checksum) s).db.basisOf phone := by
  induction rows generalizing s u with
  | nil => exact rests
  | cons l rows ih =>
    refine ih observed.observeRow observed'.observeRow ?_
    rw [basisOf_observeRow observed, basisOf_observeRow observed', rests]

theorem basisOf_congr {db' : Db} (leads : db'.leads = db.leads)
    (observations : db'.observations = db.observations) : db'.basisOf phone = db.basisOf phone := by
  unfold Db.basisOf Db.leadOfPhone?
  rw [leads]
  congr 1
  exact funext (basis_congr observations)

theorem Alike.importScraperSqlite (alike : Alike phone db other) (observed : Observed db)
    (observed' : Observed other) (path checksum : String) :
    (∃ fault fault', importScraperSqlite syncs db path checksum = .error fault ∧
      importScraperSqlite syncs other path checksum = .error fault') ∨
    ∃ after after', importScraperSqlite syncs db path checksum = .ok after ∧
    importScraperSqlite syncs other path checksum = .ok after' ∧ Alike phone after after' := by
  unfold Jawnix.importScraperSqlite
  rw [alike.audited]
  split
  · exact .inr ⟨db, other, rfl, rfl, alike⟩
  split
  · exact .inl ⟨_, _, rfl, rfl⟩
  case h_2 dataset _ =>
  split
  · refine .inr ⟨_, _, rfl, rfl, ?_, ?_, ?_⟩
    · obtain ⟨_, _, _, _, frame⟩ := observeRows_frame checksum (listings syncs dataset) { db }
      obtain ⟨_, _, _, _, frame'⟩ := observeRows_frame checksum (listings syncs dataset) { db := other }
      have same := alike.audits
      simp only [auditKeys, frame, frame', map_append, map_cons, List.map_nil] at same ⊢
      rw [same]
    · obtain ⟨_, _, _, _, frame⟩ := observeRows_frame checksum (listings syncs dataset) { db }
      obtain ⟨_, _, _, _, frame'⟩ := observeRows_frame checksum (listings syncs dataset) { db := other }
      simp only [frame, frame']
      exact alike.publications
    · exact basisOf_observeRows (listings syncs dataset) (s := { db })
        (u := { db := other }) observed observed' alike.rests
  · exact .inl ⟨_, _, rfl, rfl⟩

theorem Alike.importPublication (syncs : SyncPlatform) (alike : Alike phone db other)
    (observed : Observed db) (observed' : Observed other)
    (publication : DatasetPublication) (found : Option FoundFile) (broken : Bool) :
    (∃ fault fault', importPublication syncs db publication found broken = .error fault ∧
      importPublication syncs other publication found broken = .error fault') ∨
    ∃ after after', importPublication syncs db publication found broken = .ok after ∧
    importPublication syncs other publication found broken = .ok after' ∧ Alike phone after after' := by
  unfold Jawnix.importPublication
  split
  · exact .inl ⟨_, _, rfl, rfl⟩
  split
  · split
    · exact .inl ⟨_, _, rfl, rfl⟩
    · exact alike.importScraperSqlite observed observed' _ _
  · exact .inl ⟨_, _, rfl, rfl⟩

section
variable (alike : Alike phone db other)
include alike

theorem Alike.setPublication (version : Nat) (f : DatasetPublication → DatasetPublication)
    (kind : JobKind) (payload : JobPayload) (now : Instant) :
    Alike phone (enqueueJob (db.setPublication version f) kind none payload now)
      (enqueueJob (other.setPublication version f) kind none payload now) where
  audits := alike.audits
  publications := congrArg (adjust DatasetPublication.version version f) alike.publications
  rests := (basisOf_congr rfl rfl).trans (alike.rests.trans (basisOf_congr rfl rfl).symm)

theorem Alike.syncStep (observed : Observed db) (observed' : Observed other) (op : SyncOp) :
    Alike phone (syncStep syncs db op) (syncStep syncs other op) := by
  have named : other.publication? op.version = db.publication? op.version := by
    unfold Db.publication?
    rw [alike.publications]
  unfold Jawnix.syncStep syncDatasetVersion
  rw [named]
  split
  · exact alike
  case h_2 publication _ =>
  split
  · exact alike
  rcases alike.importPublication syncs observed observed' publication op.found op.broken with
    ⟨fault, fault', failed, failed'⟩ | ⟨after, after', done, done', later⟩
  · rw [failed, failed']
    exact alike.setPublication _ _ _ _ _
  · rw [done, done']
    exact later.setPublication _ _ _ _ _

theorem Alike.importedBy {backend : Backend} {records : List ManifestRecord}
    (sits : ∀ lead ∈ db.leadOfPhone? phone, Sits db lead)
    (sits' : ∀ lead ∈ other.leadOfPhone? phone, Sits other lead) :
    Alike phone (importedBy manifests backend db records) (importedBy manifests backend other records) := by
  obtain ⟨_, _, _, _, frame⟩ := importedBy_frame manifests backend db records
  obtain ⟨_, _, _, _, frame'⟩ := importedBy_frame manifests backend other records
  have observations : basis (Jawnix.importedBy manifests backend db records) = basis db := by
    rw [frame]
    exact funext (basis_congr rfl)
  have observations' : basis (Jawnix.importedBy manifests backend other records) = basis other := by
    rw [frame']
    exact funext (basis_congr rfl)
  refine ⟨?_, ?_, ?_⟩
  · rw [frame, frame']
    exact alike.audits
  · rw [frame, frame']
    exact alike.publications
  unfold Db.basisOf
  rw [observations, observations']
  cases backend with
  | orm =>
    have kept : ∀ row ∈ manifestRows manifests records, row.phone = phone → ∀ id id' old old',
        ((∀ lead ∈ old, Sits db lead) ∧ (∀ lead ∈ old', Sits other lead) ∧
          old'.map (basis other) = old.map (basis db)) →
        (∀ lead ∈ some (row.upserted id old), Sits db lead) ∧
          (∀ lead ∈ some (row.upserted id' old'), Sits other lead) ∧
          (some (row.upserted id' old')).map (basis other) = (some (row.upserted id old)).map
            (basis db) := by
      rintro row member _ id id' old old' ⟨before, before', same⟩
      obtain ⟨after, rests⟩ := Sits.upserted (manifestRows_state member) id before
      obtain ⟨after', rests'⟩ := Sits.upserted (manifestRows_state member) id' before'
      refine ⟨fun lead held => ?_, fun lead held => ?_, ?_⟩
      · cases held
        exact after
      · cases held
        exact after'
      · rw [map_some, map_some, rests, rests', same]
    exact (importOrm_relates (R := fun old old' => (∀ lead ∈ old, Sits db lead) ∧
      (∀ lead ∈ old', Sits other lead) ∧
      old'.map (basis other) = old.map (basis db)) kept ⟨sits, sits', alike.rests⟩).2.2
  | postgresql =>
  obtain ⟨unnamed, grouped⟩ := importPostgresql_lead manifests db records phone
  obtain ⟨unnamed', grouped'⟩ := importPostgresql_lead manifests other records phone
  change ((importPostgresql manifests other records).leadOfPhone? phone).map _ =
    ((importPostgresql manifests db records).leadOfPhone? phone).map _
  by_cases named : ∃ row ∈ manifestRows manifests records, row.phone = phone
  · obtain ⟨id, read⟩ := grouped named
    obtain ⟨id', read'⟩ := grouped' named
    have same : (other.leadOfPhone? phone).map (basis other) = (db.leadOfPhone? phone).map
      (basis db) := alike.rests
    rw [read, read', map_some, map_some, (Sits.merged (aggregate_state_ne named) id sits).2,
      (Sits.merged (aggregate_state_ne named) id' sits').2, same]
  have absent : ∀ row ∈ manifestRows manifests records, row.phone ≠ phone := fun row member here =>
    named ⟨row, member, here⟩
  rw [unnamed absent, unnamed' absent]
  exact alike.rests

end

theorem Alike.trans {third : Db} (first : Alike phone db other) (second : Alike phone other third) :
    Alike phone db third :=
  ⟨second.audits.trans first.audits, second.publications.trans first.publications,
    second.rests.trans first.rests⟩

theorem Alike.symm (alike : Alike phone db other) : Alike phone other db :=
  ⟨alike.audits.symm, alike.publications.symm, alike.rests.symm⟩

theorem Alike.manifestStep {s u : Catalogue} (alike : Alike phone s.db u.db) (sound : Sound s)
    (sound' : Sound u) (backend : Backend) (path checksum : String) (file : ManifestFile) :
    Alike phone (manifestStep manifests s backend path checksum file).db
    (manifestStep manifests u backend path checksum file).db := by
  unfold Jawnix.manifestStep
  rw [alike.auditedFile]
  split
  · exact alike
  have imported : Alike phone (Jawnix.importedBy manifests backend s.db file.records)
      (Jawnix.importedBy manifests backend u.db file.records) :=
        alike.importedBy (sound.sits phone) (sound'.sits phone)
  refine ⟨?_, imported.publications, (basisOf_congr rfl rfl).trans
    (imported.rests.trans (basisOf_congr rfl rfl).symm)⟩
  have audits := imported.audits
  simp only [auditKeys, map_append] at audits ⊢
  rw [audits]

theorem Alike.rewrite {q : String} {f : Lead → Lead} (e : LeadCorrectionEvent)
    (found : db.leadOfPhone? q = some lead) (named : ∀ l, (f l).phone = l.phone)
    (kept : q = phone → basis db (f lead) = basis db lead) :
    Alike phone db ((db.withCorrection e).editLead q f) := by
  refine ⟨rfl, rfl, ?_⟩
  have stored : (db.withCorrection e).leadOfPhone? q = some lead := found
  have observations : basis ((db.withCorrection e).editLead q f) = basis db := funext (basis_congr rfl)
  rw [Db.basisOf, Db.basisOf, observations, leadOfPhone?_edit stored named]
  split
  case isTrue here =>
    rw [here, found, map_some, map_some, kept here.symm]
  · rfl

theorem correctStep_alike {s : Catalogue} (sound : Sound s) (q : String) (report : Option Uuid)
    (override : Override) (id : Uuid) (now : Instant)
    (inDb1 : q = phone → phone ∉ (correctStep s q report override id now).corrected) :
    Alike phone s.db (correctStep s q report override id now).db := by
  rcases correctStep_cases sound.schema q report override id now with
    unchanged | ⟨lead, e, eligibilityHolds, reports, found, _, after⟩
  · rw [unchanged]
    exact ⟨rfl, rfl, rfl⟩
  rw [after] at inDb1 ⊢
  have aside : Alike phone s.db { s.db with eligibilityHolds, reports } := ⟨rfl, rfl, basisOf_congr rfl rfl⟩
  refine aside.trans (Alike.rewrite e found (fun _ => rfl) fun here => basis_correctLead e ?_)
  by_contra outside
  refine inDb1 here ?_
  rw [if_neg outside, here]
  exact mem_cons_self

theorem removeStep_alike {s : Catalogue} (sound : Sound s) (q actorId reason : String) (id : Uuid)
    (now : Instant) (inDb1 : q = phone → phone ∉ s.corrected) :
    Alike phone s.db (removeStep s q actorId reason id now).db := by
  rcases removeStep_cases sound.schema q actorId reason id now with
    unchanged | ⟨lead, e, found, active, after⟩
  · rw [unchanged]
    exact ⟨rfl, rfl, rfl⟩
  rw [after]
  refine Alike.rewrite e found (fun _ => rfl) fun here => basis_fallBack _ ?_
  by_contra outside
  exact inDb1 here (sound.strays phone lead (here ▸ found) (by simpa using outside) active)

def CatalogueOp.corrects (phone : String) : CatalogueOp → Bool
  | .correct other _ _ _ _ | .remove other _ _ _ _ => other = phone
  | _ => false

def uncorrected (phone : String) (ops : List CatalogueOp) : List CatalogueOp :=
  ops.filter fun op => !op.corrects phone

theorem Sound.step {s : Catalogue} (sound : Sound s) (op : CatalogueOp) :
    Sound (catalogueStep syncs manifests s op) := sound.run [op]

theorem catalogueStep_corrected {s : Catalogue} (sound : Sound s) (op : CatalogueOp) :
    ∀ p ∈ s.corrected, p ∈ (catalogueStep syncs manifests s op).corrected := by
  intro p member
  cases op with
  | correct phone report override id now =>
    rcases correctStep_cases sound.schema phone report override id now with
      unchanged | ⟨lead, _, _, _, _, _, after⟩
    · rw [catalogueStep, unchanged]
      exact member
    rw [catalogueStep, after]
    change p ∈ if lead.inDb1 then s.corrected else phone :: s.corrected
    split
    · exact member
    · exact mem_cons_of_mem _ member
  | remove phone actorId reason id now =>
    rcases removeStep_cases sound.schema phone actorId reason id now with unchanged | ⟨_, _, _, _, after⟩
    · rw [catalogueStep, unchanged]
      exact member
    · rw [catalogueStep, after]
      exact member
  | sync op => exact member
  | manifest backend path checksum file =>
    rw [catalogueStep, manifestStep]
    split <;> exact member

variable {op : CatalogueOp}
variable {s u : Catalogue}

theorem Alike.step (alike : Alike phone s.db u.db) (sound : Sound s) (sound' : Sound u)
    (other : op.corrects phone = false) :
    Alike phone (catalogueStep syncs manifests s op).db (catalogueStep syncs manifests u op).db := by
  cases op with
  | correct q report override id now =>
    have apart : q ≠ phone := by simpa [CatalogueOp.corrects] using other
    exact (correctStep_alike sound q report override id now fun here => absurd here apart).symm.trans
      (alike.trans (correctStep_alike sound' q report override id now fun here => absurd here apart))
  | remove q actorId reason id now =>
    have apart : q ≠ phone := by simpa [CatalogueOp.corrects] using other
    exact (removeStep_alike sound q actorId reason id now fun here => absurd here apart).symm.trans
      (alike.trans (removeStep_alike sound' q actorId reason id now fun here => absurd here apart))
  | sync op => exact alike.syncStep sound.observed sound'.observed op
  | manifest backend path checksum file => exact alike.manifestStep sound sound' backend path checksum file

theorem run_alike (alike : Alike phone s.db u.db) (sound : Sound s) (sound' : Sound u)
    (ops : List CatalogueOp) (inDb1 : phone ∉ (catalogueRun syncs manifests s ops).corrected) :
    Alike phone (catalogueRun syncs manifests s ops).db
    (catalogueRun syncs manifests u (uncorrected phone ops)).db := by
  induction ops generalizing s u with
  | nil => exact alike
  | cons op ops ih =>
  have before : phone ∉ (catalogueStep syncs manifests s op).corrected := fun member =>
    inDb1 (run_invariant (I := fun s : Catalogue => Sound s ∧ phone ∈ s.corrected)
      (fun s op held => ⟨held.1.step op, catalogueStep_corrected held.1 op phone held.2⟩)
        ⟨sound.step op, member⟩ ops).2
  unfold uncorrected
  cases corrects : op.corrects phone with
  | true =>
    rw [List.filter_cons_of_neg (by simp [corrects])]
    refine ih (Alike.trans (Alike.symm ?_) alike) (sound.step op) sound' inDb1
    cases op with
    | correct q report override id now =>
      exact correctStep_alike sound q report override id now fun _ => before
    | remove q actorId reason id now =>
      exact removeStep_alike sound q actorId reason id now fun _ member =>
        before (catalogueStep_corrected sound _ phone member)
    | sync op => cases corrects
    | manifest backend path checksum file => cases corrects
  | false =>
    rw [List.filter_cons_of_pos (by simp [corrects])]
    exact ih (alike.step sound sound' corrects) (sound.step op) (sound'.step op) inDb1

theorem free_step (sound : Sound s) (other : op.corrects phone = false)
    (free : ∀ lead ∈ s.db.leadOfPhone? phone, lead.activeCorrectionId = none) :
    ∀ lead ∈ (catalogueStep syncs manifests s op).db.leadOfPhone? phone, lead.activeCorrectionId = none := by
  cases op with
  | correct q report override id now =>
    have apart : phone ≠ q := by simpa [CatalogueOp.corrects, eq_comm] using other
    rcases correctStep_cases sound.schema q report override id now with
      unchanged | ⟨lead, e, holds, reports, found, _, after⟩
    · rw [catalogueStep, unchanged]
      exact free
    have stored :
      (({ s.db with eligibilityHolds := holds, reports } : Db).withCorrection e).leadOfPhone? q =
      some lead := found
    have read := leadOfPhone?_edit (f := correctLead e) stored (fun _ => rfl) phone
    rw [catalogueStep, after]
    simp only [read, if_neg apart]
    exact free
  | remove q actorId reason id now =>
    have apart : phone ≠ q := by simpa [CatalogueOp.corrects, eq_comm] using other
    rcases removeStep_cases sound.schema q actorId reason id now with unchanged | ⟨lead, e, found, _, after⟩
    · rw [catalogueStep, unchanged]
      exact free
    have stored : (s.db.withCorrection e).leadOfPhone? q = some lead := found
    have read := leadOfPhone?_edit (f := fallBack (underlyingEvidence s.db lead none)) stored
      (fun _ => rfl) phone
    rw [catalogueStep, after]
    simp only [read, if_neg apart]
    exact free
  | sync op =>
    refine (syncStep_induct (P := fun db : Db => Observed db ∧ ∀ lead ∈ db.leadOfPhone? phone,
      lead.activeCorrectionId = none) ?_ ?_ ⟨sound.observed, free⟩ op).2
    · intro db db' holds leads _ observations observationSeq _ _
      refine ⟨holds.1.congr leads observations observationSeq, ?_⟩
      rw [Db.leadOfPhone?, leads]
      exact holds.2
    intro checksum s l holds
    refine ⟨holds.1.observeRow, fun lead held => ?_⟩
    rw [mem_def, leadOfPhone?_observeRow _ _ holds.1] at held
    split at held
    · cases held
      rw [(listLead_active s.db l checksum phone).1, Listing.lead_active, Option.bind_eq_none_iff]
      exact holds.2
    · exact holds.2 lead held
  | manifest backend path checksum file =>
    rw [catalogueStep, manifestStep]
    split
    · exact free
    · exact importedBy_active free

theorem free_run (sound : Sound s) (ops : List CatalogueOp)
    (free : ∀ lead ∈ s.db.leadOfPhone? phone, lead.activeCorrectionId = none) :
    ∀ lead ∈ (catalogueRun syncs manifests s (uncorrected phone ops)).db.leadOfPhone? phone,
    lead.activeCorrectionId = none := by
  induction ops generalizing s with
  | nil => exact free
  | cons op ops ih =>
  unfold uncorrected
  cases corrects : op.corrects phone with
  | true =>
    rw [List.filter_cons_of_neg (by simp [corrects])]
    exact ih sound free
  | false =>
    rw [List.filter_cons_of_pos (by simp [corrects])]
    exact ih (sound.step op) (free_step sound corrects free)

theorem shows_alike (alike : Alike phone s.db u.db) (sound : Sound s) (sound' : Sound u)
    (found : s.db.leadOfPhone? phone = some lead) (kept : phone ∉ s.renamed)
    (kept' : phone ∉ u.renamed) (free : lead.activeCorrectionId = none)
    (free' : ∀ other ∈ u.db.leadOfPhone? phone, other.activeCorrectionId = none) :
    ∃ other, u.db.leadOfPhone? phone = some other ∧ (other.title, other.state) =
    (lead.title, lead.state) := by
  have same : (u.db.leadOfPhone? phone).map (basis u.db) = some (basis s.db lead) := by
    have rests := alike.rests
    rw [Db.basisOf, Db.basisOf, found] at rests
    exact rests
  obtain ⟨other, found', rests⟩ := map_eq_some_iff.mp same
  have shown := sound.rests phone kept lead found
  have shown' := sound'.rests phone kept' other found'
  rw [AtRest, (sound.sits phone lead found).activeCorrection.mpr free] at shown
  rw [AtRest, (sound'.sits phone other found').activeCorrection.mpr (free' other found')] at shown'
  refine ⟨other, found', ?_⟩
  rw [shown, shown', rests]

end

/-- A catalogue before any correction or listing, in which the Leads of DB1 show their Legacy
Listing Snapshots. -/
@[mk_iff]
structure Opening (db : Db) : Prop where
  drawn : ∀ o ∈ db.observations, o.id ≤ db.observationSeq
  schema : LeadSchema db
  plain : ∀ lead ∈ db.leads, lead.activeCorrectionId = none ∧ lead.currentListingObservationId = none
  snapshots : ∀ lead ∈ db.leads, lead.inDb1 → lead.title = lead.legacyTitle ∧
    lead.state = lead.legacyState ∧ lead.state ≠ ""
  bare : ∀ lead ∈ db.leads, lead.inDb1 = false → lead.legacyTitle = "" ∧ lead.legacyState = ""

instance (db : Db) : Decidable (Opening db) := decidable_of_iff' _ (opening_iff ..)

section
variable {syncs : SyncPlatform} {manifests : ManifestPlatform} {db : Db} {lead : Lead}

theorem Opening.unlisted (opening : Opening db) (member : lead ∈ db.leads) :
    db.currentListing lead = none := by
  rw [Db.currentListing, (opening.plain lead member).2]
  rfl

theorem Opening.sits (opening : Opening db) (member : lead ∈ db.leads) : Sits db lead where
  resolved := fun id named => by
    rw [(opening.plain lead member).1] at named
    cases named
  inside := fun listed => absurd (opening.unlisted member) listed
  grounded := fun inside _ bare => by
    obtain ⟨_, state, shown⟩ := opening.snapshots lead member inside
    exact shown (state.trans bare.2)
  bare := opening.bare lead member

theorem Opening.sound (opening : Opening db) : Sound { db } where
  observed := ⟨opening.drawn, fun lead member id current => by
    rw [(opening.plain lead member).2] at current
    cases current⟩
  schema := opening.schema
  sits := fun _ _ held => opening.sits (lookup_some held).1
  strays := fun _ lead held _ active => absurd (opening.plain lead (lookup_some held).1).1 active
  rests := fun phone _ lead held => by
    have member : lead ∈ db.leads := (lookup_some held).1
    rw [AtRest, (opening.sits member).activeCorrection.mpr (opening.plain lead member).1]
    by_cases inside : lead.inDb1
    · obtain ⟨title, state, _⟩ := opening.snapshots lead member inside
      rw [basis_snapshot inside (opening.unlisted member), title, state]
      rfl
    · rw [basis_outside (by simpa using inside) (opening.unlisted member)]
      rfl

theorem removeStep_ok {s : Catalogue} {actorId reason : String} {id : Uuid} {now : Instant}
    {db' : Db} (found : s.db.leadOfPhone? lead.phone = some lead)
    (done : removeLeadCorrection s.db lead.id actorId reason id now = .ok db') :
    removeStep s lead.phone actorId reason id now =
      { s with db := db', renamed := s.renamed.filter (fun p => p ≠ lead.phone) } := by
  unfold removeStep
  simp only [found, done]

/-- In every run of corrections by Admins and from reports, removals,
synchronisations and manifest imports, a Lead that no manifest has renamed since
shows its active correction, and in DB1 without one its Current Listing. A
removed correction uncovers the Current Listing, else the Legacy Listing
Snapshot, and for a Lead of DB2 alone its published CSV row. Where the Lead was
in DB1 whenever it was corrected, and no manifest has renamed it since without
its corrections, it shows what it would had it never been corrected. -/
theorem correction_runs_precedence (syncs : SyncPlatform) (manifests : ManifestPlatform) {db : Db}
    (opening : Opening db) (ops : List CatalogueOp) :
    let s := catalogueRun syncs manifests { db } ops
    (∀ lead ∈ s.db.leads, lead.phone ∉ s.renamed →
      (∀ id ∈ lead.activeCorrectionId, ∃ c, s.db.correction? id = some c ∧
        lead.title = c.title ∧ lead.state = c.state) ∧
      (lead.inDb1 = true → lead.activeCorrectionId = none →
        ∀ o ∈ s.db.currentListing lead, lead.title = o.title ∧ lead.state = o.state)) ∧
    ∀ lead ∈ s.db.leads, ∀ actorId reason id now db',
      removeLeadCorrection s.db lead.id actorId reason id now = .ok db' →
      ∃ after, db'.leadOfPhone? lead.phone = some after ∧ after.activeCorrectionId = none ∧
        (after.title, after.state) =
          ((underlyingEvidence s.db lead none).title, (underlyingEvidence s.db lead none).state) ∧
        let t := catalogueRun syncs manifests { db } (uncorrected lead.phone ops)
        (lead.phone ∉ s.corrected → lead.phone ∉ t.renamed →
          ∃ never, t.db.leadOfPhone? lead.phone = some never ∧
            (never.title, never.state) = (after.title, after.state)) := by
  intro s
  have sound : Sound s := opening.sound.run ops
  constructor
  · intro lead member kept
    have found := lookup_of_mem sound.schema.phones member
    have sits := sound.sits lead.phone lead found
    have shown := sound.rests lead.phone kept lead found
    constructor
    · intro id named
      obtain ⟨c, stored⟩ := isSome_iff_exists.mp (sits.resolved id named)
      have active : s.db.activeCorrection lead = some c := by
        rw [Db.activeCorrection, named]
        exact stored
      rw [AtRest, active] at shown
      exact ⟨c, stored, Prod.mk.inj shown⟩
    intro _ free o current
    rw [AtRest, sits.activeCorrection.mpr free, basis_listed current] at shown
    exact Prod.mk.inj shown
  intro lead member actorId reason id now db' done
  have found := lookup_of_mem sound.schema.phones member
  obtain ⟨e, _, _, _, after⟩ := removeLeadCorrection_ok (sound.schema.lead?_of_found found) done
  have read : db'.leadOfPhone? lead.phone =
      some (fallBack (underlyingEvidence s.db lead none) lead) := by
    have stored : (s.db.withCorrection e).leadOfPhone? lead.phone = some lead := found
    rw [after]
    exact (leadOfPhone?_edit (f := fallBack _) stored (fun _ => rfl) lead.phone).trans (if_pos rfl)
  refine ⟨_, read, rfl, rfl, fun inDb1 kept => ?_⟩
  -- the removal is one more step of the run, and not one of the run without corrections
  have step := removeStep_ok found done
  have same : uncorrected lead.phone (ops ++ [.remove lead.phone actorId reason id now]) =
    uncorrected lead.phone ops := by
    simp [uncorrected, CatalogueOp.corrects]
  have last : catalogueRun syncs manifests { db } (ops ++ [.remove lead.phone actorId reason id now]) =
      removeStep s lead.phone actorId reason id now := run_concat _ _ _
  have alike : Alike lead.phone
      (catalogueRun syncs manifests { db } (ops ++ [.remove lead.phone actorId reason id now])).db
      (catalogueRun syncs manifests { db }
        (uncorrected lead.phone (ops ++ [.remove lead.phone actorId reason id now]))).db :=
    run_alike ⟨rfl, rfl, rfl⟩ opening.sound opening.sound _ (by rw [last, step]; exact inDb1)
  rw [same] at alike
  have removed :
    Sound (catalogueRun syncs manifests { db }
    (ops ++ [.remove lead.phone actorId reason id now])) :=
    opening.sound.run _
  rw [last, step] at alike removed
  exact shows_alike alike removed (opening.sound.run _) read (by simp) kept rfl
    (free_run opening.sound ops fun other held => (opening.plain other (lookup_some held).1).1)

def plainManifests : ManifestPlatform where
  casing := plainCasing
  digit := Char.isDigit
  dateFromisoformat := fun _ => none
  collatesBefore := fun a b => a < b

def manifestOf (checksum title : String) : CatalogueOp :=
  .manifest .orm "/data/manifest.csv" checksum
    { header := manifestColumns
      records := [{ phone := some "5551234567", title := some title, state := some "TX" }] }

def retitle (title : String) (id : Uuid) : CatalogueOp :=
  .correct "5551234567" none
    { actorId := "admin", reason := "Signage", title := some title, state := none } id 0

def restore (id : Uuid) : CatalogueOp := .remove "5551234567" "admin" "Mistaken" id 0

def db2Alone : Db :=
  { leads := [{ id := 1, phone := "5551234567", inDb1 := false, title := "", state := "" }]
    leadSeq := 1
    memberships := [{ leadId := 1, uploadId := 7, state := "TX" }]
    db2Rows :=
      [{ leadId := 1, uploadId := 7, phone := "5551234567", title := "Csv Name", state := "TX",
         rowNumber := 2, ownerId := 3 }] }

def renamedRun (ops : List CatalogueOp) : Catalogue :=
  catalogueRun renamedPlatform plainManifests { db := renamedDb } ops

def titles (db : Db) (ops : List CatalogueOp) : List String :=
  (catalogueRun renamedPlatform plainManifests { db } ops).db.leads.map Lead.title

/-- A manifest outranks the Current Listing of a Lead. A removed correction
uncovers the Legacy Listing Snapshot and not the manifest that was imported
last, takes the corrections it superseded with it, and leaves a Lead of DB2
alone with the title of its CSV row. -/
theorem manifest_outranks_listing : Opening renamedDb ∧ Opening db2Alone ∧
      (let s := renamedRun [.sync (syncOf 1 "a"), manifestOf "m" "Manifest Name"]
        ∃ lead ∈ s.db.leads, lead.inDb1 = true ∧ lead.activeCorrectionId = none ∧
          lead.title = "Manifest Name" ∧ ∃ o ∈ s.db.currentListing lead, o.title = "Old Name") ∧
      titles renamedDb [manifestOf "m" "First", manifestOf "n" "Second", retitle "Fixed" 1,
      restore 2] = ["First"] ∧
      titles renamedDb [manifestOf "m" "First", manifestOf "n" "Second"] = ["Second"] ∧
      titles renamedDb [manifestOf "m" "First", retitle "Fixed" 1, retitle "Fixed again" 2,
      restore 3] = ["First"] ∧
      titles renamedDb [manifestOf "m" "First", retitle "Fixed" 1] = ["Fixed"] ∧
      titles db2Alone [retitle "Fixed" 1, restore 2] = ["Csv Name"] ∧ titles db2Alone [] = [""] := by
  decide +kernel

theorem correction_runs_precedence_renamed : Opening renamedDb ∧
    let s := renamedRun [.sync (syncOf 1 "a"), retitle "Fixed" 1, .sync (syncOf 2 "b")]
    let t := renamedRun [.sync (syncOf 1 "a"), .sync (syncOf 2 "b")]
    ∃ lead ∈ s.db.leads, lead.title = "Fixed" ∧
      ∃ db' after never, removeLeadCorrection s.db lead.id "admin" "Mistaken" 2 0 = .ok db' ∧
        db'.leadOfPhone? lead.phone = some after ∧ t.db.leadOfPhone? lead.phone = some never ∧
        (never.title, never.state) = (after.title, after.state) := by
  have opening : Opening renamedDb := by decide +kernel
  refine ⟨opening, ?_⟩
  intro s t
  have removed : ∃ lead ∈ s.db.leads, lead.title = "Fixed" ∧ lead.phone = "5551234567" ∧
      ((removeLeadCorrection s.db lead.id "admin" "Mistaken" 2 0).toOption).isSome := by
    decide +kernel
  obtain ⟨lead, member, shown, phone, done⟩ := removed
  obtain ⟨db', done⟩ := isSome_iff_exists.mp done
  have done : removeLeadCorrection s.db lead.id "admin" "Mistaken" 2 0 = .ok db' := by
    revert done
    cases removeLeadCorrection _ lead.id "admin" "Mistaken" 2 0 with
    | error fault => exact fun done => nomatch done
    | ok _ => exact fun done => congrArg Except.ok (some.inj done)
  obtain ⟨after, read, _, _, undone⟩ :=
    (correction_runs_precedence renamedPlatform plainManifests opening _).2 lead member _ _ _ _ _ done
  have plain : uncorrected lead.phone [.sync (syncOf 1 "a"), retitle "Fixed" 1, .sync (syncOf 2 "b")] =
      [.sync (syncOf 1 "a"), .sync (syncOf 2 "b")] := by
    rw [phone]
    rfl
  rw [plain] at undone
  have kept : lead.phone ∉ s.corrected ∧ lead.phone ∉ t.renamed := by
    rw [phone]
    decide +kernel
  obtain ⟨never, found, same⟩ := undone kept.1 kept.2
  exact ⟨lead, member, shown, db', after, never, done, read, found, same⟩

end

end Jawnix
