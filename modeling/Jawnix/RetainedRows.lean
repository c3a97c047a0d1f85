import Jawnix.LeadRegistry
import Jawnix.LeadUploads

/-!
# Rows of a version under construction

Each row of a chunk is upserted under its Lead. As a Lead has one phone and a
phone one Lead, the upserts of a pass leave the last row read under every phone,
whatever earlier passes over the same file have left there.
-/
namespace Jawnix

section
variable {upload : LeadUpload} {leads leads' : List Lead} {file : List ImportRow}
  {rows rows' : List SourceRow}
  {source source' : SourceDb}

/-- The rows of an upload: each belongs to the Lead of its phone, and the phone stands in the
file. -/
structure RowsSound (leads : List Lead) (file : List ImportRow) (upload : LeadUpload)
    (rows : List SourceRow) : Prop where
  keyed : Keyed SourceRow.key rows
  lead : ∀ r ∈ rows, r.uploadId = upload.id → HasLead leads r.leadId r.phone
  inFile : ∀ r ∈ rows, r.uploadId = upload.id → ∃ row ∈ file, row.phone = r.phone

variable {db : Db} {row : ImportRow} {chunk : List ImportRow} {x : SourceRow}
  {read : List ImportRow} {staged : List SourceRow}

theorem RowsSound.kept (kept : LeadsKept leads leads') (sound : RowsSound leads file upload rows) :
    RowsSound leads' file upload rows :=
  { sound with lead := fun r member named => (sound.lead r member named).kept kept }

/-- The last of the rows read under each phone is stored. -/
def Retained (upload : LeadUpload) (rows : List SourceRow) (read : List ImportRow) : Prop :=
  ∀ phone row, latest ImportRow.phone phone read = some row →
    ∃ r ∈ rows, r.uploadId = upload.id ∧ r.phone = phone ∧ r.title = row.title ∧ r.rowNumber = row.number

theorem Retained.congr {read' : List ImportRow}
    (same : ∀ phone, latest ImportRow.phone phone read' = latest ImportRow.phone phone read)
    (retained : Retained upload rows read) : Retained upload rows read' := by
  intro phone row last
  rw [same] at last
  exact retained phone row last

/-- `x` is the row copied for `row`. -/
structure Stages (upload : LeadUpload) (leads : List Lead) (row : ImportRow) (x : SourceRow) : Prop where
  uploadId : x.uploadId = upload.id
  phone : x.phone = row.phone
  title : x.title = row.title
  number : x.rowNumber = row.number
  lead : HasLead leads x.leadId x.phone

section
variable (schema : LeadSchema db)
include schema

section
variable (sound : RowsSound db.leads file upload rows)
include sound

theorem stored_by_upsert {y : SourceRow} (stages : Stages upload db.leads row x)
    (stored : y = (lookup SourceRow.key x.key rows).elim x fun old => replaceListing old x) :
    y.uploadId = upload.id ∧ y.leadId = x.leadId ∧ y.phone = row.phone ∧ y.title = row.title ∧
    y.rowNumber = row.number := by
  cases found : lookup SourceRow.key x.key rows with
  | none =>
    rw [found] at stored
    subst stored
    exact ⟨stages.uploadId, rfl, stages.phone, stages.title, stages.number⟩
  | some old =>
  rw [found] at stored
  subst stored
  obtain ⟨member, key⟩ := lookup_some found
  obtain ⟨sameUpload, sameLead⟩ := Prod.mk.inj key
  have ours : old.uploadId = upload.id := sameUpload.trans stages.uploadId
  have samePhone := (HasLead.phone_iff schema (sound.lead old member ours) stages.lead).mp sameLead
  exact ⟨ours, sameLead, samePhone.trans stages.phone, stages.title, stages.number⟩

theorem upsert_sound (stages : Stages upload db.leads row x) (inFile : row ∈ file) :
    RowsSound db.leads file upload (upsert SourceRow.key replaceListing rows x) := by
  refine ⟨Rows.keyed_upsert (fun old _ => rfl) sound.keyed, ?_, ?_⟩
  · intro y member ours
    rcases (Rows.mem_upsert sound.keyed).mp member with ⟨old, _⟩ | stored
    · exact sound.lead y old ours
    obtain ⟨_, sameLead, samePhone, _⟩ := stored_by_upsert schema sound stages stored
    rw [sameLead, samePhone, ← stages.phone]
    exact stages.lead
  intro y member ours
  rcases (Rows.mem_upsert sound.keyed).mp member with ⟨old, _⟩ | stored
  · exact sound.inFile y old ours
  · exact ⟨row, inFile, (stored_by_upsert schema sound stages stored).2.2.1.symm⟩

theorem upsert_retained (retained : Retained upload rows read) (stages : Stages upload db.leads row x) :
    Retained upload (upsert SourceRow.key replaceListing rows x) (read ++ [row]) := by
  intro phone last found
  rw [Rows.latest_append_one] at found
  split at found
  case isTrue here =>
    cases found
    obtain ⟨ours, _, samePhone, title, number⟩ := stored_by_upsert schema sound stages rfl
    exact ⟨_, (Rows.mem_upsert sound.keyed).mpr (.inr rfl), ours, samePhone.trans here, title, number⟩
  case isFalse other =>
  obtain ⟨r, member, ours, samePhone, listing⟩ := retained phone last found
  have apart : r.key ≠ x.key := by
    intro same
    have phones := (HasLead.phone_iff schema (sound.lead r member ours) stages.lead).mp (Prod.mk.inj same).2
    exact other (stages.phone.symm.trans (phones.symm.trans samePhone))
  exact ⟨r, (Rows.mem_upsert sound.keyed).mpr (.inl ⟨member, apart⟩), ours, samePhone, listing⟩

end

theorem upserts_retained (stages : List.Forall₂ (Stages upload db.leads) chunk staged)
    (inFile : ∀ row ∈ chunk, row ∈ file) (sound : RowsSound db.leads file upload rows)
    (retained : Retained upload rows read) :
    RowsSound db.leads file upload (staged.foldl (upsert SourceRow.key replaceListing) rows) ∧
    Retained upload (staged.foldl (upsert SourceRow.key replaceListing) rows) (read ++ chunk) := by
  induction stages generalizing rows read with
  | nil => exact ⟨sound, by simpa using retained⟩
  | cons first _ ih =>
    obtain ⟨here, later⟩ := forall_mem_cons.mp inFile
    have step := ih later (upsert_sound schema sound first here)
      (upsert_retained schema sound retained first)
    simpa [append_assoc] using step

end

theorem registerPhone_closed {P : Db → Prop} (closed : RegistryClosed P) (phone : String)
    (holds : P db) : P (registerPhone db phone) :=
  closed.upsert rfl (fun _ => ⟨rfl, rfl, fun _ reached => reached⟩) holds

theorem registerPhone_keeps (schema : LeadSchema db) (phone : String) :
    LeadSchema (registerPhone db phone) ∧ LeadsKept db.leads (registerPhone db phone).leads := by
  refine ⟨registerPhone_closed schema_closed phone schema, ?_⟩
  unfold registerPhone
  rw [Rows.upsert_ignore]
  split
  · exact fun lead member => ⟨lead, member, rfl, rfl⟩
  · exact fun lead member => ⟨lead, mem_append_left _ member, rfl, rfl⟩

theorem registerPhone_has (db : Db) (phone : String) :
    ∃ id, HasLead (registerPhone db phone).leads id phone := by
  unfold registerPhone
  rw [Rows.upsert_ignore]
  split
  case isTrue known =>
    obtain ⟨lead, found⟩ := isSome_iff_exists.mp known
    exact ⟨lead.id, lead, (lookup_some found).1, rfl, (lookup_some found).2⟩
  · exact ⟨_, _, mem_append_right _ mem_cons_self, rfl, rfl⟩

theorem canonicalIds_keeps (schema : LeadSchema db) (phones : List String) :
    LeadSchema (canonicalIds db phones).1 ∧ LeadsKept db.leads (canonicalIds db phones).1.leads := by
  unfold canonicalIds
  simp only
  induction phones generalizing db with
  | nil => exact ⟨schema, fun lead member => ⟨lead, member, rfl, rfl⟩⟩
  | cons phone phones ih =>
    obtain ⟨registered, kept⟩ := registerPhone_keeps schema phone
    obtain ⟨later, laterKept⟩ := ih registered
    exact ⟨later, fun lead member => (kept lead member).kept laterKept⟩

theorem canonicalIds_frame (db : Db) (phones : List String) :
    ∃ leads leadSeq, (canonicalIds db phones).1 = { db with leads, leadSeq } := by
  unfold canonicalIds
  simp only
  induction phones generalizing db with
  | nil => exact ⟨db.leads, db.leadSeq, rfl⟩
  | cons phone phones ih =>
    obtain ⟨leads, leadSeq, same⟩ := ih (registerPhone db phone)
    exact ⟨leads, leadSeq, same⟩

theorem canonicalIds_leads (db : Db) (phones : List String) :
    ∀ entry ∈ (canonicalIds db phones).2, HasLead (canonicalIds db phones).1.leads entry.2 entry.1 := by
  intro entry member
  obtain ⟨lead, found, rfl⟩ := mem_map.mp member
  exact ⟨lead, (mem_filter.mp found).1, rfl, rfl⟩

theorem stagedRows_stages {ids : List (String × Nat)} (known : ∀ entry ∈ ids, HasLead leads entry.2 entry.1)
    (done : stagedRows upload ids chunk = some staged) :
    List.Forall₂ (Stages upload leads) chunk staged := by
  induction chunk generalizing staged with
  | nil =>
    cases done
    exact .nil
  | cons row chunk ih =>
    simp only [stagedRows, List.mapM_cons, Option.bind_eq_bind, bind_eq_some_iff, map_eq_some_iff,
      Option.pure_def, some.injEq] at done
    obtain ⟨_, ⟨leadId, found, rfl⟩, rest, later, rfl⟩ := done
    exact .cons ⟨rfl, rfl, rfl, rfl, known _ (mem_of_get? found)⟩ (ih later)

/-! A chunk that is not disturbed is retained. -/

theorem canonicalIds_has (db : Db) {phones : List String} (schema : LeadSchema db) {phone : String}
    (member : phone ∈ phones) : (get? phone (canonicalIds db phones).2).isSome := by
  have has : ∃ id, HasLead (canonicalIds db phones).1.leads id phone := by
    unfold canonicalIds
    simp only
    induction phones generalizing db with
    | nil => cases member
    | cons first phones ih =>
      have registered := (registerPhone_keeps schema first).1
      rcases mem_cons.mp member with rfl | later
      · obtain ⟨id, here⟩ := registerPhone_has db phone
        exact ⟨id, here.kept (canonicalIds_keeps registered phones).2⟩
      · exact ih _ registered later
  obtain ⟨id, lead, stored, rfl, rfl⟩ := has
  exact Dict.get?_isSome_of_mem (mem_map.mpr ⟨lead, mem_filter.mpr ⟨stored, decide_eq_true member⟩, rfl⟩)

theorem stagedRows_isSome {ids : List (String × Nat)}
    (known : ∀ row ∈ chunk, (get? row.phone ids).isSome) :
    ∃ staged, stagedRows upload ids chunk = some staged := by
  induction chunk with
  | nil => exact ⟨[], rfl⟩
  | cons row chunk ih =>
    obtain ⟨here, later⟩ := forall_mem_cons.mp known
    obtain ⟨leadId, found⟩ := isSome_iff_exists.mp here
    obtain ⟨rest, staged⟩ := ih later
    unfold stagedRows at staged ⊢
    exact ⟨_, by rw [List.mapM_cons, found, staged]; rfl⟩

theorem upsert_phones (schema : LeadSchema db) (sound : RowsSound db.leads file upload rows)
    (phones : Keyed SourceRow.phoneKey rows) (stages : Stages upload db.leads row x) :
    Keyed SourceRow.phoneKey (upsert SourceRow.key replaceListing rows x) := by
  unfold upsert
  split
  case h_1 absent =>
    refine keyed_append.mpr ⟨phones, fun r member same => ?_⟩
    obtain ⟨sameUpload, samePhone⟩ := Prod.mk.inj same
    have lead := sound.lead r member (sameUpload.trans stages.uploadId)
    have sameLead := (HasLead.phone_iff schema lead stages.lead).mpr samePhone
    exact lookup_none.mp absent r member (Prod.ext sameUpload sameLead)
  case h_2 old found =>
  have same : (adjust SourceRow.key x.key (fun old => replaceListing old x) rows).map SourceRow.phoneKey =
      rows.map SourceRow.phoneKey := map_adjust_of_preserves _ fun _ _ => rfl
  unfold Keyed
  rw [same]
  exact phones

theorem upserts_phones (schema : LeadSchema db)
    (stages : List.Forall₂ (Stages upload db.leads) chunk staged) (inFile : ∀ row ∈ chunk, row ∈ file)
    (sound : RowsSound db.leads file upload rows) (phones : Keyed SourceRow.phoneKey rows) :
    Keyed SourceRow.phoneKey (staged.foldl (upsert SourceRow.key replaceListing) rows) := by
  induction stages generalizing rows with
  | nil => exact phones
  | cons first _ ih =>
    obtain ⟨here, later⟩ := forall_mem_cons.mp inFile
    exact ih later (upsert_sound schema sound first here) (upsert_phones schema sound phones first)

end

section
variable {source : SourceDb} {id : Uuid} {e : SourceUpload}

theorem SourceDb.insertUpload_upload? {upload : LeadUpload} (named : upload.id = id)
    (absent : source.upload? id = none) :
    (source.insertUpload upload).upload? id = some (newUpload upload) := by
  have unread : lookup SourceUpload.id id source.uploads = none := absent
  unfold SourceDb.upload? SourceDb.insertUpload
  rw [Rows.lookup_upsert fun _ _ => rfl, unread]
  exact if_pos named

theorem SourceDb.setUpload_some {source' : SourceDb} {f : SourceUpload → SourceUpload}
    (done : source.setUpload id f = some source') (found : source.upload? id = some e)
    (named : ∀ u, (f u).id = u.id) :
    source'.rows = source.rows ∧ source'.upload? id = some (f e) ∧
    (Keyed SourceUpload.id source.uploads → Keyed SourceUpload.id source'.uploads) := by
  unfold SourceDb.setUpload at done
  split at done
  · cases done
  cases done
  exact ⟨rfl, lookup_adjust_self (fun u _ => named u) found, keyed_adjust fun u _ => named u⟩

theorem SourceDb.published_row (keyed : Keyed SourceUpload.id source.uploads)
    (found : source.upload? id = some e) (ready : e.ready) (r : SourceRow) :
    ((source.uploads.filter fun u => u.id = r.uploadId && u.ready).map
      (fun u => r.foreign u.managerId)).filter (fun row => row.uploadId = id) =
    if r.uploadId = id then [r.foreign e.managerId] else [] := by
  by_cases ours : r.uploadId = id
  · have one : source.uploads.filter (fun u => u.id = r.uploadId && u.ready) = [e] := by
      rw [ours, ← List.filter_filter, List.filter_comm, Rows.filter_key keyed found]
      simp [ready]
    rw [one, if_pos ours]
    simp [SourceRow.foreign, ours]
  rw [if_neg ours, filter_eq_nil_iff]
  intro row member
  obtain ⟨u, _, rfl⟩ := mem_map.mp member
  exact fun same => ours (of_decide_eq_true same)

theorem SourceDb.published_version (keyed : Keyed SourceUpload.id source.uploads)
    (found : source.upload? id = some e) (ready : e.ready) :
    source.published.filter (fun row => row.uploadId = id) =
    (source.rows.filter fun r => r.uploadId = id).map fun r => r.foreign e.managerId := by
  unfold SourceDb.published
  induction source.rows with
  | nil => rfl
  | cons r rows ih =>
    rw [List.flatMap_cons, filter_append, ih, SourceDb.published_row keyed found ready]
    by_cases ours : r.uploadId = id <;> simp [ours]

end

end Jawnix
