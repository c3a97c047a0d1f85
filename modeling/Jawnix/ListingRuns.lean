import Jawnix.CurrentListing

/-!
# Synchronisation in every order

As an offer commutes with every other, the Current Listing after any number of
synchronisations in any order is the newest observation of the datasets imported.
-/
namespace Jawnix

/-- One call of `sync_dataset_version`, with the file it finds and whether the import is
interrupted. -/
structure SyncOp where
  version : Nat
  force : Bool := false
  found : Option FoundFile
  broken : Bool := false
  now : Instant

variable (platform : SyncPlatform)

def syncStep (db : Db) (op : SyncOp) : Db :=
  commit db (syncDatasetVersion platform db op.version op.force op.found op.broken op.now)

def syncRun (db : Db) (ops : List SyncOp) : Db := run (syncStep platform) db ops
def publicationKeys (db : Db) : List (Nat × String) := db.publications.map fun p => (p.version, p.checksum)

def synchronised (start after : Db) : List String :=
  (start.publications.map DatasetPublication.checksum).filter fun checksum => after.audited checksum

@[mk_iff]
structure Unsynced (db : Db) : Prop where
  drawn : ∀ o ∈ db.observations, o.id ≤ db.observationSeq
  unlisted : ∀ lead ∈ db.leads, lead.currentListingObservationId = none
  phones : Keyed Lead.phone db.leads
  versions : Keyed DatasetPublication.version db.publications
  fresh : ∀ p ∈ db.publications, db.audited p.checksum = false ∧ p.syncStatus ≠ .complete

instance (db : Db) : Decidable (Unsynced db) := decidable_of_iff' _ (unsynced_iff ..)

structure Synced (start db : Db) (done : List String) : Prop where
  imported : Imported start.leadOfPhone? db (observationsOf platform done)
  audits : ∀ checksum, db.audited checksum ↔ start.audited checksum ∨ checksum ∈ done
  published : ∀ checksum ∈ done, checksum ∈ start.publications.map DatasetPublication.checksum
  keys : publicationKeys db = publicationKeys start
  versions : Keyed DatasetPublication.version db.publications
  complete : ∀ p ∈ db.publications, p.syncStatus = .complete → db.audited p.checksum
  corrections : db.corrections = start.corrections

section
variable {platform : SyncPlatform} {start db db' : Db} {done : List String} {op : SyncOp}
  {checksum phone : String} {checksums : List String} {o : ListingObservation} {lead : Lead}
  {p : DatasetPublication}

theorem syncDatasetVersion_cases
    (ok : syncDatasetVersion platform db op.version op.force op.found op.broken op.now = .ok db') :
    db' = db ∨ ∃ publication, db.publication? op.version = some publication ∧
      ((∃ jobs jobSeq, db' =
          { db.setPublication op.version (fun p => { p with syncStatus := .failed }) with jobs, jobSeq }) ∨
        ∃ path imported jobs jobSeq,
          importScraperSqlite platform db path publication.checksum = .ok imported ∧
          db' = { imported.setPublication op.version (fun p => { p with syncStatus := .complete }) with
            jobs, jobSeq }) := by
  unfold syncDatasetVersion at ok
  split at ok
  · cases ok
  case h_2 publication found =>
  split at ok
  · cases ok
    exact .inl rfl
  refine .inr ⟨publication, found, ?_⟩
  split at ok
  case h_1 imported read =>
    cases ok
    unfold importPublication at read
    split at read
    · cases read
    case h_2 file _ =>
    split at read
    · split at read
      · cases read
      exact .inr ⟨file.path, imported, _, _, read, rfl⟩
    · cases read
  · cases ok
    exact .inl ⟨_, _, rfl⟩

/-- What every row keeps, and every change outside of Leads, observations, corrections and events, a
synchronisation keeps. -/
theorem syncStep_induct {P : Db → Prop}
    (congr : ∀ {db db' : Db}, P db → db'.leads = db.leads → db'.leadSeq = db.leadSeq →
      db'.observations = db.observations → db'.observationSeq = db.observationSeq →
      db'.corrections = db.corrections → db'.events = db.events → P db')
    (row : ∀ checksum s l, P s.db → P (observeRow checksum s l).db) (holds : P db) (op : SyncOp) :
    P (syncStep platform db op) := by
  have rows : ∀ checksum (ls : List Listing) (s : Syncing), P s.db →
    P (ls.foldl (observeRow checksum) s).db := by
    intro checksum ls
    induction ls with
    | nil => exact fun _ holds => holds
    | cons l ls ih => exact fun s holds => ih _ (row checksum s l holds)
  unfold syncStep
  refine commit_cases holds fun db' ok => ?_
  rcases syncDatasetVersion_cases ok with
    rfl | ⟨publication, _, ⟨_, _, rfl⟩ | ⟨path, imported, _, _, read, rfl⟩⟩
  · exact holds
  · exact congr holds rfl rfl rfl rfl rfl rfl
  rcases importScraperSqlite_cases read with ⟨_, rfl⟩ | ⟨_, dataset, audit, _, _, _, rfl, rfl⟩
  · exact congr holds rfl rfl rfl rfl rfl rfl
  · exact congr (rows publication.checksum (listings platform dataset) { db } holds) rfl rfl rfl rfl rfl rfl

theorem Unsynced.listed (unsynced : Unsynced start) (phone : String) : start.listed phone = none := by
  unfold Db.listed
  cases found : start.leadOfPhone? phone with
  | none => rfl
  | some lead =>
    rw [bind_some, Db.currentListing, unsynced.unlisted lead (lookup_some found).1]
    rfl

theorem Unsynced.synced (unsynced : Unsynced start) : Synced platform start start [] where
  imported :=
    { observed := ⟨unsynced.drawn, fun lead member id current => by
        rw [unsynced.unlisted lead member] at current
        cases current⟩
      phones := unsynced.phones
      newest := fun phone => by
        rw [unsynced.listed]
        rfl
      stands := fun phone => by
        unfold Stands
        rw [unsynced.listed] }
  audits := by simp
  published := by simp
  keys := rfl
  versions := unsynced.versions
  complete := fun p member complete => absurd complete (unsynced.fresh p member).2
  corrections := rfl

theorem Imported.congr {before : String → Option Lead}
    {offered offered' : String → List ListingObservation} (imported : Imported before db offered)
    (same : ∀ phone, offered' phone = offered phone) (audits : List MigrationAudit)
    (publications : List DatasetPublication) (jobs : List Job) (jobSeq : Nat) :
    Imported before { db with audits, publications, jobs, jobSeq } offered' :=
  ⟨⟨imported.observed.drawn, imported.observed.current⟩, imported.phones,
    fun phone => (same phone).symm ▸ imported.newest phone, fun phone =>
      Stands.congr (imported.stands phone) rfl rfl rfl⟩

theorem Synced.setPublication (synced : Synced platform start db done) {version : Nat} {status : SyncStatus}
    (sound : ∀ p, db.publication? version = some p → status = .complete → db.audited p.checksum)
    (jobs : List Job) (jobSeq : Nat) :
    Synced platform start
    { db.setPublication version (fun p => { p with syncStatus := status }) with jobs, jobSeq }
    done := by
  refine ⟨synced.imported.congr (fun _ => rfl) _ _ jobs jobSeq, synced.audits, synced.published, ?_,
    ?_, ?_, synced.corrections⟩
  · refine Eq.trans ?_ synced.keys
    exact map_adjust_of_preserves (fun p : DatasetPublication => (p.version, p.checksum)) fun _ _ => rfl
  · exact keyed_adjust (fun _ _ => rfl) synced.versions
  intro p member complete
  rcases mem_adjust.mp member with ⟨old, stored, named, rfl⟩ | ⟨stored, _⟩
  · exact sound old (named ▸ lookup_of_mem synced.versions stored) complete
  · exact synced.complete p stored complete

theorem Synced.importScraperSqlite (synced : Synced platform start db done) {path : String}
    (published : checksum ∈ start.publications.map DatasetPublication.checksum)
    (ok : importScraperSqlite platform db path checksum = .ok db') :
    ∃ done', Synced platform start db' done' ∧ db'.audited checksum ∧
    db'.publications = db.publications := by
  rcases importScraperSqlite_cases ok with ⟨audited, rfl⟩ |
    ⟨fresh, dataset, audit, found, rfl, imported, rfl, rfl⟩
  · exact ⟨done, synced, audited, rfl⟩
  obtain ⟨leads, leadSeq, observations, observationSeq, frame⟩ :=
    observeRows_frame audit.checksum (listings platform dataset) { db }
  have rows := synced.imported.observeRows (s := { db }) audit.checksum (listings platform dataset)
  refine ⟨done ++ [audit.checksum], ?_, ?_, ?_⟩
  · refine ⟨?_, ?_, ?_, ?_, ?_, ?_, ?_⟩
    · exact rows.congr (fun phone => by simp [observationsOf, found]) _ _ _ _
    · intro checksum
      rw [frame]
      have before := synced.audits checksum
      simp only [Db.audited, List.any_append, or_eq_true, List.any_cons, List.any_nil,
        Bool.or_false, decide_eq_true_eq, mem_append, mem_singleton] at before ⊢
      rw [before, or_assoc]
      exact or_congr Iff.rfl (or_congr Iff.rfl eq_comm)
    · intro checksum member
      rcases mem_append.mp member with old | new
      · exact synced.published checksum old
      · rwa [mem_singleton.mp new]
    · rw [frame]
      exact synced.keys
    · rw [frame]
      exact synced.versions
    · intro p member complete
      rw [frame] at member ⊢
      have before := synced.complete p member complete
      simp only [Db.audited, List.any_append, or_eq_true] at before ⊢
      exact .inl before
    · rw [frame]
      exact synced.corrections
  · simp [Db.audited]
  · rw [frame]

theorem Synced.step (synced : Synced platform start db done) (op : SyncOp) :
    ∃ done', Synced platform start (syncStep platform db op) done' := by
  unfold syncStep
  cases outcome : syncDatasetVersion platform db op.version op.force op.found op.broken op.now with
  | error fault => exact ⟨done, synced⟩
  | ok db' =>
  rcases syncDatasetVersion_cases outcome with rfl | ⟨publication, named, failed | read⟩
  · exact ⟨done, synced⟩
  · obtain ⟨jobs, jobSeq, rfl⟩ := failed
    exact ⟨done, synced.setPublication (fun _ _ complete => by cases complete) jobs jobSeq⟩
  obtain ⟨path, imported, jobs, jobSeq, ok, rfl⟩ := read
  have key : (publication.version, publication.checksum) ∈ publicationKeys start :=
    synced.keys ▸ mem_map.mpr ⟨publication, (lookup_some named).1, rfl⟩
  obtain ⟨p, stored, same⟩ := mem_map.mp key
  have published := mem_map.mpr ⟨p, stored, (Prod.mk.inj same).2⟩
  obtain ⟨done', synced', audited, kept⟩ := synced.importScraperSqlite published ok
  refine ⟨done', synced'.setPublication (fun q found _ => ?_) jobs jobSeq⟩
  have same : imported.publication? op.version = db.publication? op.version := by
    unfold Db.publication?
    rw [kept]
  rw [same, named] at found
  cases found
  exact audited

theorem Unsynced.run (platform : SyncPlatform) (unsynced : Unsynced start) (ops : List SyncOp) :
    ∃ done, Synced platform start (syncRun platform start ops) done := by
  refine run_invariant (I := fun db : Db => ∃ done, Synced platform start db done) ?_
    ⟨[], unsynced.synced⟩ ops
  exact fun _ op ⟨_, synced⟩ => synced.step op

theorem Synced.mem_synchronised (unsynced : Unsynced start) (synced : Synced platform start db done)
    (checksum : String) : checksum ∈ synchronised start db ↔ checksum ∈ done := by
  rw [synchronised, mem_filter, synced.audits]
  constructor
  · rintro ⟨published, old | new⟩
    · obtain ⟨p, member, rfl⟩ := mem_map.mp published
      rw [(unsynced.fresh p member).1] at old
      cases old
    · exact new
  · exact fun new => ⟨synced.published checksum new, .inr new⟩

theorem mem_observationsOf : o ∈ observationsOf platform checksums phone ↔
    ∃ checksum ∈ checksums, ∃ dataset, platform.dataset checksum = some dataset ∧
    ∃ l ∈ listings platform dataset, l.validPhone = some phone ∧ l.observation checksum 0 none = o := by
  simp only [observationsOf, List.mem_flatMap]
  refine exists_congr fun checksum => and_congr_right fun _ => ?_
  cases platform.dataset checksum with
  | none => simp
  | some dataset => simp [observationsIn, and_assoc]

theorem listings_rowNumber {dataset : ScraperDataset} {l l' : Listing}
    (first : l ∈ listings platform dataset) (second : l' ∈ listings platform dataset)
    (same : l.rowNumber = l'.rowNumber) : l = l' := by
  have stored : ∀ row ∈ dataset.selected, row ∈ dataset.rows := by
    intro row member
    unfold ScraperDataset.selected at member
    exact (mem_filter.mp ((List.mem_insertionSort _).mp member)).1
  obtain ⟨row, member, rfl⟩ := mem_map.mp first
  obtain ⟨row', member', rfl⟩ := mem_map.mp second
  have rows : row = row' := eq_of_mem_of_key dataset.numbered (stored row member) (stored row' member') same
  rw [rows]

theorem observationsOf_distinct :
    ∀ o ∈ observationsOf platform checksums phone, ∀ o' ∈ observationsOf platform checksums phone,
    o.order = o'.order → o = o' := by
  intro o member o' member' same
  obtain ⟨checksum, _, dataset, found, l, inDataset, _, rfl⟩ := mem_observationsOf.mp member
  obtain ⟨checksum', _, dataset', found', l', inDataset', _, rfl⟩ := mem_observationsOf.mp member'
  have parts := Prod.mk.inj (toLex.injective same)
  obtain ⟨checksums, numbers⟩ := Prod.mk.inj (toLex.injective parts.2)
  obtain rfl : checksum = checksum' := checksums
  obtain rfl : dataset = dataset' := some.inj (found.symm.trans found')
  rw [listings_rowNumber inDataset inDataset' numbers]

def Db.shown (db : Db) (phone : String) : Option (String × String × Option ListingObservation) :=
  (db.leadOfPhone? phone).map fun lead =>
    (lead.title, lead.state, (db.currentListing lead).map ListingObservation.facts)

theorem shown_of_found (found : db.leadOfPhone? phone = some lead) :
    db.shown phone = some (lead.title, lead.state, db.listed phone) := by
  rw [Db.shown, found, map_some, listed_of_found found]

theorem Stands.shown_eq {before : Option Lead} (stands : Stands db before phone)
    (stands' : Stands db' before phone) (corrections : db'.corrections = db.corrections)
    (listed : db'.listed phone = db.listed phone) : db'.shown phone = db.shown phone := by
  unfold Stands at stands stands'
  rw [listed] at stands'
  cases current : db.listed phone with
  | none =>
    simp only [current] at stands stands'
    cases before with
    | none => rw [Db.shown, Db.shown, stands, stands']; rfl
    | some lead => rw [shown_of_found stands, shown_of_found stands', listed]
  | some o =>
  simp only [current] at stands stands'
  obtain ⟨lead, found, lists⟩ := stands
  obtain ⟨lead', found', lists'⟩ := stands'
  have active : db'.activeCorrection lead' = db.activeCorrection lead := by
    unfold Db.activeCorrection Db.correction?
    rw [lists.correction, lists'.correction, corrections]
  rw [shown_of_found found, shown_of_found found', listed]
  by_cases free : db.activeCorrection lead = none
  · obtain ⟨title, state⟩ := lists.named free
    obtain ⟨title', state'⟩ := lists'.named (active.trans free)
    rw [title, state, title', state']
  have same := (lists'.corrected (active ▸ free)).symm.trans (lists.corrected free)
  obtain ⟨title, state⟩ := Prod.mk.inj (some.inj same)
  rw [title, state]

theorem syncStep_audited (audited : db.audited checksum) (op : SyncOp) :
    (syncStep platform db op).audited checksum := by
  unfold syncStep
  refine commit_cases (P := fun after : Db => after.audited checksum) audited fun db' ok => ?_
  rcases syncDatasetVersion_cases ok with
    rfl | ⟨publication, _, ⟨_, _, rfl⟩ | ⟨path, imported, _, _, read, rfl⟩⟩
  · exact audited
  · exact audited
  rcases importScraperSqlite_cases read with ⟨_, rfl⟩ | ⟨_, dataset, audit, _, _, _, rfl, rfl⟩
  · exact audited
  obtain ⟨_, _, _, _, frame⟩ := observeRows_frame publication.checksum (listings platform dataset) { db }
  change (_ ++ [audit]).any _
  rw [frame, List.any_append, or_eq_true]
  exact .inl audited

/-- The call finds the published file, which has the columns it needs, and no database error. -/
def SyncOp.Reads (platform : SyncPlatform) (op : SyncOp) (p : DatasetPublication) : Prop :=
  op.version = p.version ∧ op.broken = false ∧ op.found.map FoundFile.checksum = some p.checksum ∧
    ∃ dataset, platform.dataset p.checksum = some dataset ∧ missingColumns dataset = []

theorem Synced.reads (synced : Synced platform start db done) (stored : p ∈ start.publications)
    (reads : op.Reads platform p) : (syncStep platform db op).audited p.checksum := by
  obtain ⟨version, sound, file, dataset, found, columns⟩ := reads
  obtain ⟨located, held, digest⟩ := map_eq_some_iff.mp file
  have key : (p.version, p.checksum) ∈ publicationKeys db := synced.keys ▸ mem_map.mpr ⟨p, stored, rfl⟩
  obtain ⟨q, member, same⟩ := mem_map.mp key
  obtain ⟨versions, checksums⟩ := Prod.mk.inj same
  have named : db.publication? op.version = some q := by
    rw [version, ← versions]
    exact lookup_of_mem synced.versions member
  unfold syncStep syncDatasetVersion
  simp only [named]
  split
  case isTrue before => exact checksums ▸ synced.complete q member before.1
  · obtain ⟨db', ok, audited⟩ :
      ∃ db', Jawnix.importScraperSqlite platform db located.path p.checksum = .ok db' ∧
        db'.audited p.checksum := by
      unfold Jawnix.importScraperSqlite
      split
      case isTrue audited => exact ⟨db, rfl, audited⟩
      · simp only [found, columns, if_true]
        exact ⟨_, rfl, by simp [Db.audited]⟩
    have read : importPublication platform db q op.found op.broken = .ok db' := by
      unfold importPublication
      simp only [held, digest, checksums, sound, if_true, Bool.false_eq_true, if_false]
      exact ok
    rw [read]
    exact audited

theorem observationsOf_congr {checksums' : List String} (same : ∀ c, c ∈ checksums' ↔ c ∈ checksums)
    (phone : String) (o : ListingObservation) :
    o ∈ observationsOf platform checksums' phone ↔ o ∈ observationsOf platform checksums phone := by
  simp only [mem_observationsOf, same]

theorem Synced.newest (unsynced : Unsynced start) (synced : Synced platform start db done) (phone : String) :
    Register.Newest ListingObservation.order (observationsOf platform (synchronised start db) phone)
    (db.listed phone) :=
  (synced.imported.newest phone).congr (observationsOf_congr (synced.mem_synchronised unsynced) phone)

theorem Synced.named (synced : Synced platform start db done) (member : lead ∈ db.leads)
    (current : db.currentListing lead = some o) (free : db.activeCorrection lead = none) :
    lead.title = o.title ∧ lead.state = o.state := by
  have found : db.leadOfPhone? lead.phone = some lead := lookup_of_mem synced.imported.phones member
  have listed : db.listed lead.phone = some o.facts := by
    rw [← listed_of_found found, current]
    rfl
  have stands := synced.imported.stands lead.phone
  unfold Stands at stands
  rw [listed] at stands
  obtain ⟨same, read, lists⟩ := stands
  obtain rfl : lead = same := some.inj (found.symm.trans read)
  exact lists.named free

theorem syncRun_reads (unsynced : Unsynced start) {ops : List SyncOp}
    (stored : p ∈ start.publications) (member : op ∈ ops) (reads : op.Reads platform p) :
    (syncRun platform start ops).audited p.checksum := by
  obtain ⟨first, rest, rfl⟩ := List.append_of_mem member
  obtain ⟨done, synced⟩ := unsynced.run platform first
  unfold syncRun at synced ⊢
  rw [Runs.run_append, Runs.run_cons]
  exact run_invariant (I := fun db : Db => db.audited p.checksum)
    (fun _ next audited => syncStep_audited audited next) (synced.reads stored reads) rest

/-- In every run of synchronisations, repeated, retried, failing or forced:
each dataset whose published file a call found is imported, and the Current
Listing of every Lead is the newest valid observation of its phone in the
datasets imported, by time, checksum and row number. Without an active
correction it names the Lead. Runs that imported the same datasets, in whatever
order, show the same. -/
theorem sync_runs_confluent (platform : SyncPlatform) {db : Db} (unsynced : Unsynced db)
    (ops : List SyncOp) :
    let after := syncRun platform db ops
    (∀ p ∈ db.publications, (∃ op ∈ ops, op.Reads platform p) → p.checksum ∈ synchronised db after) ∧
    (∀ phone, observationsOf platform (synchronised db after) phone ≠ [] →
      ∃ lead ∈ after.leads, lead.phone = phone) ∧
    (∀ lead ∈ after.leads,
      Register.Newest ListingObservation.order (observationsOf platform (synchronised db after) lead.phone)
        ((after.currentListing lead).map ListingObservation.facts) ∧
      ∀ o ∈ after.currentListing lead, after.activeCorrection lead = none →
        lead.title = o.title ∧ lead.state = o.state) ∧
    ∀ ops', (∀ checksum, checksum ∈ synchronised db (syncRun platform db ops') ↔
        checksum ∈ synchronised db after) →
      ∀ phone, (syncRun platform db ops').shown phone = after.shown phone := by
  intro after
  obtain ⟨done, synced⟩ := unsynced.run platform ops
  refine ⟨?_, ?_, ?_, ?_⟩
  · rintro p stored ⟨op, member, reads⟩
    exact mem_filter.mpr ⟨mem_map.mpr ⟨p, stored, rfl⟩, syncRun_reads unsynced stored member reads⟩
  · intro phone observed
    have newest := synced.newest unsynced phone
    have stands := synced.imported.stands phone
    unfold Stands at stands
    split at stands
    case h_1 unlisted =>
      rw [unlisted] at newest
      exact absurd newest observed
    · obtain ⟨lead, found, _⟩ := stands
      exact ⟨lead, (lookup_some found).1, (lookup_some found).2⟩
  · intro lead member
    have found := lookup_of_mem synced.imported.phones member
    refine ⟨?_, fun o current free => synced.named member current free⟩
    rw [listed_of_found found]
    exact synced.newest unsynced lead.phone
  intro ops' same phone
  obtain ⟨done', synced'⟩ := unsynced.run platform ops'
  have newest := (synced'.newest unsynced phone).congr (observationsOf_congr (fun c => (same c).symm) phone)
  have listed := newest.unique observationsOf_distinct (synced.newest unsynced phone)
  have corrections := synced'.corrections.trans synced.corrections.symm
  exact (synced.imported.stands phone).shown_eq (synced'.imported.stands phone) corrections listed

def renamedPlatform : SyncPlatform where
  casing := plainCasing
  digit := Char.isDigit
  fromisoformat := fun text => if text = "day 1" then some 1 else if text = "day 2" then some 2 else none
  dataset := fun checksum =>
    if checksum = "a" then
      some
        { columns := "created_at" :: requiredColumns
          rows :=
            [{ rowNumber := 1, phone := some "5551234567", company := some "Old Name", state := some "TX",
               source := some "plumber", createdAt := some "day 1" }]
          numbered := by decide }
    else if checksum = "b" then
      some
        { columns := "created_at" :: requiredColumns
          rows :=
            [{ rowNumber := 1, phone := some "(555) 123-4567", company := some "New Name",
               state := some "TX",
               source := some "plumber", createdAt := some "day 2" },
             { rowNumber := 2, phone := some "5551234567", state := some "TX", createdAt := some "day 2" }]
          numbered := by decide }
    else none

def renamedDb : Db :=
  { publications :=
      [{ id := 1, version := 1, checksum := "a", scraperRunId := 1, configurationId := 1 },
       { id := 2, version := 2, checksum := "b", scraperRunId := 2, configurationId := 1 }] }

def syncOf (version : Nat) (checksum : String) : SyncOp :=
  { version, found := some { path := "/data/" ++ checksum, checksum }, now := 0 }

theorem sync_runs_confluent_renamed :
    let s := syncRun renamedPlatform renamedDb [syncOf 2 "b", syncOf 1 "x", syncOf 1 "a", syncOf 2 "b"]
    let t := syncRun renamedPlatform renamedDb [syncOf 1 "a", syncOf 2 "b"]
    Unsynced renamedDb ∧ (s.shown "5551234567").map Prod.fst = some "New Name" ∧
      ∀ phone, t.shown phone = s.shown phone := by
  intro s t
  have unsynced : Unsynced renamedDb := by decide +kernel
  have same : synchronised renamedDb t = synchronised renamedDb s := by decide +kernel
  refine ⟨unsynced, by decide +kernel, ?_⟩
  exact (sync_runs_confluent renamedPlatform unsynced _).2.2.2 _ (fun checksum => by rw [same])

end

end Jawnix
