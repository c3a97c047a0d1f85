import Mathlib.Data.List.Dedup
import Jawnix.LeadDatabases

/-!
# Listing provenance

`_listing_lookups` and `_listing_snapshot` of `allocation.py`: where a DB1 listing
came from, frozen on the Distribution Event. One allocation loads the referenced
rows in slices of a thousand.
-/
namespace Jawnix

structure ListingLookups where
  observations : List (Nat × ListingObservation)
  publications : List (String × DatasetPublication)
  runs : List (Nat × ScraperRun)
  configurations : List (Uuid × ScraperConfiguration)
  corrections : List (Uuid × LeadCorrectionEvent)

def loadBy {α κ : Type} [DecidableEq κ] (key : α → κ) (rows : List α) (values : List κ) : List (κ × α) :=
  (chunks 1000 values.dedup).foldl
    (fun result slice => Dict.update key id result (rows.filter fun r => key r ∈ slice)) []

def listingLookups (db : Db) (leads : List Lead) : Option ListingLookups :=
  let observationIds := leads.filterMap Lead.currentListingObservationId
  let correctionIds := leads.filterMap Lead.activeCorrectionId
  if observationIds = [] ∧ correctionIds = [] then none
  else
    let observations := loadBy ListingObservation.id db.observations observationIds
    let publications := loadBy DatasetPublication.checksum db.publications
      (observations.map fun entry => entry.2.datasetChecksum)
    some
      { observations
        publications
        runs := loadBy ScraperRun.id db.scraperRuns (publications.map fun entry => entry.2.scraperRunId)
        configurations := loadBy ScraperConfiguration.id db.configurations
          (publications.map fun entry => entry.2.configurationId)
        corrections := loadBy LeadCorrectionEvent.id db.corrections correctionIds }

/-- A row read from the lookups when they are loaded, and from its table otherwise. -/
def fetch {α κ : Type} [DecidableEq κ] (loaded : Option (List (κ × α))) (key : α → κ)
    (rows : List α) (k : κ) : Option α :=
  match loaded with
  | some entries => get? k entries
  | none => lookup key k rows

structure ListingSnapshot where
  provenance : Provenance
  sourceKind : String
  segmentKey : String
  niche : String

def listingSnapshot (casing : Casing) (db : Db) (lead : Lead) (lookups : Option ListingLookups) :
    ListingSnapshot :=
  let observation := lead.currentListingObservationId.bind
    (fetch (lookups.map ListingLookups.observations) ListingObservation.id db.observations)
  let publication := observation.bind (fun o =>
    fetch (lookups.map ListingLookups.publications) DatasetPublication.checksum db.publications
      o.datasetChecksum)
  let scrapeRun := publication.bind (fun p =>
    fetch (lookups.map ListingLookups.runs) ScraperRun.id db.scraperRuns p.scraperRunId)
  let configuration := publication.bind (fun p =>
    fetch (lookups.map ListingLookups.configurations) ScraperConfiguration.id db.configurations
      p.configurationId)
  let acquisition : AcquisitionProvenance :=
    { datasetVersion := publication.map DatasetPublication.version
      scrapeRunId := scrapeRun.map ScraperRun.id
      configurationId := configuration.map ScraperConfiguration.id
      configurationVersion := configuration.map ScraperConfiguration.version }
  let correction := lead.activeCorrectionId.bind
    (fetch (lookups.map ListingLookups.corrections) LeadCorrectionEvent.id db.corrections)
  match correction, observation with
  | some c, some o => ⟨.leadCorrection c.id (some (o.id, acquisition)), "google_maps", o.source, o.niche⟩
  | some c, none => ⟨.leadCorrection c.id none, "legacy", "", ""⟩
  | none, none => ⟨.legacy lead.sourceFlow, "legacy", "", ""⟩
  -- only this branch lowers the niche; a corrected listing keeps its spelling
  | none, some o =>
    ⟨.currentListing o.id o.datasetChecksum o.source o.niche acquisition, "google_maps", o.source,
      casing.lower o.niche⟩

section
variable {α κ : Type} [DecidableEq κ] {key : α → κ} {rows : List α} {k : κ}

theorem latest_slice (keyed : Keyed key rows) (slice : List κ) :
    latest key k (rows.filter fun r => key r ∈ slice) =
    if k ∈ slice then lookup key k rows else none := by
  split
  case isTrue asked =>
    cases found : lookup key k rows with
    | none => exact Rows.latest_none.mpr fun r member => lookup_none.mp found r (mem_filter.mp member).1
    | some r =>
    obtain ⟨stored, rfl⟩ := lookup_some found
    have sliced : Keyed key (rows.filter fun r => key r ∈ slice).reverse := by
      unfold Keyed
      rw [List.map_reverse, List.nodup_reverse]
      exact keyed.sublist (filter_sublist.map key)
    exact lookup_of_mem sliced (List.mem_reverse.mpr (mem_filter.mpr ⟨stored, decide_eq_true asked⟩))
  case isFalse unasked =>
  refine Rows.latest_none.mpr fun r member named => unasked ?_
  rw [← named]
  exact of_decide_eq_true (mem_filter.mp member).2

theorem get?_loadBy (keyed : Keyed key rows) (values : List κ) :
    get? k (loadBy key rows values) = if k ∈ values then lookup key k rows else none := by
  -- what earlier slices have loaded is a stored row, so loading a key again changes nothing
  have read : ∀ (slices : List (List κ)) (d : List (κ × α)),
    (∀ r, get? k d = some r → lookup key k rows = some r) →
      get? k (slices.foldl (fun result slice =>
        Dict.update key id result (rows.filter fun r => key r ∈ slice)) d) =
          if k ∈ slices.flatten then lookup key k rows else get? k d := by
    intro slices
    induction slices with
    | nil => exact fun d _ => by simp
    | cons slice slices ih =>
    intro d held
    have first : get? k (Dict.update key id d (rows.filter fun r => key r ∈ slice)) =
        if k ∈ slice then lookup key k rows else get? k d := by
      rw [Dict.get?_update_latest, Option.map_id, id, latest_slice keyed]
      split
      · cases before : get? k d with
        | none => exact Option.or_none
        | some r => rw [held r before, Option.some_or]
      · exact Option.none_or
    rw [foldl_cons, ih _ ?_, first, List.flatten_cons]
    · by_cases here : k ∈ slice <;> by_cases later : k ∈ slices.flatten <;> simp [here, later]
    intro r loaded
    rw [first] at loaded
    split at loaded
    · exact loaded
    · exact held r loaded
  have whole := read (chunks 1000 values.dedup) [] (fun r none_ => absurd none_ (some_ne_none r).symm)
  rw [flatten_chunks (by decide)] at whole
  simpa [loadBy, get?] using whole

/-- A read from the loaded rows is one from the table where every key it may ask for was loaded. -/
theorem bind_fetch_loadBy {β : Type} {x : Option β} {f : β → κ} (keyed : Keyed key rows)
    {values : List κ} (asked : ∀ b, x = some b → f b ∈ values) :
    x.bind (fun b => fetch (some (loadBy key rows values)) key rows (f b)) = x.bind fun b =>
    fetch none key rows (f b) :=
  Option.bind_congr fun b given => (get?_loadBy keyed values).trans (if_pos (asked b given))

theorem mem_of_bind_fetch {β : Type} {x : Option β} {f : β → κ} {entries : List (κ × α)} {r : α}
    (found : x.bind (fun b => fetch (some entries) key rows (f b)) = some r) : ∃ k, (k, r) ∈ entries := by
  obtain ⟨b, _, held⟩ := bind_eq_some_iff.mp found
  exact ⟨f b, mem_of_get? held⟩

end

/-- The tables that a snapshot reads have their keys, and no two publications have one checksum. -/
structure ListingKeys (db : Db) : Prop where
  observations : Keyed ListingObservation.id db.observations
  publications : Keyed DatasetPublication.checksum db.publications
  runs : Keyed ScraperRun.id db.scraperRuns
  configurations : Keyed ScraperConfiguration.id db.configurations
  corrections : Keyed LeadCorrectionEvent.id db.corrections

/-- Where the rows of an allocation are loaded at once, each Lead gets the snapshot it would get
alone. -/
theorem listing_snapshot_batched (casing : Casing) {db : Db} (keys : ListingKeys db)
    {leads : List Lead} {lead : Lead} (member : lead ∈ leads) :
    listingSnapshot casing db lead (listingLookups db leads) = listingSnapshot casing db lead none := by
  unfold listingLookups
  dsimp only
  split
  · rfl
  -- the keys of each load are those of the rows loaded before it
  let observation := lead.currentListingObservationId.bind (fetch none ListingObservation.id db.observations)
  let publication := observation.bind
    (fun o => fetch none DatasetPublication.checksum db.publications o.datasetChecksum)
  have observed := bind_fetch_loadBy (x := lead.currentListingObservationId)
    (f := fun id => id) keys.observations
    fun id current => mem_filterMap.mpr ⟨lead, member, current⟩
  have published :=
    bind_fetch_loadBy (x := observation) (f := ListingObservation.datasetChecksum) keys.publications
    fun o found => by
      obtain ⟨id, held⟩ := mem_of_bind_fetch (observed.trans found)
      exact mem_map_of_mem (f := fun entry => entry.2.datasetChecksum) held
  have ran := bind_fetch_loadBy (x := publication) (f := DatasetPublication.scraperRunId) keys.runs
    fun p found => by
      obtain ⟨checksum, held⟩ := mem_of_bind_fetch (published.trans found)
      exact mem_map_of_mem (f := fun entry => entry.2.scraperRunId) held
  have configured := bind_fetch_loadBy (x := publication)
    (f := DatasetPublication.configurationId) keys.configurations
    fun p found => by
      obtain ⟨checksum, held⟩ := mem_of_bind_fetch (published.trans found)
      exact mem_map_of_mem (f := fun entry => entry.2.configurationId) held
  have corrected := bind_fetch_loadBy (x := lead.activeCorrectionId) (f := fun id => id) keys.corrections
    fun id active => mem_filterMap.mpr ⟨lead, member, active⟩
  simp only [listingSnapshot, map_some, map_none]
  rw [observed, published, ran, configured, corrected]

def listedLead : Lead :=
  { id := 1, phone := "5125550100", title := "Acme", state := "TX", currentListingObservationId := some 5 }

def listedInventory : Db :=
  { leads := [listedLead]
    observations := [{ id := 5, datasetChecksum := "d7", source := "TX::roofing", niche := "Roofing" }]
    publications := [{ id := 1, version := 3, checksum := "d7", scraperRunId := 8, configurationId := 6 }]
    scraperRuns := [{ id := 8 }] }

theorem listedInventory_keys : ListingKeys listedInventory := by
  constructor <;> decide

/-- A listing without its configuration, one without its publication, a correction and a legacy
Lead. -/
def mixedLeads : List Lead :=
  [listedLead, { listedLead with id := 2, currentListingObservationId := some 9 },
    { listedLead with id := 3, currentListingObservationId := none, activeCorrectionId := some 4 },
    { listedLead with id := 4, currentListingObservationId := none, sourceFlow := "old" }]

def mixedInventory : Db :=
  { listedInventory with
    observations := listedInventory.observations ++
      [{ id := 9, datasetChecksum := "d8", source := "TX::plumbing", niche := "Plumbing" }]
    corrections := [{ id := 4, leadId := 3 }] }

theorem listing_snapshot_batched_chain : (mixedLeads.map fun lead =>
      (listingSnapshot plainCasing mixedInventory lead
        (listingLookups mixedInventory mixedLeads)).provenance) =
    [.currentListing 5 "d7" "TX::roofing" "Roofing" ⟨some 3, some 8, none, none⟩,
      .currentListing 9 "d8" "TX::plumbing" "Plumbing" ⟨none, none, none, none⟩,
      .leadCorrection 4 none, .legacy "old"] := by
  have keys : ListingKeys mixedInventory := by constructor <;> decide
  have alone : ∀ lead ∈ mixedLeads,
      (listingSnapshot plainCasing mixedInventory lead
        (listingLookups mixedInventory mixedLeads)).provenance =
        (listingSnapshot plainCasing mixedInventory lead none).provenance := fun lead member =>
    congrArg ListingSnapshot.provenance (listing_snapshot_batched plainCasing keys member)
  rw [List.map_congr_left alone]
  decide

end Jawnix
