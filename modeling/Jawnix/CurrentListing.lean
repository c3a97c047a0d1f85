import Jawnix.LeadRegistry
import Jawnix.ScraperSync

/-!
# The Current Listing of a Lead

A row of a dataset is offered to the Lead of its phone, which keeps the newest
observation offered. An import offers every row of its dataset once; the listing
kept names the Lead unless a correction does.
-/
namespace Jawnix

open Register (offer)

/-- An observation without its identities, which depend on the order of the rows. -/
def ListingObservation.facts (o : ListingObservation) : ListingObservation :=
  { o with id := 0, leadId := none }

def Db.listed (db : Db) (phone : String) : Option ListingObservation :=
  ((db.leadOfPhone? phone).bind db.currentListing).map ListingObservation.facts

structure Observed (db : Db) : Prop where
  drawn : ∀ o ∈ db.observations, o.id ≤ db.observationSeq
  current : ∀ lead ∈ db.leads, ∀ id ∈ lead.currentListingObservationId, id ≤ db.observationSeq

theorem Observed.congr {db db' : Db} (observed : Observed db) (leads : db'.leads = db.leads)
    (observations : db'.observations = db.observations)
    (observationSeq : db'.observationSeq = db.observationSeq) : Observed db' where
  drawn := by
    rw [observations, observationSeq]
    exact observed.drawn
  current := by
    rw [leads, observationSeq]
    exact observed.current

section
variable {db : Db} {checksum : String} {l : Listing} {phone : String} {s : Syncing} {db' : Db}
  {o : ListingObservation}

theorem leadOfPhone?_editLead {f : Lead → Lead} (named : ∀ lead, (f lead).phone = lead.phone)
    (other : String) :
    (db.editLead phone f).leadOfPhone? other =
    if other = phone then (db.leadOfPhone? other).map f else db.leadOfPhone? other :=
  lookup_adjust fun lead _ => named lead

theorem relist_frame (l : Listing) (id : Nat) (current : Option ListingObservation)
    (correction : Option LeadCorrectionEvent) (lead : Lead) :
    ∃ legacyTitle legacyState, relist l id current correction lead =
      { lead with
        legacyTitle
        legacyState
        sourceFlow := l.flow
        currentListingObservationId := some id
        title := if correction = none then l.title else lead.title
        state := if correction = none then l.state else lead.state } := by
  have kept : ∃ legacyTitle legacyState,
      (if current = none then keepLegacy lead else lead) = { lead with legacyTitle, legacyState } := by
    unfold keepLegacy
    split
    · split
      · exact ⟨_, _, rfl⟩
      · exact ⟨lead.legacyTitle, lead.legacyState, rfl⟩
    · exact ⟨lead.legacyTitle, lead.legacyState, rfl⟩
  obtain ⟨legacyTitle, legacyState, kept⟩ := kept
  refine ⟨legacyTitle, legacyState, ?_⟩
  unfold relist
  simp only [kept]
  split <;> rfl

theorem relist_revises (id : Nat) (current : Option ListingObservation)
    (correction : Option LeadCorrectionEvent) (lead : Lead) :
    lead.Revises (relist l id current correction lead) := by
  obtain ⟨_, _, frame⟩ := relist_frame l id current correction lead
  rw [frame]
  exact ⟨rfl, rfl, fun _ reached => reached⟩

theorem relist_current (id : Nat) (current : Option ListingObservation)
    (correction : Option LeadCorrectionEvent) (lead : Lead) :
    (relist l id current correction lead).currentListingObservationId = some id := by
  obtain ⟨_, _, frame⟩ := relist_frame l id current correction lead
  rw [frame]

def Listing.lead (l : Listing) (db : Db) (phone : String) : Lead :=
  (db.leadOfPhone? phone).elim (l.newLead (db.leadSeq + 1) phone) enterDb1

theorem leadOfPhone?_admitListing (other : String) : (admitListing db l phone).leadOfPhone? other =
    if other = phone then some (l.lead db phone) else db.leadOfPhone? other := by
  unfold admitListing Listing.lead
  cases found : db.leadOfPhone? phone with
  | none =>
    refine (lookup_append_new found rfl other).trans ?_
    simp only [eq_comm]
    rfl
  | some lead =>
    have named : ∀ lead, (enterDb1 lead).phone = lead.phone := fun _ => rfl
    refine (leadOfPhone?_editLead named other).trans ?_
    split
    case isTrue here => rw [here, found]; rfl
    · rfl

theorem Observed.editLead {f : Lead → Lead} (bounded : ∀ lead, ∀ id ∈ (f lead).currentListingObservationId,
    id ∈ lead.currentListingObservationId ∨ id ≤ db.observationSeq) (observed : Observed db) :
    Observed (db.editLead phone f) := by
  refine ⟨observed.drawn, fun lead member id current => ?_⟩
  rcases mem_adjust.mp member with ⟨old, inTable, _, rfl⟩ | ⟨old, _⟩
  · rcases bounded old id current with kept | drawn
    · exact observed.current old inTable id kept
    · exact drawn
  · exact observed.current lead old id current

theorem Observed.admitListing (observed : Observed db) : Observed (admitListing db l phone) := by
  unfold Jawnix.admitListing
  split
  · refine ⟨observed.drawn, fun lead member id current => ?_⟩
    rcases mem_append.mp member with old | new
    · exact observed.current lead old id current
    rw [mem_singleton.mp new] at current
    cases current
  · exact observed.editLead fun _ _ current => .inl current

theorem Observed.recordObservation (observed : Observed db) :
    Observed (recordObservation db checksum l) := by
  refine ⟨fun o member => ?_, fun lead member id current =>
    Nat.le_succ_of_le (observed.current lead member id current)⟩
  rcases mem_append.mp member with old | new
  · exact Nat.le_succ_of_le (observed.drawn o old)
  rw [mem_singleton.mp new]
  exact Nat.le_refl _

theorem Observed.supersede (observed : Observed db) : Observed (supersede db checksum l phone) := by
  unfold Jawnix.supersede
  split
  · exact observed
  dsimp only
  split
  · refine observed.editLead fun lead id current => .inr ?_
    rw [relist_current] at current
    rw [Option.mem_some.mp current]
  · exact observed

theorem Observed.observeRow (observed : Observed s.db) : Observed (observeRow checksum s l).db := by
  unfold Jawnix.observeRow
  split
  · exact observed.recordObservation
  · exact observed.admitListing.recordObservation.supersede

theorem currentListing_append (observed : Observed db)
    (table : db'.observations = db.observations ++ [o]) (fresh : o.id = db.observationSeq + 1)
    (lead : Lead) :
    db'.currentListing lead =
    if lead.currentListingObservationId = some (db.observationSeq + 1) then some o else
    db.currentListing lead := by
  have absent : lookup ListingObservation.id (db.observationSeq + 1) db.observations = none :=
    lookup_none.mpr fun old stored => Nat.ne_of_lt (Nat.lt_succ_of_le (observed.drawn old stored))
  unfold Db.currentListing
  cases named : lead.currentListingObservationId with
  | none => rfl
  | some id =>
    have read : db'.observation? id = if db.observationSeq + 1 = id then some o else db.observation? id := by
      unfold Db.observation?
      rw [table]
      exact lookup_append_new absent fresh id
    simp only [bind_some, read, some.injEq, eq_comm]

theorem leadOfPhone?_supersede {lead : Lead} (found : db.leadOfPhone? phone = some lead)
    (other : String) : (supersede db checksum l phone).leadOfPhone? other =
    if other = phone then
    some (if (db.currentListing lead).all (fun c => c.order < (l.observation checksum 0 none).order) then
    relist l db.observationSeq (db.currentListing lead) (db.activeCorrection lead) lead else lead)
    else db.leadOfPhone? other := by
  have same : (l.observation checksum db.observationSeq (some lead.id)).order =
    (l.observation checksum 0 none).order := rfl
  unfold supersede
  simp only [found, same]
  split
  · refine (leadOfPhone?_editLead (fun lead => (relist_revises _ _ _ lead).phone) other).trans ?_
    split
    case isTrue here => rw [here, found]; rfl
    · rfl
  split
  case isTrue here => rw [here, found]
  · rfl

theorem admitListing_frame (db : Db) (l : Listing) (phone : String) :
    ∃ leads leadSeq, admitListing db l phone = { db with leads, leadSeq } := by
  unfold admitListing
  split
  · exact ⟨_, _, rfl⟩
  · exact ⟨_, db.leadSeq, rfl⟩

def Listing.listLead (l : Listing) (db : Db) (checksum phone : String) : Lead :=
  let lead := l.lead db phone
  let current := db.currentListing lead
  if current.all (fun c => c.order < (l.observation checksum 0 none).order) then
    relist l (db.observationSeq + 1) current (db.activeCorrection lead) lead
  else lead

theorem leadOfPhone?_observeRow (checksum : String) (l : Listing) (observed : Observed s.db)
    (other : String) :
    (observeRow checksum s l).db.leadOfPhone? other =
    if l.validPhone = some other then some (l.listLead s.db checksum other) else
    s.db.leadOfPhone? other := by
  unfold observeRow
  split
  case h_1 invalid =>
    rw [invalid, if_neg (by simp)]
    rfl
  case h_2 phone valid =>
  have found : (admitListing s.db l phone).leadOfPhone? phone = some (l.lead s.db phone) := by
    rw [leadOfPhone?_admitListing, if_pos rfl]
  have recorded : (recordObservation (admitListing s.db l phone) checksum l).leadOfPhone? phone =
    some (l.lead s.db phone) := found
  have kept : (recordObservation (admitListing s.db l phone) checksum l).currentListing
    (l.lead s.db phone) = _ :=
    (currentListing_append observed.admitListing rfl rfl _).trans (if_neg fun named =>
      Nat.not_succ_le_self _ (observed.admitListing.current _ (lookup_some found).1 _ named))
  obtain ⟨leads, leadSeq, frame⟩ := admitListing_frame s.db l phone
  have untouched : (admitListing s.db l phone).currentListing (l.lead s.db phone) =
      s.db.currentListing (l.lead s.db phone) := by
    rw [frame]
    rfl
  have corrections : (recordObservation (admitListing s.db l phone) checksum l).activeCorrection
    (l.lead s.db phone) =
      s.db.activeCorrection (l.lead s.db phone) := by
    rw [frame]
    rfl
  have drawn : (recordObservation (admitListing s.db l phone) checksum l).observationSeq =
    s.db.observationSeq + 1 := by
    rw [frame]
    rfl
  refine (leadOfPhone?_supersede recorded other).trans ?_
  rw [kept, untouched, corrections, drawn, valid]
  by_cases here : other = phone
  · subst here
    rw [if_pos rfl, if_pos rfl]
    rfl
  · rw [if_neg here, if_neg fun same => here (some.inj same).symm]
    exact (leadOfPhone?_admitListing other).trans (if_neg here)

theorem supersede_frame (db : Db) (checksum : String) (l : Listing) (phone : String) :
    ∃ leads, supersede db checksum l phone = { db with leads } := by
  unfold supersede
  split
  · exact ⟨db.leads, rfl⟩
  dsimp only
  split
  · exact ⟨_, rfl⟩
  · exact ⟨db.leads, rfl⟩

theorem observeRow_frame (checksum : String) (s : Syncing) (l : Listing) :
    ∃ leads leadSeq leadId, (observeRow checksum s l).db =
      { s.db with
        leads
        leadSeq
        observations := s.db.observations ++ [l.observation checksum (s.db.observationSeq + 1) leadId]
        observationSeq := s.db.observationSeq + 1 } := by
  unfold observeRow
  split
  · exact ⟨s.db.leads, s.db.leadSeq, _, rfl⟩
  case h_2 phone _ =>
  obtain ⟨leads, leadSeq, admitted⟩ := admitListing_frame s.db l phone
  obtain ⟨leads', superseded⟩ :=
    supersede_frame (recordObservation (admitListing s.db l phone) checksum l) checksum l phone
  refine ⟨leads', leadSeq, (l.phone.bind (admitListing s.db l phone).leadOfPhone?).map Lead.id,
    superseded.trans ?_⟩
  rw [admitted]
  rfl

theorem listed_of_found {lead : Lead} (found : db.leadOfPhone? phone = some lead) :
    (db.currentListing lead).map ListingObservation.facts = db.listed phone := by
  rw [Db.listed, found, bind_some]

theorem listed_eq_lead (db : Db) (l : Listing) (phone : String) :
    db.listed phone = (db.currentListing (l.lead db phone)).map ListingObservation.facts := by
  unfold Db.listed Listing.lead
  cases db.leadOfPhone? phone <;> rfl

theorem offer_facts (current : Option ListingObservation) (x : ListingObservation) :
    offer ListingObservation.order (current.map ListingObservation.facts) x =
    if current.all (fun c => c.order < x.order) then some x else current.map ListingObservation.facts := by
  cases current with
  | none => rfl
  | some c =>
    simp only [map_some, offer, Option.all_some, decide_eq_true_eq]
    rfl

theorem Listing.lead_current (observed : Observed db) (l : Listing) (phone : String) :
    (l.lead db phone).currentListingObservationId ≠ some (db.observationSeq + 1) := by
  unfold Listing.lead
  cases found : db.leadOfPhone? phone with
  | none => exact fun named => by cases named
  | some lead =>
    exact fun named => Nat.not_succ_le_self _ (observed.current lead (lookup_some found).1 _ named)

theorem listed_observeRow (observed : Observed s.db) (other : String) :
    (observeRow checksum s l).db.listed other =
    if l.validPhone = some other then
    offer ListingObservation.order (s.db.listed other) (l.observation checksum 0 none)
    else s.db.listed other := by
  obtain ⟨leads, leadSeq, leadId, frame⟩ := observeRow_frame checksum s l
  have current : ∀ lead, (observeRow checksum s l).db.currentListing lead =
      if lead.currentListingObservationId = some (s.db.observationSeq + 1) then
        some (l.observation checksum (s.db.observationSeq + 1) leadId)
      else s.db.currentListing lead := by
    refine currentListing_append observed ?_ rfl
    rw [frame]
  by_cases valid : l.validPhone = some other
  · rw [if_pos valid, listed_eq_lead s.db l, offer_facts]
    unfold Db.listed
    rw [leadOfPhone?_observeRow _ _ observed, if_pos valid, bind_some, current]
    unfold Listing.listLead
    dsimp only
    split
    · rw [relist_current, if_pos rfl]
      rfl
    · rw [if_neg (Listing.lead_current observed l other)]
  rw [if_neg valid]
  unfold Db.listed
  rw [leadOfPhone?_observeRow _ _ observed, if_neg valid]
  cases found : s.db.leadOfPhone? other with
  | none => rfl
  | some lead =>
    rw [bind_some, bind_some, current, if_neg]
    exact fun named => Nat.not_succ_le_self _ (observed.current lead (lookup_some found).1 _ named)

/-- What synchronisation made of a Lead under the listing `o`, where `before` was the Lead of the
phone. -/
structure Lists (db : Db) (before : Option Lead) (o : ListingObservation) (lead : Lead) : Prop where
  inDb1 : lead.inDb1
  correction : lead.activeCorrectionId = before.bind Lead.activeCorrectionId
  named : db.activeCorrection lead = none → lead.title = o.title ∧ lead.state = o.state
  corrected : db.activeCorrection lead ≠ none → before.map (fun b => (b.title, b.state)) =
    some (lead.title, lead.state)

def Stands (db : Db) (before : Option Lead) (phone : String) : Prop :=
  match db.listed phone with
  | none => db.leadOfPhone? phone = before
  | some o => ∃ lead, db.leadOfPhone? phone = some lead ∧ Lists db before o lead

theorem Lists.relist {before : Option Lead} {lead : Lead} (valid : l.state ∈ usStates) (inDb1 : lead.inDb1)
    (correction : lead.activeCorrectionId = before.bind Lead.activeCorrectionId)
    (corrected : db.activeCorrection lead ≠ none → before.map (fun b => (b.title, b.state)) =
      some (lead.title, lead.state))
    (id : Nat) (current : Option ListingObservation) :
    Lists db before (l.observation checksum 0 none)
    (relist l id current (db.activeCorrection lead) lead) := by
  obtain ⟨legacyTitle, legacyState, frame⟩ := relist_frame l id current (db.activeCorrection lead) lead
  rw [frame]
  refine ⟨inDb1, correction, fun free => ?_, fun active => ?_⟩
  · have free : db.activeCorrection lead = none := free
    simp only [free, if_true, Listing.observation, if_pos valid, and_self]
  · have active : db.activeCorrection lead ≠ none := active
    simpa only [if_neg active] using corrected active

theorem Lists.enterDb1 {before : Option Lead} {lead : Lead} (lists : Lists db before o lead) :
    Lists db before o (enterDb1 lead) :=
  ⟨rfl, lists.correction, lists.named, lists.corrected⟩

theorem Lists.congr {before : Option Lead} {lead : Lead} (same : db'.corrections = db.corrections)
    (lists : Lists db before o lead) : Lists db' before o lead := by
  have active : db'.activeCorrection lead = db.activeCorrection lead := by
    unfold Db.activeCorrection Db.correction?
    rw [same]
  exact ⟨lists.inDb1, lists.correction, active ▸ lists.named, active ▸ lists.corrected⟩

theorem Stands.congr {before : Option Lead} (stands : Stands db before phone)
    (leads : db'.leads = db.leads) (observations : db'.observations = db.observations)
    (corrections : db'.corrections = db.corrections) : Stands db' before phone := by
  have same : db'.leadOfPhone? phone = db.leadOfPhone? phone := by
    unfold Db.leadOfPhone?
    rw [leads]
  have listed : db'.listed phone = db.listed phone := by
    unfold Db.listed Db.currentListing Db.observation?
    rw [same, observations]
  unfold Stands at stands ⊢
  rw [same, listed]
  split at stands
  · exact stands
  obtain ⟨lead, found, lists⟩ := stands
  exact ⟨lead, found, lists.congr corrections⟩

theorem Listing.validPhone_state (valid : l.validPhone = some phone) : l.state ∈ usStates := by
  unfold Listing.validPhone at valid
  split at valid
  case isTrue sound =>
    unfold Listing.valid at sound
    simp only [and_eq_true, decide_eq_true_eq] at sound
    exact sound.2
  · cases valid

theorem Stands.lead {before : Option Lead} (stands : Stands db before phone) (l : Listing) :
    (l.lead db phone).inDb1 ∧
    (l.lead db phone).activeCorrectionId = before.bind Lead.activeCorrectionId ∧
    (db.activeCorrection (l.lead db phone) ≠ none →
    before.map (fun b => (b.title, b.state)) = some ((l.lead db phone).title, (l.lead db phone).state)) := by
  unfold Stands at stands
  split at stands
  · unfold Listing.lead
    rw [stands]
    cases before with
    | none => exact ⟨rfl, rfl, fun active => absurd rfl active⟩
    | some lead => exact ⟨rfl, rfl, fun _ => rfl⟩
  obtain ⟨lead, found, lists⟩ := stands
  unfold Listing.lead
  rw [found]
  exact ⟨rfl, lists.correction, lists.corrected⟩

theorem Stands.observeRow {before : Option Lead} (observed : Observed s.db)
    (stands : Stands s.db before phone) : Stands (observeRow checksum s l).db before phone := by
  obtain ⟨leads, leadSeq, leadId, frame⟩ := observeRow_frame checksum s l
  have corrections : (Jawnix.observeRow checksum s l).db.corrections = s.db.corrections := by rw [frame]
  unfold Stands
  rw [listed_observeRow observed, leadOfPhone?_observeRow _ _ observed]
  by_cases valid : l.validPhone = some phone
  · obtain ⟨inDb1, correction, corrected⟩ := stands.lead l
    rw [if_pos valid, if_pos valid, listed_eq_lead s.db l, offer_facts]
    unfold Listing.listLead
    by_cases newer : (s.db.currentListing (l.lead s.db phone)).all
        (fun c => c.order < (l.observation checksum 0 none).order)
    · simp only [if_pos newer]
      exact ⟨_, rfl,
        (Lists.relist (Listing.validPhone_state valid) inDb1 correction corrected _ _).congr
        corrections⟩
    simp only [if_neg newer]
    unfold Stands at stands
    rw [listed_eq_lead s.db l] at stands
    cases current : s.db.currentListing (l.lead s.db phone) with
    | none => exact absurd (by rw [current]; rfl) newer
    | some o =>
    rw [current] at stands
    obtain ⟨lead, found, lists⟩ := stands
    refine ⟨l.lead s.db phone, rfl, Lists.congr corrections ?_⟩
    unfold Listing.lead
    rw [found]
    exact lists.enterDb1
  rw [if_neg valid, if_neg valid]
  unfold Stands at stands
  split at stands
  · exact stands
  obtain ⟨lead, found, lists⟩ := stands
  exact ⟨lead, found, lists.congr corrections⟩

theorem observeRow_closed {P : Db → Prop} (closed : RegistryClosed P) (holds : P s.db) :
    P (observeRow checksum s l).db := by
  unfold observeRow
  split
  · exact closed.congr holds rfl (Nat.le_refl _)
  case h_2 phone _ =>
  have admitted : P (admitListing s.db l phone) := by
    unfold admitListing
    split
    case h_1 absent => exact closed.append rfl absent holds
    · exact closed.edit phone (fun _ => ⟨rfl, rfl, fun _ reached => reached⟩) holds
  have recorded : P (recordObservation (admitListing s.db l phone) checksum l) :=
    closed.congr admitted rfl (Nat.le_refl _)
  unfold supersede
  dsimp only
  split
  · exact recorded
  split
  · exact closed.edit phone (relist_revises _ _ _) recorded
  · exact recorded

end

def observationsIn (checksum : String) (rows : List Listing) (phone : String) : List ListingObservation :=
  (rows.filter fun l => l.validPhone = some phone).map fun l => l.observation checksum 0 none

def observationsOf (platform : SyncPlatform) (checksums : List String) (phone : String) :
    List ListingObservation :=
  checksums.flatMap (fun checksum =>
    (platform.dataset checksum).elim []
      (fun dataset => observationsIn checksum (listings platform dataset) phone))

structure Imported (before : String → Option Lead) (db : Db)
    (offered : String → List ListingObservation) : Prop where
  observed : Observed db
  phones : Keyed Lead.phone db.leads
  newest : ∀ phone, Register.Newest ListingObservation.order (offered phone) (db.listed phone)
  stands : ∀ phone, Stands db (before phone) phone

section
variable {platform : SyncPlatform} {before : String → Option Lead}
  {offered : String → List ListingObservation}

theorem Imported.observeRow {s : Syncing} (imported : Imported before s.db offered)
    (checksum : String) (l : Listing) :
    Imported before (observeRow checksum s l).db fun phone =>
    offered phone ++ observationsIn checksum [l] phone := by
  refine ⟨imported.observed.observeRow, observeRow_closed phones_closed imported.phones,
    fun phone => ?_, fun phone => (imported.stands phone).observeRow imported.observed⟩
  rw [listed_observeRow imported.observed]
  by_cases valid : l.validPhone = some phone
  · simpa [observationsIn, valid] using (imported.newest phone).offer (l.observation checksum 0 none)
  · simpa [observationsIn, valid] using imported.newest phone

theorem Imported.observeRows {s : Syncing} (imported : Imported before s.db offered)
    (checksum : String) (rows : List Listing) :
    Imported before (rows.foldl (Jawnix.observeRow checksum) s).db
    (fun phone => offered phone ++ observationsIn checksum rows phone) := by
  induction rows generalizing s offered with
  | nil => simpa [observationsIn] using imported
  | cons l rows ih =>
  have later := ih (imported.observeRow checksum l)
  simp only [append_assoc] at later
  have joined : ∀ phone, observationsIn checksum [l] phone ++ observationsIn checksum rows phone =
      observationsIn checksum (l :: rows) phone := fun phone => by
    simp only [observationsIn, ← map_append, ← filter_append, List.singleton_append]
  simp only [joined] at later
  exact later

theorem observeRows_frame (checksum : String) (rows : List Listing) (s : Syncing) :
    ∃ leads leadSeq observations observationSeq, (rows.foldl (observeRow checksum) s).db =
      { s.db with leads, leadSeq, observations, observationSeq } := by
  induction rows generalizing s with
  | nil => exact ⟨s.db.leads, s.db.leadSeq, s.db.observations, s.db.observationSeq, rfl⟩
  | cons l rows ih =>
    obtain ⟨leads, leadSeq, leadId, first⟩ := observeRow_frame checksum s l
    obtain ⟨leads', leadSeq', observations, observationSeq, rest⟩ := ih (observeRow checksum s l)
    refine ⟨leads', leadSeq', observations, observationSeq, rest.trans ?_⟩
    rw [first]

theorem importScraperSqlite_cases {db db' : Db} {path checksum : String}
    (done : importScraperSqlite platform db path checksum = .ok db') :
    (db.audited checksum ∧ db' = db) ∨
      db.audited checksum = false ∧ ∃ dataset audit, platform.dataset checksum = some dataset ∧
      audit.checksum = checksum ∧
        ∃ imported, imported = ((listings platform dataset).foldl (observeRow checksum) { db }).db ∧
          db' = { imported with audits := imported.audits ++ [audit] } := by
  unfold importScraperSqlite at done
  split at done
  case isTrue audited =>
    cases done
    exact .inl ⟨audited, rfl⟩
  case isFalse fresh =>
  split at done
  · cases done
  case h_2 dataset found =>
  split at done
  · cases done
    exact .inr ⟨by simpa using fresh, dataset, _, found, rfl, _, rfl, rfl⟩
  · cases done

end

end Jawnix
