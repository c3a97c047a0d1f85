import Jawnix.Corrections
import Jawnix.ManifestLeads

/-!
# What a Lead rests on

Underneath a correction a Lead rests on its Current Listing, else on its Legacy
Listing Snapshot, and a Lead of DB2 alone on its own columns. No correction changes
what a Lead of DB1 rests on, and what an importer does to it depends on no
correction.
-/
namespace Jawnix

open Register (offer)

inductive Basis where
  | outside (title state : String)
  | snapshot (title state : String)
  | listed (o : ListingObservation)

def Basis.values : Basis → String × String
  | .outside title state | .snapshot title state => (title, state)
  | .listed o => (o.title, o.state)

def basis (db : Db) (lead : Lead) : Basis :=
  match (db.currentListing lead).map ListingObservation.facts with
  | some o => .listed o
  | none => if lead.inDb1 then .snapshot lead.legacyTitle lead.legacyState else
      .outside lead.title lead.state

structure Sits (db : Db) (lead : Lead) : Prop where
  resolved : ∀ id ∈ lead.activeCorrectionId, (db.correction? id).isSome
  inside : db.currentListing lead ≠ none → lead.inDb1
  grounded : lead.inDb1 → db.currentListing lead = none → ¬ (lead.legacyTitle = "" ∧ lead.legacyState = "")
  bare : lead.inDb1 = false → lead.legacyTitle = "" ∧ lead.legacyState = ""

/-- The title and state are those of the active correction, and otherwise of what the Lead rests
on. -/
def AtRest (db : Db) (lead : Lead) : Prop :=
  (lead.title, lead.state) =
    match db.activeCorrection lead with
    | some c => (c.title, c.state)
    | none => (basis db lead).values

section
variable {db db' : Db} {lead lead' : Lead}

theorem basis_congr (observations : db'.observations = db.observations) (lead : Lead) :
    basis db' lead = basis db lead := by
  unfold basis Db.currentListing Db.observation?
  rw [observations]

theorem Sits.activeCorrection (sits : Sits db lead) :
    db.activeCorrection lead = none ↔ lead.activeCorrectionId = none := by
  unfold Db.activeCorrection
  cases named : lead.activeCorrectionId with
  | none => simp
  | some id => simpa [Option.isSome_iff_ne_none] using sits.resolved id named

theorem listingEvidence_values (sits : Sits db lead) (inside : lead.inDb1) :
    ((listingEvidence db lead).title, (listingEvidence db lead).state) = (basis db lead).values := by
  unfold listingEvidence basis
  cases current : db.currentListing lead with
  | some o => rfl
  | none =>
    have ground := sits.grounded inside current
    have visible : lead.legacyTitle ≠ "" ∨ lead.legacyState ≠ "" := by
      rw [← not_and_or]
      exact ground
    simp only [map_none, inside, if_true, if_pos visible, Basis.values]

end

def Listing.rebase (l : Listing) (checksum : String) (old : Option Basis) : Basis :=
  .listed (match old with
    | some (.listed o) => if o.order < (l.observation checksum 0 none).order then
        l.observation checksum 0 none else o
    | _ => l.observation checksum 0 none)

def ManifestRow.rebase (row : ManifestRow) : Option Basis → Basis
  | none | some (.outside _ _) => .snapshot row.title row.state
  | some held => held

def ManifestRow.mergeBasis (row : ManifestRow) : Option Basis → Basis
  | none => .snapshot row.title row.state
  | some (.outside title _) => .snapshot (if row.title = "" then title else row.title) row.state
  | some held => held

section
variable {db : Db} {lead lead' : Lead} {row : ManifestRow} {old : Option Lead}

theorem currentListing_congr (same : lead'.currentListingObservationId = lead.currentListingObservationId) :
    db.currentListing lead' = db.currentListing lead := by
  rw [Db.currentListing, Db.currentListing, same]

theorem basis_listed {o : ListingObservation} (current : db.currentListing lead = some o) :
    basis db lead = .listed o.facts := by
  rw [basis, current]
  rfl

theorem basis_snapshot (inside : lead.inDb1) (unlisted : db.currentListing lead = none) :
    basis db lead = .snapshot lead.legacyTitle lead.legacyState := by
  rw [basis, unlisted, inside]
  rfl

theorem basis_outside (outside : lead.inDb1 = false) (unlisted : db.currentListing lead = none) :
    basis db lead = .outside lead.title lead.state := by
  rw [basis, unlisted, outside]
  rfl

theorem Sits.unlisted (sits : Sits db lead) (outside : lead.inDb1 = false) :
    db.currentListing lead = none := by
  by_contra listed
  rw [sits.inside listed] at outside
  cases outside

theorem Sits.relabel (sits : Sits db lead) (active : lead'.activeCorrectionId = lead.activeCorrectionId)
    (current : lead'.currentListingObservationId = lead.currentListingObservationId) (inside : lead'.inDb1)
    (ground : db.currentListing lead = none → ¬ (lead'.legacyTitle = "" ∧ lead'.legacyState = "")) :
    Sits db lead' where
  resolved := active ▸ sits.resolved
  inside := fun _ => inside
  grounded := fun _ unlisted => ground ((currentListing_congr current).symm.trans unlisted)
  bare := fun outside => by rw [inside] at outside; cases outside

theorem Sits.newLead (state : row.state ≠ "") (id : Nat) : Sits db (row.newLead id) where
  resolved := fun _ named => nomatch named
  inside := fun listed => absurd rfl listed
  grounded := fun _ _ bare => state bare.2
  bare := fun outside => nomatch outside

theorem overwrite_grounded (state : row.state ≠ "") :
    ¬ ((row.overwrite lead).legacyTitle = "" ∧ (row.overwrite lead).legacyState = "") := by
  unfold ManifestRow.overwrite
  simp only
  split
  · exact fun bare => state bare.2
  case isFalse ground => exact ground

theorem Sits.upserted (state : row.state ≠ "") (id : Nat) (sits : ∀ lead ∈ old, Sits db lead) :
    Sits db (row.upserted id old) ∧ basis db (row.upserted id old) = row.rebase (old.map (basis db)) := by
  cases old with
  | none => exact ⟨Sits.newLead state id, rfl⟩
  | some lead =>
  have before := sits lead rfl
  rw [ManifestRow.upserted, map_some]
  split
  case isTrue outside =>
    obtain ⟨title, held, frame⟩ := enter_frame row lead
    rw [frame, basis_outside outside (before.unlisted outside)]
    exact ⟨before.relabel rfl rfl rfl fun _ bare => state bare.2,
      basis_snapshot rfl (before.unlisted outside)⟩
  case isFalse inside =>
  have inside : lead.inDb1 := by simpa using inside
  obtain ⟨legacyTitle, legacyState, frame⟩ := overwrite_frame row lead
  have active : (row.overwrite lead).activeCorrectionId = lead.activeCorrectionId := by rw [frame]
  have current : (row.overwrite lead).currentListingObservationId =
    lead.currentListingObservationId := by rw [frame]
  have stays : (row.overwrite lead).inDb1 := by rw [frame]; exact inside
  refine ⟨before.relabel active current stays fun _ => overwrite_grounded state, ?_⟩
  cases listed : db.currentListing lead with
  | some o =>
    rw [basis_listed listed, basis_listed ((currentListing_congr current).trans listed)]
    rfl
  | none =>
    rw [basis_snapshot inside listed, basis_snapshot stays ((currentListing_congr current).trans listed)]
    simp only [ManifestRow.overwrite, if_neg (before.grounded inside listed)]
    rfl

theorem Sits.merged (state : row.state ≠ "") (id : Nat) (sits : ∀ lead ∈ old, Sits db lead) :
    Sits db (row.merged id old) ∧ basis db (row.merged id old) = row.mergeBasis (old.map (basis db)) := by
  cases old with
  | none => exact ⟨Sits.newLead state id, rfl⟩
  | some lead =>
  have before := sits lead rfl
  rw [ManifestRow.merged, map_some]
  have current : db.currentListing (row.merge lead) = db.currentListing lead := currentListing_congr rfl
  by_cases inside : lead.inDb1
  · cases listed : db.currentListing lead with
    | some o =>
      rw [basis_listed listed, basis_listed (current.trans listed)]
      refine ⟨before.relabel rfl rfl rfl fun unlisted => ?_, rfl⟩
      rw [listed] at unlisted
      cases unlisted
    | none =>
    have ground := before.grounded inside listed
    have sameTitle : (row.merge lead).legacyTitle = lead.legacyTitle := if_neg ground
    have sameState : (row.merge lead).legacyState = lead.legacyState := if_neg ground
    rw [basis_snapshot inside listed, basis_snapshot rfl (current.trans listed), sameTitle, sameState]
    refine ⟨before.relabel rfl rfl rfl fun _ => ?_, rfl⟩
    rw [sameTitle, sameState]
    exact ground
  have outside : lead.inDb1 = false := by simpa using inside
  have bare := before.bare outside
  have title : (row.merge lead).legacyTitle = if row.title = "" then lead.title else row.title := if_pos bare
  have held : (row.merge lead).legacyState = row.state := if_pos bare
  have unlisted := before.unlisted outside
  rw [basis_outside outside unlisted, basis_snapshot rfl (current.trans unlisted), title, held]
  refine ⟨before.relabel rfl rfl rfl fun _ none => state ?_, rfl⟩
  rw [← held]
  exact none.2

end

section
variable {checksum phone : String} {l : Listing} {s : Syncing} {lead : Lead}
  {o : ListingObservation}

theorem basis_of_found {db : Db} (found : db.leadOfPhone? phone = some lead)
    (listed : db.listed phone = some o) : basis db lead = .listed o := by
  rw [← listed_of_found found] at listed
  rw [basis, listed]

theorem unlisted_of_found {db : Db} (found : db.leadOfPhone? phone = some lead) :
    db.listed phone = none ↔ db.currentListing lead = none := by
  rw [← listed_of_found found, Option.map_eq_none_iff]

theorem currentListing_observeRow (observed : Observed s.db) (member : lead ∈ s.db.leads) :
    (observeRow checksum s l).db.currentListing lead = s.db.currentListing lead := by
  obtain ⟨leads, leadSeq, leadId, frame⟩ := observeRow_frame checksum s l
  refine (currentListing_append observed (by rw [frame]) rfl lead).trans (if_neg fun named => ?_)
  exact Nat.not_succ_le_self _ (observed.current lead member _ named)

theorem corrections_observeRow (checksum : String) (s : Syncing) (l : Listing) :
    (observeRow checksum s l).db.corrections = s.db.corrections := by
  obtain ⟨_, _, _, frame⟩ := observeRow_frame checksum s l
  rw [frame]

theorem Sits.congr {db db' : Db} (sits : Sits db lead) (corrections : db'.corrections = db.corrections)
    (current : db'.currentListing lead = db.currentListing lead) : Sits db' lead where
  resolved := fun id named => by
    rw [Db.correction?, corrections]
    exact sits.resolved id named
  inside := current ▸ sits.inside
  grounded := current ▸ sits.grounded
  bare := sits.bare

theorem AtRest.congr {db db' : Db} (settled : AtRest db lead)
    (corrections : db'.corrections = db.corrections)
    (current : db'.currentListing lead = db.currentListing lead) : AtRest db' lead := by
  have active : db'.activeCorrection lead = db.activeCorrection lead := by
    unfold Db.activeCorrection Db.correction?
    rw [corrections]
  have same : basis db' lead = basis db lead := by rw [basis, basis, current]
  rw [AtRest, active, same]
  exact settled

theorem listed_of_valid (checksum : String) (observed : Observed s.db) (valid : l.validPhone = some phone) :
    ∃ o, (observeRow checksum s l).db.listed phone = some o := by
  rw [listed_observeRow observed, if_pos valid]
  unfold offer
  split
  · exact ⟨_, rfl⟩
  split <;> exact ⟨_, rfl⟩

theorem Listing.lead_active (db : Db) (l : Listing) (phone : String) :
    (l.lead db phone).activeCorrectionId = (db.leadOfPhone? phone).bind Lead.activeCorrectionId := by
  unfold Listing.lead
  cases db.leadOfPhone? phone <;> rfl

theorem Listing.lead_inDb1 (db : Db) (l : Listing) (phone : String) : (l.lead db phone).inDb1 := by
  unfold Listing.lead
  cases db.leadOfPhone? phone <;> rfl

theorem listLead_active (db : Db) (l : Listing) (checksum phone : String) :
    (l.listLead db checksum phone).activeCorrectionId = (l.lead db phone).activeCorrectionId ∧
    (l.listLead db checksum phone).inDb1 := by
  unfold Listing.listLead
  dsimp only
  split
  · obtain ⟨_, _, frame⟩ := relist_frame l (db.observationSeq + 1) (db.currentListing (l.lead db phone))
      (db.activeCorrection (l.lead db phone)) (l.lead db phone)
    rw [frame]
    exact ⟨rfl, Listing.lead_inDb1 db l phone⟩
  · exact ⟨rfl, Listing.lead_inDb1 db l phone⟩

theorem Sits.observeRow (observed : Observed s.db)
    (sits : ∀ lead ∈ s.db.leadOfPhone? phone, Sits s.db lead) :
    ∀ lead ∈ (observeRow checksum s l).db.leadOfPhone? phone, Sits (observeRow checksum s l).db lead := by
  intro lead found
  have read := leadOfPhone?_observeRow checksum l observed phone
  by_cases valid : l.validPhone = some phone
  · obtain ⟨o, listed⟩ := listed_of_valid checksum observed valid
    have current : (Jawnix.observeRow checksum s l).db.currentListing lead ≠ none := by
      intro unlisted
      rw [(unlisted_of_found found).mpr unlisted] at listed
      cases listed
    rw [if_pos valid] at read
    obtain rfl : l.listLead s.db checksum phone = lead := some.inj (read.symm.trans found)
    obtain ⟨active, inside⟩ := listLead_active s.db l checksum phone
    refine ⟨fun id named => ?_, fun _ => inside, fun _ unlisted =>
      absurd unlisted current, fun outside => ?_⟩
    · rw [Db.correction?, corrections_observeRow]
      rw [active, Listing.lead_active] at named
      obtain ⟨old, stored, named⟩ := bind_eq_some_iff.mp named
      exact (sits old stored).resolved id named
    · rw [inside] at outside
      cases outside
  rw [if_neg valid] at read
  have stored := read.symm.trans found
  exact (sits lead stored).congr (corrections_observeRow checksum s l)
    (currentListing_observeRow observed (lookup_some stored).1)

def Db.basisOf (db : Db) (phone : String) : Option Basis := (db.leadOfPhone? phone).map (basis db)

theorem rebase_offer {db : Db} (l : Listing) (checksum phone : String)
    (offered : offer ListingObservation.order (db.listed phone) (l.observation checksum 0 none) = some o) :
    l.rebase checksum (db.basisOf phone) = .listed o := by
  unfold Db.basisOf
  cases found : db.leadOfPhone? phone with
  | none =>
    have unlisted : db.listed phone = none := by
      rw [Db.listed, found]
      rfl
    rw [unlisted] at offered
    cases offered
    rfl
  | some lead =>
  cases listed : db.listed phone with
  | none =>
    rw [listed] at offered
    cases offered
    have unlisted := (unlisted_of_found found).mp listed
    rw [map_some, basis, unlisted]
    cases lead.inDb1 <;> rfl
  | some held =>
  rw [listed] at offered
  rw [map_some, basis_of_found found listed]
  unfold offer at offered
  unfold Listing.rebase
  simp only at offered ⊢
  split at offered
  case isTrue newer =>
    cases offered
    rw [if_pos newer]
  case isFalse older =>
  cases offered
  rw [if_neg older]

theorem basisOf_observeRow (observed : Observed s.db) : (observeRow checksum s l).db.basisOf phone =
    if l.validPhone = some phone then some (l.rebase checksum (s.db.basisOf phone)) else
    s.db.basisOf phone := by
  have read := leadOfPhone?_observeRow checksum l observed phone
  by_cases valid : l.validPhone = some phone
  · rw [if_pos valid] at read ⊢
    obtain ⟨o, listed⟩ := listed_of_valid checksum observed valid
    have offered := (listed_observeRow observed phone).symm.trans listed
    rw [if_pos valid] at offered
    rw [rebase_offer l checksum phone offered, Db.basisOf, read, map_some, basis_of_found read listed]
  rw [if_neg valid] at read ⊢
  rw [Db.basisOf, Db.basisOf, read]
  cases found : s.db.leadOfPhone? phone with
  | none => rfl
  | some lead =>
    rw [map_some, map_some, basis, basis, currentListing_observeRow observed (lookup_some found).1]

theorem Listing.lead_found {db : Db} {old : Lead} (l : Listing)
    (found : db.leadOfPhone? phone = some old) : l.lead db phone = enterDb1 old := by
  rw [Listing.lead, found]
  rfl

theorem listLead_atRest (before : ∀ old ∈ s.db.leadOfPhone? phone, s.db.activeCorrection old ≠ none →
      AtRest s.db old) (newer : (s.db.currentListing (l.lead s.db phone)).all
        (fun c => c.order < (l.observation checksum 0 none).order)) :
    (((l.listLead s.db checksum phone).title, (l.listLead s.db checksum phone).state) =
      match s.db.activeCorrection (l.lead s.db phone) with
      | some c => (c.title, c.state)
      | none => (l.title, l.state)) := by
  obtain ⟨_, _, frame⟩ := relist_frame l (s.db.observationSeq + 1) (s.db.currentListing (l.lead s.db phone))
    (s.db.activeCorrection (l.lead s.db phone)) (l.lead s.db phone)
  unfold Listing.listLead
  rw [if_pos newer, frame]
  cases correction : s.db.activeCorrection (l.lead s.db phone) with
  | none => simp only [if_true]
  | some c =>
  cases stored : s.db.leadOfPhone? phone with
  | none =>
    rw [Listing.lead, stored] at correction
    cases correction
  | some old =>
  have same := Listing.lead_found l stored
  rw [same] at correction ⊢
  have correction : s.db.activeCorrection old = some c := correction
  have settled := before old stored (by rw [correction]; exact some_ne_none c)
  rw [AtRest, correction] at settled
  simpa [enterDb1] using settled

/-- The Lead of a phone is settled, or will be once it is relisted. -/
def ComesToRest (settled : Prop) (before : Option ListingObservation) (db : Db) (phone : String) : Prop :=
  ∀ lead ∈ db.leadOfPhone? phone,
    (settled ∨ (db.activeCorrection lead = none ∧ db.listed phone ≠ before)) → AtRest db lead

theorem ComesToRest.observeRow {settled : Prop} {before : Option ListingObservation}
    (observed : Observed s.db) (settles : ComesToRest settled before s.db phone) :
    ComesToRest settled before (observeRow checksum s l).db phone := by
  intro lead found condition
  have corrections := corrections_observeRow checksum s l
  have active : ∀ lead : Lead, (Jawnix.observeRow checksum s l).db.activeCorrection lead =
    s.db.activeCorrection lead :=
    fun lead => by
      unfold Db.activeCorrection Db.correction?
      rw [corrections]
  have read := leadOfPhone?_observeRow checksum l observed phone
  by_cases valid : l.validPhone = some phone
  · rw [if_pos valid] at read
    obtain rfl : l.listLead s.db checksum phone = lead := some.inj (read.symm.trans found)
    obtain ⟨o, listed⟩ := listed_of_valid checksum observed valid
    have offered := (listed_observeRow observed phone).symm.trans listed
    rw [if_pos valid, listed_eq_lead s.db l, offer_facts] at offered
    have sameActive : s.db.activeCorrection (l.listLead s.db checksum phone) =
        s.db.activeCorrection (l.lead s.db phone) := by
      rw [Db.activeCorrection, Db.activeCorrection, (listLead_active s.db l checksum phone).1]
    rw [active, sameActive] at condition
    rw [AtRest, active, sameActive, basis_of_found found listed]
    by_cases newer : (s.db.currentListing (l.lead s.db phone)).all
        (fun c => c.order < (l.observation checksum 0 none).order)
    · rw [if_pos newer] at offered
      cases offered
      have corrected : ∀ old ∈ s.db.leadOfPhone? phone, s.db.activeCorrection old ≠ none →
        AtRest s.db old := by
        intro old stored correction
        refine settles old stored (condition.imp_right fun ⟨free, _⟩ => absurd ?_ correction)
        rw [Listing.lead_found l stored] at free
        exact free
      have values := listLead_atRest corrected newer
      simpa only [Basis.values, Listing.observation, if_pos (Listing.validPhone_state valid)] using values
    rw [if_neg newer, ← listed_eq_lead] at offered
    cases stored : s.db.leadOfPhone? phone with
    | none =>
      rw [Db.listed, stored] at offered
      cases offered
    | some old =>
    have same := Listing.lead_found l stored
    have kept : l.listLead s.db checksum phone = enterDb1 old := by
      rw [Listing.listLead, if_neg newer, same]
    rw [same, listed, ← offered] at condition
    have settled := settles old stored condition
    rw [AtRest, basis_of_found stored offered] at settled
    rw [kept, same]
    exact settled
  · rw [if_neg valid] at read
    have stored := read.symm.trans found
    have listed : (Jawnix.observeRow checksum s l).db.listed phone = s.db.listed phone := by
      rw [listed_observeRow observed, if_neg valid]
    rw [active, listed] at condition
    exact (settles lead stored condition).congr corrections
      (currentListing_observeRow observed (lookup_some stored).1)

end

end Jawnix
