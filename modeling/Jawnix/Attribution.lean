import Jawnix.AllocationOutcome
import Jawnix.CorrectionRuns

/-!
# Attribution of a corrected Lead

A Lead Correction overrides the delivered title and state. What the next
Distribution Event says about the Lead's source is the Current Listing's, but
`_listing_snapshot` lowers the niche of an uncorrected listing only.
-/
namespace Jawnix

/-- Source kind, segment key and niche of the event that an allocation writes for one of its
candidates. -/
def attribution (platform : Platform) (db : Db) (database : LeadDatabase) (keys : List (Nat × Uuid))
    (candidates : List Lead) (lead : Lead) : Option (String × String × String) :=
  match deliveredListing platform db database (db2Listings db keys) (listingLookups db candidates) lead with
  | .ok (_, _, snapshot) => some (snapshot.sourceKind, snapshot.segmentKey, snapshot.niche)
  | .error _ => none

section
variable {platform : Platform} {db : Db} {database : LeadDatabase} {sourceKeys : List (Nat × Uuid)}
  {candidates : List Lead} {lead : Lead}

theorem attribution_db1 (keys : ListingKeys db) (member : lead ∈ candidates) :
    attribution platform db .db1 sourceKeys candidates lead = some
      (match db.currentListing lead with
      | none => ("legacy", "", "")
      | some o => ("google_maps", o.source,
          if (db.activeCorrection lead).isSome then o.niche else platform.casing.lower o.niche)) := by
  have observed : lead.currentListingObservationId.bind (fetch ((listingLookups db candidates).map
      ListingLookups.observations) ListingObservation.id db.observations) = db.currentListing lead := by
    unfold listingLookups
    dsimp only
    split
    · rfl
    · exact bind_fetch_loadBy keys.observations fun id current => mem_filterMap.mpr ⟨lead, member, current⟩
  have corrected : lead.activeCorrectionId.bind (fetch ((listingLookups db candidates).map
      ListingLookups.corrections) LeadCorrectionEvent.id db.corrections) = db.activeCorrection lead := by
    unfold listingLookups
    dsimp only
    split
    · rfl
    · exact bind_fetch_loadBy keys.corrections fun id active => mem_filterMap.mpr ⟨lead, member, active⟩
  simp only [attribution, deliveredListing, listingSnapshot, observed, corrected]
  cases db.activeCorrection lead <;> cases db.currentListing lead <;> rfl

/-- A rewritten Lead is attributed as before exactly if it is drawn from DB2, or is corrected now as
it was then, or its niche has one spelling. -/
theorem attribution_rewritten_iff {f : Lead → Lead} {e : LeadCorrectionEvent}
    {candidates' : List Lead} (keys : ListingKeys db) (member : lead ∈ candidates)
    (fresh : db.correction? e.id = none)
    (identity : (f lead).id = lead.id ∧ (f lead).phone = lead.phone ∧
      (f lead).currentListingObservationId = lead.currentListingObservationId)
    (member' : f lead ∈ candidates') :
    attribution platform ((db.withCorrection e).editLead lead.phone f) database sourceKeys
    candidates' (f lead) = attribution platform db database sourceKeys candidates lead ↔
    database = .db2 ∨ ((db.withCorrection e).activeCorrection (f lead)).isSome =
    (db.activeCorrection lead).isSome ∨
    ∀ o, db.currentListing lead = some o → platform.casing.lower o.niche = o.niche := by
  obtain ⟨sameId, samePhone, sameListing⟩ := identity
  cases database with
  | db1 =>
    have keys' : ListingKeys ((db.withCorrection e).editLead lead.phone f) :=
      { keys with corrections := keyed_append.mpr ⟨keys.corrections, lookup_none.mp fresh⟩ }
    have listing : ((db.withCorrection e).editLead lead.phone f).currentListing
      (f lead) = db.currentListing lead := congrArg (fun id => id.bind db.observation?) sameListing
    have active : ((db.withCorrection e).editLead lead.phone f).activeCorrection (f lead) =
        (db.withCorrection e).activeCorrection (f lead) := rfl
    rw [attribution_db1 keys' member', attribution_db1 keys member, listing, active]
    cases db.currentListing lead with
    | none => simp
    | some o =>
      cases ((db.withCorrection e).activeCorrection (f lead)).isSome <;>
        cases (db.activeCorrection lead).isSome <;> simp [eq_comm]
  | db2 =>
    have sources : db2Listings ((db.withCorrection e).editLead lead.phone f) sourceKeys =
      db2Listings db sourceKeys := rfl
    simp only [attribution, deliveredListing, sources, sameId, samePhone, true_or, iff_true]
    cases get? lead.id (db2Listings db sourceKeys) with
    | none => rfl
    | some listing => by_cases other : listing.phone ≠ lead.phone <;> simp [other]

theorem lead?_rewritten {f : Lead → Lead} {e : LeadCorrectionEvent}
    (stored : db.lead? lead.id = some lead) (named : ∀ l, (f l).id = l.id) :
    ((db.withCorrection e).editLead lead.phone f).lead? lead.id = some (f lead) := by
  have kept : ∀ l : Lead, (if l.phone = lead.phone then f l else l).id = l.id := by
    intro l
    split
    · exact named l
    · rfl
  refine (lookup_map kept).trans ((congrArg _ stored).trans ?_)
  rw [map_some, if_pos rfl]

end

/-- A correction or its removal leaves the attribution of the Lead alone exactly if the Lead is
drawn from DB2, or was corrected already (or, for a removal, was not), or the niche of its Current
Listing is in lower case. -/
theorem correction_keeps_attribution_iff (platform : Platform) {db : Db} (keys : ListingKeys db)
    {lead : Lead} (stored : db.lead? lead.id = some lead) (database : LeadDatabase)
    (sourceKeys : List (Nat × Uuid)) {candidates : List Lead} (member : lead ∈ candidates) :
    (∀ override id now db', recordCorrection db lead override id now = .ok db' →
      ∃ lead', db'.lead? lead.id = some lead' ∧ ∀ candidates', lead' ∈ candidates' →
        (attribution platform db' database sourceKeys candidates' lead' =
            attribution platform db database sourceKeys candidates lead ↔
          database = .db2 ∨ (db.activeCorrection lead).isSome = true ∨
            ∀ o, db.currentListing lead = some o → platform.casing.lower o.niche = o.niche)) ∧
    ∀ actorId reason id now db', removeLeadCorrection db lead.id actorId reason id now = .ok db' →
      ∃ lead', db'.lead? lead.id = some lead' ∧ ∀ candidates', lead' ∈ candidates' →
        (attribution platform db' database sourceKeys candidates' lead' =
            attribution platform db database sourceKeys candidates lead ↔
          database = .db2 ∨ (db.activeCorrection lead).isSome = false ∨
            ∀ o, db.currentListing lead = some o → platform.casing.lower o.niche = o.niche) := by
  constructor
  · intro override id now db' done
    obtain ⟨e, fresh, rfl⟩ := recordCorrection_ok done
    refine ⟨correctLead e lead, lead?_rewritten stored fun _ => rfl, fun candidates' member' => ?_⟩
    have active : (db.withCorrection e).activeCorrection (correctLead e lead) = some e :=
      (lookup_append_new fresh rfl e.id).trans (if_pos rfl)
    rw [attribution_rewritten_iff keys member fresh ⟨rfl, rfl, rfl⟩ member', active,
      Option.isSome_some, eq_comm (a := true)]
  intro actorId reason id now db' done
  obtain ⟨e, _, fresh, _, rfl⟩ := removeLeadCorrection_ok stored done
  refine ⟨fallBack (underlyingEvidence db lead none) lead, lead?_rewritten stored fun _ =>
    rfl, fun candidates' member' => ?_⟩
  have active : (db.withCorrection e).activeCorrection
    (fallBack (underlyingEvidence db lead none) lead) = none := rfl
  rw [attribution_rewritten_iff keys member fresh ⟨rfl, rfl, rfl⟩ member', active,
    Option.isSome_none, eq_comm (a := false)]

def loweringPlatform : Platform :=
  { plainPlatform with casing := { plainCasing with lower := fun s => ofList (s.toList.map Char.toLower) } }

def retitling : Override :=
  { actorId := "admin", reason := "Typo", title := some "Acme Roofing", state := none }

theorem correction_keeps_attribution_plain :
    ∃ db' lead', recordCorrection listedInventory listedLead retitling 9 0 = .ok db' ∧
    db'.lead? 1 = some lead' ∧
      attribution plainPlatform db' .db1 [] [lead'] lead' =
      attribution plainPlatform listedInventory .db1 [] [listedLead] listedLead := by
  have found : (recordCorrection listedInventory listedLead retitling 9 0).isOk = true := by decide
  cases done : recordCorrection listedInventory listedLead retitling 9 0 with
  | error fault =>
    rw [done] at found
    cases found
  | ok db' =>
    have listed : listedInventory.lead? listedLead.id = some listedLead := rfl
    obtain ⟨lead', stored, alike⟩ :=
      (correction_keeps_attribution_iff plainPlatform listedInventory_keys listed .db1 []
        (mem_singleton.mpr rfl)).1 retitling 9 0 db' done
    exact ⟨db', lead', rfl, stored, (alike [lead'] (mem_singleton.mpr rfl)).mpr (.inr (.inr fun _ _ => rfl))⟩

/-- The event of the uncorrected Lead is for the niche `roofing`, that of the corrected one for
`Roofing`. -/
theorem correction_moves_niche :
    attribution loweringPlatform listedInventory .db1 [] [listedLead] listedLead =
    some ("google_maps", "TX::roofing", "roofing") ∧
      (recordCorrection listedInventory listedLead retitling 9 0).toOption.bind
      (fun db' => (db'.lead? 1).bind (fun lead' =>
        attribution loweringPlatform db' .db1 [] [lead'] lead')) =
        some ("google_maps", "TX::roofing", "Roofing") := by
  decide +kernel

end Jawnix
