import Jawnix.Library.Relational
import Jawnix.Models

/-!
# Inventory routing and immutable DB2 listings

`lead_databases.py`: a Customer draws from one inventory database. DB1 Leads
carry their own listing; a DB2 Lead is joined to the one upload it is currently
published from, and its listing is read back from the physical DB2.
-/
namespace Jawnix

/-- The column is not nullable, so the source's `or "db1"` never applies. -/
def inventoryDatabase (customer : Customer) : LeadDatabase := customer.leadDatabase

structure InventoryRow where
  lead : Lead
  mapping : Option SourceNicheMapping := none
  assignment : Option NicheAssignment := none
  membership : Option LeadDatabaseMembership := none

def inventoryScope (db : Db) (database : LeadDatabase) (rows : List InventoryRow) : List InventoryRow :=
  match database with
  | .db1 => rows.filter (fun row => row.lead.inDb1)
  | .db2 =>
    (Relational.innerJoin rows db.memberships fun row m => m.leadId = row.lead.id).map
      (fun p => { p.1 with membership := some p.2 })

/-- A global Lead Correction still outranks source listing information. -/
def inventoryState (database : LeadDatabase) (row : InventoryRow) : String :=
  match database, row.membership with
  | .db2, some m => if row.lead.activeCorrectionId.isSome then row.lead.state else m.state
  | _, _ => row.lead.state

structure SourceListing where
  phone : String
  title : String
  state : String
  uploadId : Uuid
  ownerId : Uuid
  rowNumber : Nat
  sourceKind : String := "csv_upload"
  segmentKey : String := "db2"
  niche : String := ""

def Db2InventoryRow.listing (row : Db2InventoryRow) : SourceListing :=
  { phone := row.phone, title := row.title, state := row.state, uploadId := row.uploadId,
    ownerId := row.ownerId, rowNumber := row.rowNumber }

/-- The rows one statement fetches: the exact versions of one slice of keys, by upload. -/
def db2Rows (db : Db) (keys : List (Nat × Uuid)) : List Db2InventoryRow :=
  let grouped := groupBy Prod.snd keys
  db.db2Rows.filter (fun row => grouped.any (fun (uploadId, group) =>
    row.uploadId = uploadId && row.leadId ∈ group.map Prod.fst))

def db2Listings (db : Db) (sourceKeys : List (Nat × Uuid)) : List (Nat × SourceListing) :=
  (chunks 1000 sourceKeys).foldl
    (fun result keys => Dict.update Db2InventoryRow.leadId Db2InventoryRow.listing result
      (db2Rows db keys)) []

variable {db : Db} {keys : List (Nat × Uuid)}

theorem inventoryScope_leads (keyed : Keyed LeadDatabaseMembership.leadId db.memberships)
    (database : LeadDatabase) (rows : List InventoryRow) :
    ((inventoryScope db database rows).map InventoryRow.lead).Sublist (rows.map InventoryRow.lead) := by
  cases database with
  | db1 => exact filter_sublist.map InventoryRow.lead
  | db2 =>
  have pins : Relational.Pins db.memberships
      (fun (row : InventoryRow) m => m.leadId = row.lead.id) := by
    apply Relational.pins_of_keyed (fun row => some row.lead.id) keyed
    intro row m named
    exact congrArg some (of_decide_eq_true named).symm
  have joined := (Relational.innerJoin_fst_sublist pins rows).map InventoryRow.lead
  simpa [inventoryScope, comp_def] using joined

theorem mem_chunk {chunk : List (Nat × Uuid)} (member : chunk ∈ chunks 1000 keys) :
    ∀ k ∈ chunk, k ∈ keys := by
  intro k inChunk
  rw [← flatten_chunks (by decide : 0 < 1000) keys]
  exact List.mem_flatten.mpr ⟨chunk, member, inChunk⟩

theorem mem_db2Rows {row : Db2InventoryRow} (member : row ∈ db2Rows db keys) :
    row ∈ db.db2Rows ∧ (row.leadId, row.uploadId) ∈ keys := by
  obtain ⟨stored, selected⟩ := mem_filter.mp member
  refine ⟨stored, ?_⟩
  obtain ⟨⟨uploadId, group⟩, inGroups, found⟩ := any_eq_true.mp selected
  simp only [and_eq_true, decide_eq_true_eq, mem_map] at found
  obtain ⟨rfl, ⟨leadId, upload⟩, inGroup, named⟩ := found
  obtain ⟨inKeys, grouped⟩ := Dict.mem_groupBy inGroups _ inGroup
  simp only at named grouped
  rw [← named, ← grouped]
  exact inKeys

theorem db2Listings_get {leadId : Nat} {listing : SourceListing}
    (found : get? leadId (db2Listings db keys) = some listing) :
    ∃ row ∈ db.db2Rows, (leadId, row.uploadId) ∈ keys ∧ row.leadId = leadId ∧ row.listing = listing := by
  have read : ∀ (chunks : List (List (Nat × Uuid))) (d : List (Nat × SourceListing)),
    (∀ chunk ∈ chunks, ∀ k ∈ chunk, k ∈ keys) →
      get? leadId (chunks.foldl (fun result keys =>
        Dict.update Db2InventoryRow.leadId Db2InventoryRow.listing result (db2Rows db keys)) d) =
          some listing →
      get? leadId d = some listing ∨
        ∃ row ∈ db.db2Rows, (leadId, row.uploadId) ∈ keys ∧ row.leadId = leadId ∧ row.listing = listing := by
    intro chunks
    induction chunks with
    | nil => exact fun d _ h => .inl h
    | cons chunk chunks ih =>
    intro d within h
    rcases ih _ (fun c member => within c (mem_cons_of_mem chunk member)) h with earlier | late
    · rcases Dict.get?_update earlier with before | ⟨row, member, named, same⟩
      · exact .inl before
      obtain ⟨stored, inChunk⟩ := mem_db2Rows member
      exact .inr ⟨row, stored, named ▸ within chunk mem_cons_self _ inChunk, named, same⟩
    · exact .inr late
  rcases read _ [] (fun chunk member => mem_chunk member) found with empty | stored
  · cases empty
  · exact stored

end Jawnix
