import Jawnix.ScraperSync

/-!
# New-phone yield and Inventory Sync

`membership` of `phone_yield.py` asks `phone_membership` of
`acquisition_yield_api.py` which phones of a scraped file are valid and which of
them are Leads, 2,000 rows a request. The two ask more of a number than
`import_scraper_sqlite` does.
-/
namespace Jawnix

structure ScrapedRow where
  phone : Option String := none
  title : Option String := none
  state : Option String := none

structure PhoneCandidate where
  phone : String
  title : String
  state : String

variable (casing : Casing) (platform : SyncPlatform) (leads : List Lead)

def ScrapedRow.candidate (row : ScrapedRow) : PhoneCandidate where
  phone := clipped 80 (row.phone.getD "")
  title := clipped 1000 (row.title.getD "")
  state := clipped 2 (casing.upper (row.state.getD ""))

def lookupCandidates (rows : List ScrapedRow) : List PhoneCandidate :=
  (rows.filter fun row => row.phone.getD "" ≠ "").map (ScrapedRow.candidate casing)

def opensAt (i : Nat) (phone : String) : Bool := phone.toList[i]?.any ("23456789".toList.contains ·)

def PhoneCandidate.validPhone (c : PhoneCandidate) : Option String :=
  (normalizePhone platform.digit c.phone).filter fun phone =>
    strip c.title ≠ "" && opensAt 0 phone && opensAt 3 phone && platform.casing.upper c.state ∈ usStates

def phoneMembership (candidates : List PhoneCandidate) : List String × List String :=
  let valid := sortedSet (candidates.filterMap (PhoneCandidate.validPhone platform))
  (valid, sortedTexts ((leads.map Lead.phone).filter fun phone => phone ∈ valid))

def evidentPhone (phone : String) : Bool := phone.toList.length = 10 && phone.toList.all Char.isDigit

/-- One request; `none` where the lookup is unavailable or its answer no evidence. -/
def askMembership (lookup : List PhoneCandidate → Option (List String × List String))
    (found : List String × List String) (batch : List PhoneCandidate) :
    Option (List String × List String) := do
  let (valid, existing) ← lookup batch
  if (valid ++ existing).all evidentPhone ∧ existing ⊆ valid then
    some (found.1 ∪ valid, found.2 ∪ existing)
  else none

def membership (lookup : List PhoneCandidate → Option (List String × List String))
    (rows : List ScrapedRow) : Option (List String × List String) :=
  (chunks 2000 (lookupCandidates casing rows)).foldlM (askMembership lookup) ([], [])

variable (row : ScrapedRow) (phone : String)

/-- Inventory Sync marks a row with these texts valid, and stores it under `phone`. -/
def SyncsAs : Prop :=
  ∃ dataset rowNumber, phone ∈ (readListing platform dataset
    { rowNumber, phone := row.phone, company := row.title, state := row.state }).validPhone

def SyncCriteria : Prop :=
  normalizePhone platform.digit (row.phone.getD "") = some phone ∧ strip (row.title.getD "") ≠ "" ∧
    platform.casing.upper (strip (row.state.getD "")) ∈ usStates
  deriving Decidable

/-- The criteria of the lookup, of what the request keeps of a row. -/
def LookupCriteria : Prop :=
  normalizePhone platform.digit (clipped 80 (row.phone.getD "")) = some phone ∧
    strip (clipped 1000 (row.title.getD "")) ≠ "" ∧ opensAt 0 phone ∧ opensAt 3 phone ∧
    platform.casing.upper (clipped 2 (platform.casing.upper (row.state.getD ""))) ∈ usStates

/-- The two criteria agree on the row, and a phone it passes with has ASCII digits. -/
def JudgedAlike : Prop :=
  ∀ phone, (LookupCriteria platform row phone ↔ SyncCriteria platform row phone) ∧
    (SyncCriteria platform row phone → phone.toList.all Char.isDigit)

def answer (batch : List PhoneCandidate) :
    Option (List String × List String) := some (phoneMembership platform leads batch)

/-- The lookup reports the phones of these rows that Inventory Sync would store, and which of them
are Leads. -/
def MatchesSync (rows : List ScrapedRow) : Prop :=
  ∃ valid existing, membership platform.casing (answer platform leads) rows = some (valid, existing) ∧
    (∀ phone, phone ∈ valid ↔ ∃ row ∈ rows, SyncsAs platform row phone) ∧
    ∀ phone, phone ∈ existing ↔ phone ∈ valid ∧ ∃ lead ∈ leads, lead.phone = phone

variable {platform : SyncPlatform} {row : ScrapedRow} {rows : List ScrapedRow} {leads : List Lead}
  {phone : String}

theorem normalizePhone_length {digit : Char → Bool} {value : String}
    (known : normalizePhone digit value = some phone) : phone.toList.length = 10 := by
  obtain ⟨ten, same⟩ := Option.ite_none_right_eq_some.mp known
  cases same
  rwa [String.toList_ofList]

theorem syncsAs_iff : SyncsAs platform row phone ↔ SyncCriteria platform row phone := by
  have titled : orElse row.title "" = row.title.getD "" := by
    cases row.title with
    | none => rfl
    | some title =>
      by_cases empty : title = "" <;> simp [orElse, empty]
  simp only [SyncsAs, SyncCriteria, mem_def, Listing.validPhone, Listing.valid,
    Option.ite_none_right_eq_some, readListing, getD_none, titled, and_eq_true, decide_eq_true_eq]
  constructor
  · rintro ⟨_, _, ⟨⟨_, title⟩, state⟩, known⟩
    exact ⟨known, title, state⟩
  · rintro ⟨known, title, state⟩
    exact ⟨⟨[], [], nodup_nil⟩, 0, ⟨⟨by rw [known]; rfl, title⟩, state⟩, known⟩

theorem validPhone_iff : (row.candidate platform.casing).validPhone platform = some phone ↔
    LookupCriteria platform row phone := by
  simp only [PhoneCandidate.validPhone, Option.filter_eq_some_iff, and_eq_true, decide_eq_true_eq, and_assoc]
  rfl

theorem mem_lookupCandidates :
    (∃ c ∈ lookupCandidates platform.casing rows, c.validPhone platform = some phone) ↔
    ∃ row ∈ rows, (row.candidate platform.casing).validPhone platform = some phone := by
  constructor
  · rintro ⟨c, member, valid⟩
    obtain ⟨row, kept, rfl⟩ := mem_map.mp member
    exact ⟨row, (mem_filter.mp kept).1, valid⟩
  rintro ⟨row, member, valid⟩
  refine ⟨_, mem_map_of_mem (mem_filter.mpr ⟨member, decide_eq_true fun empty => ?_⟩), valid⟩
  have known := (validPhone_iff.mp valid).1
  rw [empty] at known
  cases known

theorem mem_phoneMembership {candidates : List PhoneCandidate} :
    (phone ∈ (phoneMembership platform leads candidates).1 ↔ ∃ c ∈ candidates,
      c.validPhone platform = some phone) ∧ (phone ∈ (phoneMembership platform leads candidates).2 ↔
    (∃ c ∈ candidates, c.validPhone platform = some phone) ∧ ∃ lead ∈ leads,
    lead.phone = phone) := by
  simp [phoneMembership, mem_sortedSet, sortedTexts, List.mem_insertionSort, and_comm]

def Evident (platform : SyncPlatform) (candidates : List PhoneCandidate) : Prop :=
  ∀ c ∈ candidates, ∀ phone ∈ c.validPhone platform, evidentPhone phone

theorem askMembership_iff {found next : List String × List String} {batch : List PhoneCandidate} :
    askMembership (answer platform leads) found batch = some next ↔ Evident platform batch ∧
    next = (found.1 ∪ (phoneMembership platform leads batch).1,
    found.2 ∪ (phoneMembership platform leads batch).2) := by
  have within : (phoneMembership platform leads batch).2 ⊆ (phoneMembership platform leads batch).1 :=
    fun phone member => mem_phoneMembership.1.mpr (mem_phoneMembership.2.mp member).1
  constructor
  · intro asked
    obtain ⟨⟨all, _⟩, same⟩ := Option.ite_none_right_eq_some.mp asked
    cases same
    refine ⟨fun c member phone valid => ?_, rfl⟩
    have reported : phone ∈ (phoneMembership platform leads batch).1 :=
      mem_phoneMembership.1.mpr ⟨c, member, valid⟩
    exact List.all_eq_true.mp all phone (mem_append_left _ reported)
  rintro ⟨evident, rfl⟩
  refine if_pos ⟨List.all_eq_true.mpr fun phone member => ?_, within⟩
  obtain ⟨c, inBatch, valid⟩ :=
    mem_phoneMembership.1.mp ((mem_append.mp member).elim id fun existing => within existing)
  exact evident c inBatch phone valid

/-- Of several requests there is an answer exactly if each has one, and it is their union. -/
theorem foldlM_membership {batches : List (List PhoneCandidate)} {found result : List String × List String}
    (done : batches.foldlM (askMembership (answer platform leads)) found = some result) :
    Evident platform batches.flatten ∧
    ∀ phone, (phone ∈ result.1 ↔ phone ∈ found.1 ∨ ∃ c ∈ batches.flatten,
    c.validPhone platform = some phone) ∧
    (phone ∈ result.2 ↔ phone ∈ found.2 ∨
    (∃ c ∈ batches.flatten, c.validPhone platform = some phone) ∧ ∃ lead ∈ leads, lead.phone = phone) := by
  induction batches generalizing found with
  | nil =>
    cases done
    simp [Evident]
  | cons batch rest ih =>
  rw [List.foldlM_cons] at done
  obtain ⟨next, asked, later⟩ := bind_eq_some_iff.mp done
  obtain ⟨evident, rfl⟩ := askMembership_iff.mp asked
  obtain ⟨others, reports⟩ := ih later
  refine ⟨fun c member => (mem_append.mp member).elim (evident c) (others c), fun phone => ?_⟩
  rw [(reports phone).1, (reports phone).2, List.mem_union_iff, List.mem_union_iff,
    mem_phoneMembership.1, mem_phoneMembership.2, List.flatten_cons]
  simp only [mem_append, or_and_right, exists_or, or_assoc, and_self]

theorem foldlM_membership_isSome (leads : List Lead) {batches : List (List PhoneCandidate)}
    (evident : Evident platform batches.flatten) (found : List String × List String) :
    (batches.foldlM (askMembership (answer platform leads)) found).isSome := by
  induction batches generalizing found with
  | nil => rfl
  | cons batch rest ih =>
    have here : Evident platform batch := fun c member => evident c (mem_append_left _ member)
    rw [List.foldlM_cons, askMembership_iff.mpr ⟨here, rfl⟩]
    exact ih (fun c member => evident c (mem_append_right _ member)) _

/-- The lookup matches Inventory Sync on every batch of the rows exactly if every row is judged
alike. -/
theorem membership_matches_sync (platform : SyncPlatform) (leads : List Lead) (rows : List ScrapedRow) :
    (∀ batch ⊆ rows, MatchesSync platform leads batch) ↔ ∀ row ∈ rows, JudgedAlike platform row := by
  have whole : ∀ rows, (chunks 2000 (lookupCandidates platform.casing rows)).flatten =
      lookupCandidates platform.casing rows := fun rows => flatten_chunks (Nat.zero_lt_succ 1999) _
  constructor
  · intro matched row member phone
    obtain ⟨valid, existing, done, reported, _⟩ := matched [row] (by simpa using member)
    obtain ⟨evident, sets⟩ := foldlM_membership done
    have same := (sets phone).1.symm.trans (reported phone)
    simp only [whole, mem_lookupCandidates, validPhone_iff, syncsAs_iff, mem_singleton,
      exists_eq_left, not_mem_nil, false_or] at same
    refine ⟨same, fun passes => ?_⟩
    rw [whole] at evident
    obtain ⟨c, asked, known⟩ :=
      mem_lookupCandidates.mpr ⟨row, mem_singleton_self row, validPhone_iff.mpr (same.mpr passes)⟩
    exact (and_eq_true_iff.mp (evident c asked phone known)).2
  intro alike batch within
  have same : ∀ phone, (∃ c ∈ lookupCandidates platform.casing batch, c.validPhone platform = some phone) ↔
      ∃ row ∈ batch, SyncsAs platform row phone := by
    intro phone
    simp only [mem_lookupCandidates, validPhone_iff, syncsAs_iff]
    exact exists_congr fun row => and_congr_right fun member => (alike row (within member) phone).1
  have evident : Evident platform (chunks 2000 (lookupCandidates platform.casing batch)).flatten := by
    intro c asked phone known
    rw [whole] at asked
    obtain ⟨row, member, syncs⟩ := (same phone).mp ⟨c, asked, known⟩
    have passes := syncsAs_iff.mp syncs
    rw [evidentPhone, normalizePhone_length passes.1, (alike row (within member) phone).2 passes]
    rfl
  obtain ⟨⟨valid, existing⟩, done⟩ := isSome_iff_exists.mp (foldlM_membership_isSome leads evident ([], []))
  have sets := (foldlM_membership done).2
  simp only [whole, not_mem_nil, false_or, same] at sets
  exact ⟨valid, existing, done, fun phone => (sets phone).1, fun phone =>
    by rw [(sets phone).2, (sets phone).1]⟩

theorem clipped_of_length_le {n : Nat} {s : String} (short : s.toList.length ≤ n) : clipped n s = s := by
  rw [clipped, List.take_of_length_le short, String.ofList_toList]

/-- A row is judged alike if the request keeps its texts whole, its state is written as a code and
its number has ASCII digits and 2 to 9 in the first and the fourth place. -/
theorem judgedAlike_of_plain (phones : (row.phone.getD "").toList.length ≤ 80)
    (titles : (row.title.getD "").toList.length ≤ 1000) (state : row.state.getD "" ∈ usStates)
    (number : ∀ phone, normalizePhone platform.digit (row.phone.getD "") = some phone →
      opensAt 0 phone ∧ opensAt 3 phone ∧ phone.toList.all Char.isDigit) :
    JudgedAlike platform row := by
  intro phone
  obtain ⟨stripped, _, capitals⟩ := code_normal _ state
  have two : ∀ code ∈ usStates, code.toList.length ≤ 2 := by decide
  have upper := platform.casing.upperFixed _ capitals
  simp only [LookupCriteria, SyncCriteria, clipped_of_length_le phones, clipped_of_length_le titles,
    stripped, upper, clipped_of_length_le (two _ state), state, and_true]
  refine ⟨⟨fun passes => ⟨passes.1, passes.2.1⟩, fun passes => ?_⟩, fun passes => ?_⟩
  · obtain ⟨first, fourth, _⟩ := number phone passes.1
    exact ⟨passes.1, passes.2, first, fourth⟩
  · exact (number phone passes.1).2.2

def asciiPlatform : SyncPlatform := ⟨plainCasing, Char.isDigit, fun _ => none, fun _ => none⟩

/-- Inventory Sync makes a Lead of a number whose area code begins with 0; the lookup does not
report it. -/
theorem membership_misses_number :
    let row : ScrapedRow := ⟨some "0125550100", some "Shop", some "NY"⟩
    SyncsAs asciiPlatform row "0125550100" ∧ membership plainCasing (answer asciiPlatform [])
    [row] = some ([], []) :=
  ⟨syncsAs_iff.mpr (by decide +kernel), by decide +kernel⟩

end Jawnix
