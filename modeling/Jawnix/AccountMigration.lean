import Jawnix.Models

/-!
# The user account migration

`user_account_migration.py`. The mapping file is drafted from the database, with a
selector for each Customer and its Agency, and read back by looking for the rows a
selector names: by number, by slug or by name. A completed run writes its
reconciliation to a file, which a later call verifies.
-/
namespace Jawnix

/-- `isdigit` also holds of digits that `int` refuses, such as a superscript two. -/
structure SelectorPlatform where
  casefold : String → String
  isdigit : String → Bool
  int : String → Option Nat
  independent : casefold "independent" = "independent"

variable (platform : SelectorPlatform) (db : Db)

/-- `int(selector) if selector.isdigit() else None` -/
def SelectorPlatform.numericId (selector : String) : Except Fault (Option Nat) :=
  if platform.isdigit selector then
    match platform.int selector with
    | some id => .ok (some id)
    | none => .error (.value s!"invalid literal for int() with base 10: '{selector}'")
  else .ok none

/-- The condition of `_matches_customer` and `_matches_agency` on one row. -/
def SelectorPlatform.answers (numericId : Option Nat) (selector : String) (id : Nat)
    (slug name : String) : Bool :=
  decide (numericId = some id) || decide (platform.casefold slug = platform.casefold selector) ||
    decide (platform.casefold (strip name) = platform.casefold selector)

def Customer.answers (numericId : Option Nat) (selector : String) (customer : Customer) : Bool :=
  platform.answers numericId selector customer.id customer.slug customer.name

def Agency.answers (numericId : Option Nat) (selector : String) (agency : Agency) : Bool :=
  platform.answers numericId selector agency.id agency.slug agency.name

def SelectorPlatform.matching {α : Type} (answers : Option Nat → String → α → Bool)
    (rows : List α) (selector : String) : Except Fault (List α) := do
  let numericId ← platform.numericId selector
  .ok (rows.filter (answers numericId selector))

def matchesCustomer (customers : List Customer) (selector : String) : Except Fault (List Customer) :=
  platform.matching (Customer.answers platform) customers selector

def matchesAgency (agencies : List Agency) (selector : String) : Except Fault (List Agency) :=
  if platform.casefold selector = "independent" then .ok []
  else platform.matching (Agency.answers platform) agencies selector

/-- `slug or str(id)` -/
def selectorOf (id : Nat) (slug : String) : String := if slug = "" then toString id else slug

def Db.migratable (db : Db) : List Customer :=
  db.customers.filter fun customer => customer.deletedAt = none && customer.active

def Db.presentAgencies : List Agency := db.agencies.filter fun agency => agency.deletedAt = none

/-- The Agency a draft is filled in with, be it deleted or not. -/
def draftedAgency (customer : Customer) : Option Agency :=
  customer.agencyId.bind fun id => if id = 0 then none else lookup Agency.id id db.agencies

structure MappingRow where
  customer : String
  email : String := ""
  agency : String
  migrate : String := ""
  customerName : String
  currentAgencyName : String

def draftMappingRow (customer : Customer) : MappingRow :=
  let agency := draftedAgency db customer
  { customer := selectorOf customer.id customer.slug
    agency := agency.elim "independent" (fun a => selectorOf a.id a.slug)
    customerName := customer.name
    currentAgencyName :=
      agency.elim "(independent)"
      (fun a => if a.deletedAt = none then a.name else a.name ++ " (deleted)") }

def draftMappingRows : List (Customer × MappingRow) :=
  db.migratable.map fun customer => (customer, draftMappingRow db customer)

structure PartySchema : Prop where
  customers : Keyed Customer.id db.customers
  agencies : Keyed Agency.id db.agencies
  positive : ∀ agency ∈ db.agencies, agency.id ≠ 0
  member : ∀ customer ∈ db.customers, ∀ id ∈ customer.agencyId, ∃ agency ∈ db.agencies, agency.id = id

/-- What becomes of a drafted row; `_read_rows` takes the blanks off its selectors. -/
structure Resolves (db : Db) (customer : Customer) (row : MappingRow) : Prop where
  matched : matchesCustomer platform db.migratable (strip row.customer) = .ok [customer]
  agency : ∀ agency ∈ db.presentAgencies, customer.agencyId = some agency.id →
    matchesAgency platform db.presentAgencies (strip row.agency) = .ok [agency]
  independent : platform.casefold (strip row.agency) = "independent" → customer.agencyId = none
  other : ∃ found, matchesAgency platform db.presentAgencies (strip row.agency) = .ok found ∧
    ∀ agency ∈ found, customer.agencyId = some agency.id

/-- The selector can be read, and `row` answers to it and no other one does. -/
def SelectorPlatform.Names {α : Type} (answers : Option Nat → String → α → Bool) (rows : List α)
    (selector : String) (row : α) : Prop :=
  ∃ numericId, platform.numericId selector = .ok numericId ∧
    ∀ other ∈ rows, answers numericId selector other ↔ other = row

/-- The selectors name the Customer and its Agency, and the Agency's is not the word for none. -/
structure Unmistakable (db : Db) (customer : Customer) : Prop where
  sole : platform.Names (Customer.answers platform) db.migratable
    (strip (selectorOf customer.id customer.slug)) customer
  agency : ∀ agency ∈ draftedAgency db customer,
    platform.casefold (strip (selectorOf agency.id agency.slug)) ≠ "independent" ∧
      platform.Names (Agency.answers platform) db.presentAgencies
        (strip (selectorOf agency.id agency.slug)) agency

section
variable {platform : SelectorPlatform} {db : Db} {customer : Customer}

theorem matching_ok {α : Type} {answers : Option Nat → String → α → Bool} {rows found : List α}
    {selector : String} : platform.matching answers rows selector = .ok found ↔
      ∃ numericId, platform.numericId selector = .ok numericId ∧
        rows.filter (answers numericId selector) = found := by
  unfold SelectorPlatform.matching
  cases platform.numericId selector with
  | error fault => exact ⟨nofun, nofun⟩
  | ok numericId => simp [bind, Except.bind]

/-- A search among different rows finds one of them alone exactly if its selector names it. -/
theorem matching_sole_iff {α : Type} {answers : Option Nat → String → α → Bool} {rows : List α}
    {selector : String} {row : α} (distinct : rows.Nodup) (member : row ∈ rows) :
    platform.matching answers rows selector = .ok [row] ↔ platform.Names answers rows selector row := by
  rw [matching_ok]
  refine exists_congr fun numericId => and_congr_right fun _ => ?_
  constructor
  · intro alone other inside
    have found : other ∈ rows.filter (answers numericId selector) ↔ other ∈ [row] := by rw [alone]
    rwa [mem_filter, mem_singleton, and_iff_right inside] at found
  intro names
  have sole := List.nodup_singleton row
  refine List.perm_singleton.mp ((List.perm_ext_iff_of_nodup (distinct.filter _) sole).mpr fun x => ?_)
  rw [mem_filter, mem_singleton]
  constructor
  · rintro ⟨inside, answered⟩
    exact (names x inside).mp answered
  · rintro rfl
    exact ⟨member, (names x member).mpr rfl⟩

theorem draftedAgency_iff (schema : PartySchema db) {agency : Agency} :
    draftedAgency db customer = some agency ↔
      agency ∈ db.agencies ∧ customer.agencyId = some agency.id := by
  unfold draftedAgency
  rw [bind_eq_some_iff]
  constructor
  · rintro ⟨id, isId, found⟩
    split at found
    · cases found
    obtain ⟨member, rfl⟩ := lookup_some found
    exact ⟨member, isId⟩
  · rintro ⟨member, isId⟩
    refine ⟨agency.id, isId, ?_⟩
    rw [if_neg (schema.positive agency member), lookup_of_mem schema.agencies member]

/-- The Agency's part of a drafted row, for a Customer that has one. -/
theorem agency_resolves_iff (schema : PartySchema db) {agency : Agency} {selector : String}
    (member : agency ∈ db.agencies) (joins : customer.agencyId = some agency.id)
    (named : platform.casefold selector ≠ "independent") :
    ((∀ a ∈ db.presentAgencies, customer.agencyId = some a.id →
        matchesAgency platform db.presentAgencies selector = .ok [a]) ∧
      ∃ found, matchesAgency platform db.presentAgencies selector = .ok found ∧
        ∀ a ∈ found, customer.agencyId = some a.id) ↔
      platform.Names (Agency.answers platform) db.presentAgencies selector agency := by
  have same : ∀ a ∈ db.presentAgencies, customer.agencyId = some a.id → a = agency :=
    fun a present also => eq_of_mem_of_key schema.agencies (mem_filter.mp present).1 member
      (some.inj (also.symm.trans joins))
  have alone : agency ∈ db.presentAgencies →
      (platform.matching (Agency.answers platform) db.presentAgencies selector = .ok [agency] ↔
        platform.Names (Agency.answers platform) db.presentAgencies selector agency) :=
    matching_sole_iff (schema.agencies.of_map.filter _)
  simp only [matchesAgency, if_neg named]
  constructor
  · rintro ⟨own, found, reads, others⟩
    obtain ⟨numericId, isNumber, rfl⟩ := matching_ok.mp reads
    refine ⟨numericId, isNumber, fun a present => ⟨fun answered => ?_, ?_⟩⟩
    · exact same a present (others a (mem_filter.mpr ⟨present, answered⟩))
    rintro rfl
    obtain ⟨number, isNumber', names⟩ := (alone present).mp (own a present joins)
    cases isNumber.symm.trans isNumber'
    exact (names a present).mpr rfl
  intro names
  obtain ⟨numericId, isNumber, only⟩ := id names
  refine ⟨fun a present also => ?_, _, matching_ok.mpr ⟨numericId, isNumber, rfl⟩, fun a found => ?_⟩
  · cases same a present also
    exact (alone present).mpr names
  obtain ⟨present, answered⟩ := mem_filter.mp found
  rw [(only a present).mp answered]
  exact joins

theorem resolves_iff (schema : PartySchema db) (drafted : customer ∈ db.migratable) :
    Resolves platform db customer (draftMappingRow db customer) ↔ Unmistakable platform db customer := by
  have stored := (mem_filter.mp drafted).1
  have alone : matchesCustomer platform db.migratable (strip (draftMappingRow db customer).customer) =
      .ok [customer] ↔ _ := matching_sole_iff (schema.customers.of_map.filter _) drafted
  cases isAgency : draftedAgency db customer with
  | none =>
    have unaffiliated : customer.agencyId = none := by
      cases isId : customer.agencyId with
      | none => rfl
      | some id =>
        obtain ⟨agency, member, rfl⟩ := schema.member customer stored id isId
        exact nomatch isAgency.symm.trans ((draftedAgency_iff schema).mpr ⟨member, isId⟩)
    have row : strip (draftMappingRow db customer).agency = "independent" := by
      have word : strip "independent" = "independent" := by decide +kernel
      rw [draftMappingRow, isAgency]
      exact word
    have nothing : matchesAgency platform db.presentAgencies
        (strip (draftMappingRow db customer).agency) = .ok [] := by
      rw [row, matchesAgency, if_pos platform.independent]
    constructor
    · intro resolves
      exact ⟨alone.mp resolves.matched, by simp [isAgency]⟩
    intro clear
    refine ⟨alone.mpr clear.sole, fun agency _ isMember => ?_, fun _ => unaffiliated, [], nothing, nofun⟩
    exact nomatch unaffiliated.symm.trans isMember
  | some agency =>
    obtain ⟨member, joins⟩ := (draftedAgency_iff schema).mp isAgency
    have row : (draftMappingRow db customer).agency = selectorOf agency.id agency.slug := by
      rw [draftMappingRow, isAgency]
      rfl
    constructor
    · intro resolves
      have named : platform.casefold (strip (selectorOf agency.id agency.slug)) ≠ "independent" :=
        fun word => nomatch joins.symm.trans (resolves.independent (row ▸ word))
      refine ⟨alone.mp resolves.matched, fun a same => ?_⟩
      cases isAgency.symm.trans same
      exact ⟨named, (agency_resolves_iff schema member joins named).mp
        (row ▸ ⟨resolves.agency, resolves.other⟩)⟩
    intro clear
    obtain ⟨named, names⟩ := clear.agency agency isAgency
    obtain ⟨own, other⟩ := (agency_resolves_iff schema member joins named).mpr names
    rw [← row] at named own other
    exact ⟨alone.mpr clear.sole, own, fun word => absurd word named, other⟩

/-- Every drafted selector resolves exactly if it can be read, names its row and no other one, and
no Agency has the reserved word. -/
theorem drafted_selectors_resolve_iff (platform : SelectorPlatform) {db : Db} (schema : PartySchema db) :
    (∀ drafted ∈ draftMappingRows db, Resolves platform db drafted.1 drafted.2) ↔
      ∀ customer ∈ db.migratable, Unmistakable platform db customer := by
  unfold draftMappingRows
  simp only [List.forall_mem_map]
  exact forall₂_congr fun customer drafted => resolves_iff schema drafted

end

def plainSelectors : SelectorPlatform where
  casefold := id
  isdigit text := text.toList.all fun c => c.isDigit || c = '²'
  int text :=
    if text.toList.all Char.isDigit then
      some (text.toList.foldl (fun n c => 10 * n + (c.toNat - 48)) 0) else none
  independent := rfl

/-- The second Customer is named like the slug of the first, whose Agency has the reserved word for
its slug, and the third has a digit for its slug that is no decimal one. -/
def mistakableParties : Db :=
  { agencies := [{ id := 1, slug := "independent" }]
    customers :=
      [{ id := 1, slug := "acme", agencyId := some 1 }, { id := 2, slug := "two", name := "acme" },
      { id := 3, slug := "²" }] }

theorem drafted_selectors_resolve_mistakable : PartySchema mistakableParties ∧
    ((∀ drafted ∈ draftMappingRows mistakableParties,
      Resolves plainSelectors mistakableParties drafted.1 drafted.2) ↔
        ∀ customer ∈ mistakableParties.migratable,
        Unmistakable plainSelectors mistakableParties customer) := by
  have schema : PartySchema mistakableParties := ⟨by decide, by decide, by decide, by decide⟩
  exact ⟨schema, drafted_selectors_resolve_iff plainSelectors schema⟩

/-- A slug that is another's name too, an Agency called `independent` and a digit that `int`
refuses. -/
theorem drafted_selectors_mistaken :
    (draftMappingRows mistakableParties).map (fun drafted => (drafted.1.agencyId, strip drafted.2.agency,
      (matchesCustomer plainSelectors mistakableParties.migratable (strip drafted.2.customer)).map
        (·.map Customer.id))) =
      [(some 1, "independent", .ok [1, 2]), (none, "independent", .ok [2]),
        (none, "independent", .error (.value "invalid literal for int() with base 10: '²'"))] := by
  decide +kernel

/-- JSON texts of the artifact's document, with what the code reads off one. No proper part of a
text from its start on is a text itself, and a line feed at its end does not count. -/
structure ArtifactCodec (δ : Type) where
  dumps : δ → List Char
  loads : List Char → Except String δ
  artifactSha256 : δ → String
  artifactChecksum : δ → String
  loads_dumps : ∀ document, loads (dumps document) = .ok document
  loads_line : ∀ document, loads (dumps document ++ ['\n']) = .ok document
  loads_torn : ∀ document n, n < (dumps document).length →
    ∃ message, loads ((dumps document).take n) = .error message

structure CompletedRun {δ : Type} (codec : ArtifactCodec δ) where
  planChecksum : String
  checksum : String
  document : δ
  named : codec.artifactSha256 document = checksum
  recorded : codec.artifactChecksum document = checksum

/-- How the process ends that is about to write the file: a crash comes before it is created or
tears the write, or the write fails and is undone. -/
inductive WriteEnd where
  | written | crashedBefore | crashedAfter (octets : Nat) | failed

section
variable {δ : Type} {codec : ArtifactCodec δ} (run : CompletedRun codec)

def verifies (codec : ArtifactCodec δ) (checksum : String) (text : List Char) : Except Fault Unit :=
  match codec.loads text with
  | .error message => .error (.value message)
  | .ok found =>
    if codec.artifactSha256 found ≠ checksum ∨ codec.artifactChecksum found ≠ checksum then
      .error (.runtime "Existing reconciliation artifact failed checksum validation.")
    else .ok ()

def CompletedRun.payload : List Char := codec.dumps run.document ++ ['\n']

/-- The file that is left, and the answer unless the process has crashed. -/
def CompletedRun.writeArtifact (ending : WriteEnd) :
    Option (List Char) → Option (List Char) × Option (Except Fault String)
  | some text => (some text, some ((verifies codec run.checksum text).map fun _ => run.checksum))
  | none =>
    match ending with
    | .written => (some run.payload, some (.ok run.checksum))
    | .crashedBefore => (none, none)
    | .crashedAfter octets => (some (run.payload.take octets), none)
    | .failed => (none, some (.error (.runtime "OSError")))

/-- A call for the completed run, with the checksum of the plan that was approved. -/
def CompletedRun.apply (plan : String) (ending : WriteEnd) (file : Option (List Char)) :
    Option (List Char) × Option (Except Fault String) :=
  if run.planChecksum ≠ plan then
    (file, some (.error (.value "Existing migration journal has a different approved plan.")))
  else run.writeArtifact ending file

def CompletedRun.fileAfter (calls : List (String × WriteEnd)) : Option (List Char) :=
  Runs.run (fun file (call : String × WriteEnd) => (run.apply call.1 call.2 file).1) none calls

/-- How much of the file a call leaves that finds none. -/
def CompletedRun.leaves (call : String × WriteEnd) : Option Nat :=
  if call.1 ≠ run.planChecksum then none
  else
    match call.2 with
    | .written => some run.payload.length
    | .crashedAfter octets => some octets
    | .crashedBefore | .failed => none

theorem CompletedRun.apply_file (call : String × WriteEnd) (file : Option (List Char)) :
    (run.apply call.1 call.2 file).1 = file.or ((run.leaves call).map run.payload.take) := by
  obtain ⟨plan, ending⟩ := call
  unfold CompletedRun.apply CompletedRun.leaves
  by_cases approved : plan = run.planChecksum
  · cases file <;> cases ending <;> simp [approved, CompletedRun.writeArtifact]
  · simp [approved, Ne.symm approved]

/-- The first call that leaves something of the file leaves it for good. -/
theorem CompletedRun.fileAfter_eq (calls : List (String × WriteEnd)) :
    run.fileAfter calls = (calls.filterMap run.leaves).head?.map run.payload.take := by
  have kept : ∀ file, Runs.run (fun file (call : String × WriteEnd) =>
    (run.apply call.1 call.2 file).1) file calls =
      file.or ((calls.filterMap run.leaves).head?.map run.payload.take) := by
    induction calls with
    | nil => simp [Runs.run]
    | cons call calls ih =>
      intro file
      rw [Runs.run, List.foldl_cons, run.apply_file]
      refine (ih _).trans ?_
      rw [Option.or_assoc]
      cases leaves : run.leaves call <;> simp [leaves]
  exact (kept none).trans Option.none_or

theorem CompletedRun.verifies_take_iff (octets : Nat) :
    verifies codec run.checksum (run.payload.take octets) = .ok () ↔ run.payload.length ≤ octets + 1 := by
  have length : run.payload.length = (codec.dumps run.document).length + 1 := List.length_append
  unfold verifies
  by_cases torn : octets < (codec.dumps run.document).length
  · obtain ⟨message, raised⟩ := codec.loads_torn run.document octets torn
    rw [CompletedRun.payload, List.take_append_of_le_length torn.le, raised, ← CompletedRun.payload]
    exact ⟨nofun, fun whole => by omega⟩
  have whole : codec.loads (run.payload.take octets) = .ok run.document := by
    rcases Nat.eq_or_lt_of_le (not_lt.mp torn) with exact | longer
    · rw [CompletedRun.payload, ← exact, List.take_left]
      exact codec.loads_dumps _
    · rw [List.take_of_length_le (by omega)]
      exact codec.loads_line _
  rw [whole]
  simp only [run.named, run.recorded, ne_eq, not_true_eq_false, or_self, if_false, true_iff]
  omega

/-- After any calls and crashes, one with the approved plan that is not interrupted answers with the
stored checksum and leaves a file that verifies, exactly if the call that created the file did not
crash before its last octet but one was written. -/
theorem completed_run_reproducible_iff (run : CompletedRun codec) (calls : List (String × WriteEnd)) :
    let last := run.apply run.planChecksum .written (run.fileAfter calls)
    (last.2 = some (.ok run.checksum) ∧ ∃ text ∈ last.1, verifies codec run.checksum text = .ok ()) ↔
      ∀ octets ∈ (calls.filterMap run.leaves).head?, run.payload.length ≤ octets + 1 := by
  intro last
  have here : last = run.writeArtifact .written (run.fileAfter calls) := if_neg (not_not.mpr rfl)
  rw [here, run.fileAfter_eq]
  cases (calls.filterMap run.leaves).head? with
  | none =>
    have written : verifies codec run.checksum run.payload = .ok () := by
      have whole := (run.verifies_take_iff run.payload.length).mpr (Nat.le_succ _)
      rwa [List.take_length] at whole
    exact ⟨fun _ _ => nofun, fun _ => ⟨rfl, _, rfl, written⟩⟩
  | some octets =>
    simp only [Option.map_some, Option.mem_some, forall_eq', ← run.verifies_take_iff octets]
    cases good : verifies codec run.checksum (run.payload.take octets) <;>
      simp [CompletedRun.writeArtifact, good, Except.map]

end

/-- One document. -/
def lineCodec : ArtifactCodec Unit where
  dumps _ := "\x7b\x7d".toList
  loads text := if text ∈ ["\x7b\x7d".toList, "\x7b\x7d\n".toList] then .ok () else .error "Expecting value"
  artifactSha256 _ := "5e"
  artifactChecksum _ := "5e"
  loads_dumps _ := rfl
  loads_line _ := rfl
  loads_torn _ n short := by
    have all : ∀ n < 2, "\x7b\x7d".toList.take n ∉ ["\x7b\x7d".toList, "\x7b\x7d\n".toList] := by decide
    exact ⟨_, if_neg (all n short)⟩

/-- After a crash in the middle of the write no later call succeeds. -/
theorem torn_artifact_stays :
    let run : CompletedRun lineCodec :=
      { planChecksum := "p", checksum := "5e", document := (), named := rfl, recorded := rfl }
    run.fileAfter [("p", .crashedAfter 1), ("p", .written)] = some ['{'] ∧
      (run.apply "p" .written (some ['{'])).2 = some (.error (.value "Expecting value")) := by
  decide

end Jawnix
