import Jawnix.PoolAnalytics
import Jawnix.States

/-!
# Niche policy drafts

`niche_policy.py` normalises the rows an administrator enters, stores them, and
projects the inventory of a draft that is not stored. The stored policy is compared
by the database's `lower` on both sides, the draft by the interpreter's `casefold`
against the database's `lower`.
-/
namespace Jawnix

/-- The interpreter's case folding and the database's order of policy rows. -/
structure PolicyPlatform extends Casing where
  casefold : String → String
  ordersBefore : NichePolicyRow → NichePolicyRow → Bool

structure PolicyInput where
  state : Option String := none
  mode : String
  niches : List String

/-- One case-folded Niche per record. -/
structure NormalizedRow where
  state : Option String
  mode : PolicyMode
  niche : String
  deriving DecidableEq

/-! ## Normalisation -/

structure PolicyPass where
  normalized : List NormalizedRow := []
  seenStates : List (Option String × PolicyMode) := []
  seen : List (Option String × String) := []

def PolicyMode.text : PolicyMode → String
  | .exclude => "exclude"
  | .only => "only"

def parseMode (text : String) : Option PolicyMode :=
  if text = "exclude" then some .exclude else if text = "only" then some .only else none

variable (platform : PolicyPlatform) (rows : List PolicyInput) (normalized : List NormalizedRow)

/-- `str(state_value).strip().upper() if state_value else None`. -/
def PolicyInput.stateCode (row : PolicyInput) : Option String :=
  row.state.bind fun value => if value = "" then none else some (platform.upper (strip value))

def takeNiche (state : Option String) (mode : PolicyMode) (pass : PolicyPass)
    (raw : String) : Except Fault PolicyPass :=
  let niche := strip raw
  if niche = "" then .error (.value "Niches cannot be blank.")
  else if 160 < niche.length then .error (.value "Niches must be at most 160 characters.")
  else
    let key := (state, platform.casefold niche)
    if key ∈ pass.seen then .ok pass
    else .ok
      { pass with seen := pass.seen ++ [key], normalized := pass.normalized ++ [{ state, mode, niche }] }

def takeRow (pass : PolicyPass) (row : PolicyInput) : Except Fault PolicyPass :=
  let state := row.stateCode platform
  if state.any (fun code => code ∉ usStates) then
    .error (.value ("Unsupported state code: " ++ state.getD "" ++ "."))
  else
    match parseMode (platform.casefold (strip row.mode)) with
    | none => .error (.value "Niche Policy mode must be 'exclude' or 'only'.")
    | some mode =>
      if (get? state pass.seenStates).any (fun prior => prior ≠ mode) then
        .error (.value (state.getD "all-states" ++ " cannot mix exclude and only modes."))
      else if row.niches = [] then .error (.value "Each Niche Policy row needs at least one Niche.")
      else row.niches.foldlM (takeNiche platform state mode)
        { pass with seenStates := Dict.set state mode pass.seenStates }

def normalizePolicyRows : Except Fault (List NormalizedRow) :=
  (rows.foldlM (takeRow platform) {}).map PolicyPass.normalized

/-! ## The stored policy -/

def NormalizedRow.stored (customerId : Nat) (row : NormalizedRow) : NichePolicyRow :=
  { customerId, state := row.state, mode := row.mode, niche := row.niche }

def loadPolicy (db : Db) (customerId : Nat) : List PolicyInput :=
  let rows := (db.nichePolicies.filter fun row => row.customerId = customerId).insertionSort
    (fun a b => platform.ordersBefore a b)
  (groupBy (fun row => (row.state, row.mode)) rows).map (fun group =>
    { state := group.1.1, mode := group.1.2.text, niches := group.2.map NichePolicyRow.niche })

def Db.withPolicy (db : Db) (customerId : Nat) (normalized : List NormalizedRow) : Db :=
  { db with nichePolicies := db.nichePolicies.filter (fun row => row.customerId ≠ customerId) ++
                               normalized.map (NormalizedRow.stored customerId) }

def replacePolicy (db : Db) (customerId : Nat) (rows : List PolicyInput) :
    Except Fault (Db × List PolicyInput) := do
  let normalized ← normalizePolicyRows platform rows
  let db := db.withPolicy customerId normalized
  return (db, loadPolicy platform db customerId)

/-! ## The draft -/

def statePart (stateRows : List NormalizedRow) (niche : Option String) : Bool :=
  let niches := stateRows.map (fun row => platform.casefold row.niche)
  match stateRows.head?.map NormalizedRow.mode with
  | some .exclude => niche.isNone || niche.any (fun n => platform.sqlLower n ∉ niches)
  | some .only => niche.any (fun n => platform.sqlLower n ∈ niches)
  | none => false -- no group is empty

/-- `state_match`: the default applies where no state is listed. -/
def stateMatch (specificStates : List String) (state : String) : Option String → Bool
  | none => state ∉ specificStates
  | some code => state = code

def draftClause (niche : Option String) (state : String) : Bool :=
  if normalized = [] then true
  else
    let byState := groupBy NormalizedRow.state normalized
    let specificStates := byState.filterMap Prod.fst
    let parts :=
      byState.map (fun group => stateMatch specificStates state group.1 &&
      statePart platform group.2 niche)
    -- unlisted states with no default: all niches allowed
    let unlisted := specificStates ≠ [] && none ∉ byState.map Prod.fst && state ∉ specificStates
    parts.any id || unlisted

def policyClauseForRows :
    Except Fault (Option String → String → Bool) := do
  let normalized ← normalizePolicyRows platform rows
  return draftClause platform normalized

def admitsForRows (nicheFilter : Option String → String → Bool) (db : Db) (request : LeadRequest)
    (customer : Customer) (instant : Instant) (row : InventoryRow) : Bool :=
  let state := inventoryState (inventoryDatabase customer) row
  state ∈ request.statesSnapshot && !row.lead.suppressed &&
    !coolingDown db customer instant row.lead && !previouslySent db customer row.lead &&
    !activelyHeld db row.lead && !excludedPhone db request.customerId row.lead &&
    nicheFilter (effectiveNiche row.mapping row.assignment) state

def eligibleQueryForRows (db : Db) (request : LeadRequest)
    (customer : Customer) (instant : Instant) : Except Fault (List InventoryRow) := do
  let nicheFilter ← policyClauseForRows platform rows
  return ((poolRows db customer).filter
    (admitsForRows nicheFilter db request customer instant)).insertionSort
    (fun a b => agesBefore a b)

def projectCustomerAvailability (db : Db) (customer : Customer)
    (asOf : Instant) : Except Fault Nat :=
  if customer.licensedStates = [] then .ok 0
  else (eligibleQueryForRows platform rows db (projectionRequest customer asOf) customer asOf).map
    List.length

/-! ## What normalisation accepts -/

/-- States have one mode, no Niche of a state comes twice up to case, and every record would pass
its column checks. -/
structure PolicyPass.Sound (pass : PolicyPass) : Prop where
  modes : ∀ row ∈ pass.normalized, get? row.state pass.seenStates = some row.mode
  keys : pass.seen = pass.normalized.map (fun row => (row.state, platform.casefold row.niche))
  distinct : pass.seen.Nodup
  codes : ∀ row ∈ pass.normalized, ∀ code ∈ row.state, code ∈ usStates
  niches : ∀ row ∈ pass.normalized, row.niche ≠ "" ∧ row.niche.length ≤ 160

section
variable {platform : PolicyPlatform} {pass after : PolicyPass} {state : Option String}
  {mode : PolicyMode} {raw : String} {row : PolicyInput}

theorem takeNiche_cases (done : takeNiche platform state mode pass raw = .ok after) :
    strip raw ≠ "" ∧ (strip raw).length ≤ 160 ∧
    ((state, platform.casefold (strip raw)) ∈ pass.seen ∧ after = pass ∨
        (state, platform.casefold (strip raw)) ∉ pass.seen ∧
          after = { pass with seen := pass.seen ++ [(state, platform.casefold (strip raw))],
                              normalized := pass.normalized ++ [{ state, mode, niche := strip raw }] }) := by
  unfold takeNiche at done
  dsimp only at done
  obtain ⟨filled, done⟩ := guard_ok done
  obtain ⟨fits, done⟩ := guard_ok done
  refine ⟨filled, Nat.le_of_not_lt fits, ?_⟩
  split at done
  case isTrue known => exact .inl ⟨known, (ok.inj done).symm⟩
  case isFalse fresh => exact .inr ⟨fresh, (ok.inj done).symm⟩

theorem PolicyPass.Sound.takeNiche (sound : pass.Sound platform)
    (moded : get? state pass.seenStates = some mode) (coded : ∀ code ∈ state, code ∈ usStates)
    (done : takeNiche platform state mode pass raw = .ok after) :
    after.Sound platform ∧ after.seenStates = pass.seenStates := by
  obtain ⟨filled, fits, ⟨_, rfl⟩ | ⟨fresh, rfl⟩⟩ := takeNiche_cases done
  · exact ⟨sound, rfl⟩
  refine ⟨⟨?_, ?_, ?_, ?_, ?_⟩, rfl⟩
  · exact List.forall_mem_append.mpr ⟨sound.modes, List.forall_mem_singleton.mpr moded⟩
  · rw [map_append, ← sound.keys]
    rfl
  · change (pass.seen ++ [_]).Nodup
    rw [← List.concat_eq_append]
    exact sound.distinct.concat fresh
  · exact List.forall_mem_append.mpr ⟨sound.codes, List.forall_mem_singleton.mpr coded⟩
  · exact List.forall_mem_append.mpr ⟨sound.niches, List.forall_mem_singleton.mpr ⟨filled, fits⟩⟩

theorem takeRow_cases (done : takeRow platform pass row = .ok after) :
    ∃ mode, (∀ code ∈ row.stateCode platform, code ∈ usStates) ∧
    parseMode (platform.casefold (strip row.mode)) = some mode ∧
      (∀ prior ∈ get? (row.stateCode platform) pass.seenStates, prior = mode) ∧ row.niches ≠ [] ∧
      row.niches.foldlM (takeNiche platform (row.stateCode platform) mode)
        { pass with seenStates := Dict.set (row.stateCode platform) mode pass.seenStates } = .ok after := by
  obtain ⟨coded, done⟩ := guard_ok done
  split at done
  · cases done
  case h_2 mode parsed =>
  obtain ⟨agreed, done⟩ := guard_ok done
  obtain ⟨listed, done⟩ := guard_ok done
  refine ⟨mode, fun code member => ?_, parsed, fun prior member => ?_, listed, done⟩
  · rw [mem_def] at member
    simpa [member] using coded
  · rw [mem_def] at member
    simpa [member] using agreed

theorem PolicyPass.Sound.takeRow (sound : pass.Sound platform)
    (done : takeRow platform pass row = .ok after) : after.Sound platform := by
  obtain ⟨mode, coded, _, agreed, _, folded⟩ := takeRow_cases done
  have entered : PolicyPass.Sound platform
      { pass with seenStates := Dict.set (row.stateCode platform) mode pass.seenStates } := by
    refine ⟨fun old member => ?_, sound.keys, sound.distinct, sound.codes, sound.niches⟩
    change get? old.state (Dict.set _ _ _) = _
    rw [Dict.get?_set]
    split
    case isTrue same =>
      have prior := sound.modes old member
      rw [← same] at prior
      rw [agreed old.mode prior]
    · exact sound.modes old member
  have moded : get? (row.stateCode platform)
    (Dict.set (row.stateCode platform) mode pass.seenStates) = some mode := by
    rw [Dict.get?_set, if_pos rfl]
  refine (Runs.foldlM_invariant (I := fun p => p.Sound platform ∧
    get? (row.stateCode platform) p.seenStates = some mode)
    (fun p raw q held step => ?_) ⟨entered, moded⟩ folded).1
  obtain ⟨kept, states⟩ := held.1.takeNiche held.2 coded step
  exact ⟨kept, states ▸ held.2⟩

theorem normalizePolicyRows_sound {rows : List PolicyInput} {normalized : List NormalizedRow}
    (accepted : normalizePolicyRows platform rows = .ok normalized) :
    ∃ pass : PolicyPass, pass.Sound platform ∧ pass.normalized = normalized := by
  unfold normalizePolicyRows at accepted
  cases folded : rows.foldlM (Jawnix.takeRow platform) {} with
  | error fault =>
    rw [folded] at accepted
    cases accepted
  | ok pass =>
    rw [folded] at accepted
    have empty : PolicyPass.Sound platform {} := ⟨nofun, rfl, nodup_nil, nofun, nofun⟩
    exact ⟨pass, Runs.foldlM_invariant (fun p row q held step => held.takeRow step) empty folded,
      ok.inj accepted⟩

end

/-! ## The rows that apply in a state -/

def draftScope (state : String) : List NormalizedRow :=
  let stateOverride := normalized.any (fun row => row.state = some state)
  normalized.filter fun row => decide (row.state = some state) || (row.state.isNone && !stateOverride)

/-- The Niche is one of the rows', each in the given spelling. -/
def Names (spelling : String → String) (rows : List NormalizedRow) (niche : Option String) : Prop :=
  ∃ n ∈ niche, platform.sqlLower n ∈ rows.map fun row => spelling row.niche

instance (platform : PolicyPlatform) (spelling : String → String) (rows : List NormalizedRow)
    (niche : Option String) : Decidable (Names platform spelling rows niche) :=
  decidable_of_iff
    (niche.any (fun n => decide (platform.sqlLower n ∈ rows.map fun row => spelling row.niche)))
    (by simp only [Names, Option.any_eq_true, decide_eq_true_eq]; rfl)

/-- The rows that apply name the Niche in the database's spelling if and only if they do in the
interpreter's. -/
def SpelledAlike (niche : Option String) (state : String) : Prop :=
  Names platform platform.sqlLower (draftScope normalized state) niche ↔
    Names platform platform.casefold (draftScope normalized state) niche
  deriving Decidable

section
variable {platform : PolicyPlatform} {normalized : List NormalizedRow} {state : String}
  {niche : Option String} (db : Db) (customerId : Nat) {key : Option String}

/-- A state with rows of its own takes those, any other the all-states default. -/
def scopeKey (normalized : List NormalizedRow) (state : String) : Option String :=
  if ∃ row ∈ normalized, row.state = some state then some state else none

theorem draftScope_eq (normalized : List NormalizedRow) (state : String) :
    draftScope normalized state = normalized.filter fun row => row.state = scopeKey normalized state := by
  unfold draftScope scopeKey
  split
  case isTrue listed =>
    have overridden : normalized.any fun row => row.state = some state := by simpa using listed
    simp [overridden]
  case isFalse unlisted =>
  have default : normalized.any (fun row => row.state = some state) = false := by simpa using unlisted
  refine List.filter_congr fun row member => ?_
  have other : row.state ≠ some state := fun same => unlisted ⟨row, member, same⟩
  cases coded : row.state with
  | none => simp [default]
  | some code =>
    rw [coded] at other
    simp [other]

theorem draftScope_modes {pass : PolicyPass} (sound : pass.Sound platform)
    {row other : NormalizedRow} (first : row ∈ draftScope pass.normalized state)
    (second : other ∈ draftScope pass.normalized state) : row.mode = other.mode := by
  have same : row.state = other.state := by
    rw [draftScope_eq, mem_filter, decide_eq_true_eq] at first second
    exact first.2.trans second.2.symm
  have stored : ∀ {row}, row ∈ draftScope pass.normalized state → row ∈ pass.normalized := fun member =>
    (mem_filter.mp member).1
  have modes := sound.modes row (stored first)
  rw [same, sound.modes other (stored second)] at modes
  exact (some.inj modes).symm

theorem policyScope_stored (normalized : List NormalizedRow) (state : String) :
    policyScope (db.withPolicy customerId normalized).nichePolicies customerId state =
    (draftScope normalized state).map (NormalizedRow.stored customerId) := by
  have own : (db.withPolicy customerId normalized).nichePolicies.filter
    (fun row => row.customerId = customerId) =
      normalized.map (NormalizedRow.stored customerId) := by
    rw [Db.withPolicy, filter_append, List.filter_filter, filter_eq_nil_iff.mpr, List.nil_append,
      List.filter_eq_self]
    · intro row member
      obtain ⟨_, _, rfl⟩ := mem_map.mp member
      simp [NormalizedRow.stored]
    · intro row _
      simp
  unfold policyScope draftScope
  rw [own, List.filter_map, List.any_map]
  rfl

def PolicyMode.Passes (mode : PolicyMode) (named : Prop) : Prop :=
  match mode with
  | .exclude => ¬named
  | .only => named

def Comparable (platform : PolicyPlatform) (niche : Option String) (row : NormalizedRow) : Prop :=
  ∃ n ∈ niche, platform.sqlLower row.niche = platform.sqlLower n

theorem policyClause_iff : policyClause platform.toCasing
    (db.withPolicy customerId normalized).nichePolicies customerId niche state ↔
    (∀ row ∈ draftScope normalized state, row.mode = .exclude → ¬Comparable platform niche row) ∧
    ((∀ row ∈ draftScope normalized state, row.mode ≠ .only) ∨
    ∃ row ∈ draftScope normalized state, row.mode = .only ∧ Comparable platform niche row) := by
  unfold policyClause Comparable
  rw [policyScope_stored]
  simp only [and_eq_true, or_eq_true, Bool.not_eq_true', any_eq_false, any_eq_true, mem_map,
    decide_eq_true_eq, Option.any_eq_true, forall_exists_index, and_imp, forall_apply_eq_imp_iff₂,
    exists_exists_and_eq_and, not_and, NormalizedRow.stored]
  rfl

theorem policyClause_stored {mode : PolicyMode} (filled : draftScope normalized state ≠ [])
    (uniform : ∀ row ∈ draftScope normalized state, row.mode = mode) :
    policyClause platform.toCasing
    (db.withPolicy customerId normalized).nichePolicies customerId niche state ↔
    mode.Passes (Names platform platform.sqlLower (draftScope normalized state) niche) := by
  have named : Names platform platform.sqlLower (draftScope normalized state) niche ↔
      ∃ row ∈ draftScope normalized state, Comparable platform niche row := by
    simp only [Names, Comparable, mem_map]
    exact ⟨fun ⟨n, named, row, member, same⟩ => ⟨row, member, n, named, same⟩,
      fun ⟨row, member, n, named, same⟩ => ⟨n, named, row, member, same⟩⟩
  obtain ⟨first, member⟩ := List.exists_mem_of_ne_nil _ filled
  rw [policyClause_iff]
  cases mode with
  | exclude =>
    have only : ∀ row ∈ draftScope normalized state, row.mode ≠ .only := fun row member same =>
      nomatch (uniform row member).symm.trans same
    rw [PolicyMode.Passes, named]
    constructor
    · rintro ⟨excluded, _⟩ ⟨row, member, comparable⟩
      exact excluded row member (uniform row member) comparable
    · exact fun unnamed => ⟨fun row member _ comparable => unnamed ⟨row, member, comparable⟩, .inl only⟩
  | only =>
  rw [PolicyMode.Passes, named]
  constructor
  · rintro ⟨_, absent | ⟨row, member, _, comparable⟩⟩
    · exact absurd (uniform first member) (absent first member)
    · exact ⟨row, member, comparable⟩
  rintro ⟨row, member, comparable⟩
  refine ⟨fun other inScope excluded => ?_, .inr ⟨row, member, uniform row member, comparable⟩⟩
  exact nomatch (uniform other inScope).symm.trans excluded

theorem statePart_iff {rows : List NormalizedRow} {mode : PolicyMode} (filled : rows ≠ [])
    (uniform : ∀ row ∈ rows, row.mode = mode) :
    statePart platform rows niche ↔ mode.Passes (Names platform platform.casefold rows niche) := by
  obtain ⟨first, rest, rfl⟩ := List.exists_cons_of_ne_nil filled
  have moded := uniform first mem_cons_self
  unfold statePart Names
  rw [List.head?_cons, map_some, moded]
  cases mode with
  | exclude => cases niche <;> simp [PolicyMode.Passes]
  | only => cases niche <;> simp [PolicyMode.Passes]

theorem mem_draftKeys : key ∈ (groupBy NormalizedRow.state normalized).map Prod.fst ↔
    ∃ row ∈ normalized, row.state = key := by
  rw [mem_map]
  constructor
  · rintro ⟨⟨key, group⟩, member, rfl⟩
    obtain ⟨rfl, filled⟩ := mem_groupBy_iff.mp member
    obtain ⟨row, inGroup⟩ := List.exists_mem_of_ne_nil _ filled
    rw [mem_filter, decide_eq_true_eq] at inGroup
    exact ⟨row, inGroup⟩
  rintro ⟨row, member, coded⟩
  refine ⟨(key, _), mem_groupBy_iff.mpr ⟨rfl, ne_nil_of_mem (a := row) ?_⟩, rfl⟩
  rw [mem_filter, decide_eq_true_eq]
  exact ⟨member, coded⟩

theorem mem_specificStates {code : String} :
    code ∈ (groupBy NormalizedRow.state normalized).filterMap Prod.fst ↔
    ∃ row ∈ normalized, row.state = some code := by
  rw [← mem_draftKeys, mem_filterMap, mem_map]

theorem stateMatch_iff (grouped : ∃ row ∈ normalized, row.state = key) :
    stateMatch ((groupBy NormalizedRow.state normalized).filterMap Prod.fst) state key ↔
    key = scopeKey normalized state := by
  unfold stateMatch scopeKey
  cases key with
  | none =>
    rw [decide_eq_true_eq, mem_specificStates]
    split
    case isTrue listed => exact ⟨fun unlisted => absurd listed unlisted, fun same => nomatch same⟩
    case isFalse unlisted => exact ⟨fun _ => rfl, fun _ => unlisted⟩
  | some code =>
    rw [decide_eq_true_eq]
    split
    · rw [some.injEq, eq_comm]
    case isFalse unlisted =>
      exact ⟨fun same => absurd (same ▸ grouped) unlisted, fun same => nomatch same⟩

theorem unlisted_iff (filled : normalized ≠ []) :
    ((groupBy NormalizedRow.state normalized).filterMap Prod.fst ≠ [] ∧
      none ∉ (groupBy NormalizedRow.state normalized).map Prod.fst) ∧
    state ∉ (groupBy NormalizedRow.state normalized).filterMap Prod.fst ↔
    draftScope normalized state = [] := by
  rw [mem_draftKeys, mem_specificStates, draftScope_eq, filter_eq_nil_iff]
  simp only [decide_eq_true_eq]
  unfold scopeKey
  constructor
  · rintro ⟨⟨_, noDefault⟩, unlisted⟩ row member
    rw [if_neg unlisted]
    exact fun same => noDefault ⟨row, member, same⟩
  intro empty
  have unlisted : ¬∃ row ∈ normalized, row.state = some state := by
    intro listed
    obtain ⟨row, member, coded⟩ := id listed
    exact empty row member (by rw [if_pos listed, coded])
  rw [if_neg unlisted] at empty
  refine ⟨⟨?_, fun ⟨row, member, default⟩ => empty row member default⟩, unlisted⟩
  obtain ⟨row, member⟩ := List.exists_mem_of_ne_nil _ filled
  obtain ⟨code, coded⟩ := Option.ne_none_iff_exists'.mp (empty row member)
  exact ne_nil_of_mem (mem_specificStates.mpr ⟨row, member, coded⟩)

/-- The draft's clause asks the rows that apply, and passes everything where none do. -/
theorem draftClause_iff (normalized : List NormalizedRow) (niche : Option String) (state : String) :
    draftClause platform normalized niche state ↔
    draftScope normalized state = [] ∨ statePart platform (draftScope normalized state) niche := by
  unfold draftClause
  split
  case isTrue empty =>
    subst empty
    simp [draftScope]
  case isFalse filled =>
  rw [or_eq_true, List.any_map, any_eq_true]
  simp only [comp_apply, id_eq, and_eq_true, decide_eq_true_eq]
  rw [unlisted_iff filled, or_comm]
  refine or_congr_right' fun applies => ?_
  constructor
  · rintro ⟨⟨key, group⟩, member, matched, passes⟩
    have grouped := mem_draftKeys.mp (mem_map_of_mem (f := Prod.fst) member)
    rw [stateMatch_iff grouped] at matched
    rw [draftScope_eq, ← matched, ← (mem_groupBy_iff.mp member).1]
    exact passes
  intro passes
  have member : (scopeKey normalized state, draftScope normalized state) ∈
    groupBy NormalizedRow.state normalized :=
    mem_groupBy_iff.mpr ⟨draftScope_eq normalized state, applies⟩
  refine ⟨_, member, ?_, passes⟩
  exact (stateMatch_iff (mem_draftKeys.mp (mem_map_of_mem (f := Prod.fst) member))).mpr rfl

/-- The clauses agree on a Niche exactly when its two spellings do. -/
theorem draft_agrees_iff {pass : PolicyPass} (sound : pass.Sound platform) (niche : Option String)
    (state : String) :
    policyClause platform.toCasing
    (db.withPolicy customerId pass.normalized).nichePolicies customerId niche state =
    draftClause platform pass.normalized niche state ↔
    SpelledAlike platform pass.normalized niche state := by
  rw [Bool.eq_iff_iff, draftClause_iff]
  by_cases empty : draftScope pass.normalized state = []
  · rw [policyClause_iff, SpelledAlike, empty]
    simp [Names]
  obtain ⟨first, member⟩ := List.exists_mem_of_ne_nil _ empty
  have uniform : ∀ row ∈ draftScope pass.normalized state, row.mode = first.mode := fun row inScope =>
    draftScope_modes sound inScope member
  rw [policyClause_stored db customerId empty uniform, or_iff_right empty, statePart_iff empty uniform]
  cases first.mode with
  | exclude => exact not_iff_not
  | only => exact Iff.rfl

end

/-- A draft and the policy stored from it pass the same Leads exactly where the
Niche is named in the database's spelling if and only if it is named in the
interpreter's, and then the projected availability is the one after saving. -/
theorem policy_draft_equals_stored (platform : PolicyPlatform) {rows : List PolicyInput}
    {normalized : List NormalizedRow}
    (accepted : normalizePolicyRows platform rows = .ok normalized) (db : Db)
    (customer : Customer) :
    ∃ stored loaded clause, replacePolicy platform db customer.id rows = .ok (stored, loaded) ∧
      policyClauseForRows platform rows = .ok clause ∧
      (∀ niche state, policyClause platform.toCasing stored.nichePolicies customer.id niche state =
        clause niche state ↔ SpelledAlike platform normalized niche state) ∧
      ((∀ row ∈ poolRows db customer, SpelledAlike platform normalized
      (effectiveNiche row.mapping row.assignment)
          (inventoryState (inventoryDatabase customer) row)) →
        ∀ asOf, projectCustomerAvailability platform rows db customer asOf =
          .ok (computeCustomerAvailable platform.toCasing stored customer asOf)) := by
  obtain ⟨pass, sound, rfl⟩ := normalizePolicyRows_sound accepted
  have replaced : replacePolicy platform db customer.id rows =
      .ok (db.withPolicy customer.id pass.normalized, loadPolicy platform
        (db.withPolicy customer.id pass.normalized) customer.id) := by
    unfold replacePolicy
    rw [accepted]
    rfl
  have drafted : policyClauseForRows platform rows = .ok (draftClause platform pass.normalized) := by
    unfold policyClauseForRows
    rw [accepted]
    rfl
  have agrees := draft_agrees_iff db customer.id sound
  refine ⟨_, _, _, replaced, drafted, agrees, fun spelled asOf => ?_⟩
  unfold projectCustomerAvailability computeCustomerAvailable
  split
  · rfl
  unfold eligibleQueryForRows
  rw [drafted]
  refine congrArg
    (fun rows =>
      Except.ok (List.length (List.insertionSort (fun a b => agesBefore a b = true) rows))) ?_
  refine List.filter_congr fun row member => ?_
  exact congrArg (_ && ·) ((agrees _ _).mpr (spelled row member)).symm

/-- A database that lowers the Latin letters of ASCII and an interpreter that also folds the sharp
s. -/
def sharpFolding : PolicyPlatform where
  upper := id
  lower := fun s => ofList (s.toList.map Char.toLower)
  sqlLower := fun s => ofList (s.toList.map Char.toLower)
  upperFixed := Text.id_upperFixed
  casefold := fun s => ofList (s.toList.flatMap fun c => if c = 'ß' then ['s', 's'] else [c.toLower])
  ordersBefore := fun a b => a.niche ≤ b.niche

def texan : Customer := { id := 1, licensedStates := ["TX"] }

def nichePool (niche : String) : Db :=
  { customers := [texan], leads := [{ id := 1, phone := "2025550101", state := "TX" }]
    nicheAssignments := [{ phone := "2025550101", niche }] }

def roofingPolicy : List PolicyInput :=
  [{ mode := "Exclude", niches := ["Großhandel"] },
    { state := some "TX", mode := "only", niches := ["Roofing", "roofing "] }]

theorem policy_draft_equals_stored_roofing :
    normalizePolicyRows sharpFolding roofingPolicy =
    .ok [⟨none, .exclude, "Großhandel"⟩, ⟨some "TX", .only, "Roofing"⟩] ∧
      (∃ stored loaded, replacePolicy sharpFolding (nichePool "ROOFING") 1 roofingPolicy =
        .ok (stored, loaded) ∧
        projectCustomerAvailability sharpFolding roofingPolicy (nichePool "ROOFING") texan 0 =
          .ok (computeCustomerAvailable sharpFolding.toCasing stored texan 0)) ∧
      projectCustomerAvailability sharpFolding roofingPolicy (nichePool "ROOFING") texan 0 = .ok 1 := by
  have accepted : normalizePolicyRows sharpFolding roofingPolicy =
      .ok [⟨none, .exclude, "Großhandel"⟩, ⟨some "TX", .only, "Roofing"⟩] := by decide +kernel
  obtain ⟨stored, loaded, clause, replaced, _, _, counts⟩ :=
    policy_draft_equals_stored sharpFolding accepted (nichePool "ROOFING") texan
  exact ⟨accepted, ⟨stored, loaded, replaced, counts (by decide +kernel) 0⟩, by decide +kernel⟩

/-- A Niche with a sharp s is excluded once the policy is stored and passes the draft of the same
rows. -/
theorem sharp_niche_passes_draft :
    let rows : List PolicyInput := [{ mode := "exclude", niches := ["Großhandel"] }]
    (replacePolicy sharpFolding (nichePool "Großhandel") 1 rows).map (fun saved =>
        (policyClause sharpFolding.toCasing saved.1.nichePolicies 1 (some "Großhandel") "TX",
          computeCustomerAvailable sharpFolding.toCasing saved.1 texan 0)) = .ok (false, 0) ∧
      (policyClauseForRows sharpFolding rows).map (fun clause => clause (some "Großhandel") "TX") =
      .ok true ∧
      projectCustomerAvailability sharpFolding rows (nichePool "Großhandel") texan 0 = .ok 1 := by
  decide +kernel

end Jawnix
