import Mathlib.Data.Rat.Floor
import Jawnix.Clock

/-!
# The daily keyword budget

`keyword_spend.py`. A request to the provider is reserved at an upper bound before
it is sent and settled at its metered cost, or at the bound where the cost is
unknown. Each call is one transaction under the lock of its budget day; one that
crashes before its commit leaves nothing, and one that crashes after it leaves its
reservation pending.

The columns are `Numeric(14, 10)`, so stored amounts are counted in units of ten
places. An amount is compared before it is stored and rounded when it is stored. The
cap is kept because the transport asks for whole numbers of units
(`reservation_exact`): an amount of more places could pass and be stored above the
cap.
-/
namespace Jawnix

def usdScale : Nat := 10000000000

inductive ChargeStatus where
  | pending | settled | uncertain
  deriving DecidableEq

structure KeywordGenerationCharge where
  id : Uuid
  budgetDay : CivilDate
  model : String := "claude-haiku-5-5"
  purpose : String
  reserved : Nat
  metered : Option Nat := none
  status : ChargeStatus := .pending
  payloadSha256 : String
  createdAt : Instant

/-- The cap in dollars, and the date of an instant in the budget's time zone. `money(cap)` refuses a
negative cap. -/
structure KeywordBudget where
  cap : Rat
  capNonnegative : 0 ≤ cap
  date : Instant → CivilDate

def columnLimit : Nat := 10000 * usdScale

/-- An amount as the column stores it, rounded half up. -/
def storedUnits (amount : Rat) : Nat := (amount * usdScale + 1 / 2).floor.toNat

variable (charge : KeywordGenerationCharge) (budget : KeywordBudget)
  (charges : List KeywordGenerationCharge)

/-- `coalesce(metered_usd, reserved_usd)` -/
def KeywordGenerationCharge.accounted : Int := (charge.metered.getD charge.reserved : Nat)

def accountedOn (charges : List KeywordGenerationCharge) (day : CivilDate) : Int :=
  sumWhere (fun c => c.budgetDay = day) KeywordGenerationCharge.accounted charges

def KeywordGenerationCharge.blocks (day : CivilDate) (charge : KeywordGenerationCharge) : Bool :=
  charge.budgetDay = day && charge.status = .uncertain && charge.metered.isSome

structure Reservation where
  amount : Rat
  trial : String
  payloadSha256 : String
  id : Uuid
  now : Instant
  deriving DecidableEq

def KeywordBudget.reserve (r : Reservation) : Except Fault (List KeywordGenerationCharge) :=
  let day := budget.date r.now
  if r.amount < 0 then .error (.runtime "Invalid monetary amount")
  else if charges.any (KeywordGenerationCharge.blocks day) then
    .error (.runtime "A request's cost is uncertain; further spending is blocked")
  else if budget.cap * usdScale < accountedOn charges day + r.amount * usdScale then
    .error (.runtime "Daily keyword spending limit reached before the next request")
  else if columnLimit ≤ storedUnits r.amount then .error (.integrity "numeric_value_out_of_range")
  else if r.id ∈ charges.map KeywordGenerationCharge.id then
    .error (.integrity "keyword_generation_charges_pkey")
  else
    .ok (charges ++
      [{ id := r.id, budgetDay := day, purpose := r.trial, reserved := storedUnits r.amount,
         payloadSha256 := r.payloadSha256
         createdAt := r.now }])

def KeywordGenerationCharge.atBound : KeywordGenerationCharge :=
  { charge with status := .uncertain }

def KeywordGenerationCharge.exceededBy (cost : Rat) : Bool :=
  decide ((charge.reserved : Rat) < cost * usdScale)

def KeywordGenerationCharge.at (cost : Rat) (charge : KeywordGenerationCharge) : KeywordGenerationCharge :=
  { charge with
    metered := some (storedUnits cost)
    status := if charge.exceededBy cost then .uncertain else .settled }

def KeywordBudget.settle (id : Uuid) (cost : Option Rat) :
    Except Fault (List KeywordGenerationCharge × Option Fault) :=
  match lookup KeywordGenerationCharge.id id charges with
  | none => .error (.runtime "Keyword request reservation is missing")
  | some charge =>
    if charge.status ≠ .pending then .error (.runtime "Request accounting was already finalized")
    else
      match cost with
      | none => .ok (adjust KeywordGenerationCharge.id id KeywordGenerationCharge.atBound charges, none)
      | some cost =>
        if cost < 0 then .error (.runtime "Invalid monetary amount")
        else if columnLimit ≤ storedUnits cost then .error (.integrity "numeric_value_out_of_range")
        else
          .ok (adjust KeywordGenerationCharge.id id (KeywordGenerationCharge.at cost) charges,
            if charge.exceededBy cost then
              some (.runtime "Metered cost exceeded its reserved upper bound") else none)

/-- `INPUT_CEILING` and `OUTPUT_CEILING` dollars per million tokens. -/
def reservationUsd (maximumInput maximumOutput : Nat) : Rat :=
  (maximumInput * (11 / 10) + maximumOutput * (11 / 4)) / 1000000

/-- A request of the transport: the length of its content in bytes and its `max_tokens`. -/
structure BudgetRequest where
  contentLength : Nat
  maximumOutput : Int
  trial : String
  payloadSha256 : String
  id : Uuid
  now : Instant

def BudgetRequest.reservation (maxOutputTokens : Int) (q : BudgetRequest) : Except Fault Reservation :=
  let maximumInput := q.contentLength + 8192
  if ¬(1 ≤ q.maximumOutput ∧ q.maximumOutput ≤ maxOutputTokens) then
    .error (.runtime "Benchmark requires an output-token ceiling")
  else if 1000000 < maximumInput + q.maximumOutput then
    .error (.runtime "Prompt cannot be bounded inside Haiku's context window")
  else
    .ok { amount := reservationUsd maximumInput q.maximumOutput.toNat, trial := q.trial,
          payloadSha256 := q.payloadSha256
          id := q.id, now := q.now }

def Reservation.Whole (r : Reservation) : Prop := r.amount * usdScale = storedUnits r.amount

theorem storedUnits_whole {amount : Rat} {units : Nat} (whole : amount * usdScale = units) :
    storedUnits amount = units := by
  unfold storedUnits
  have exactly : (amount * usdScale + 1 / 2).floor = (units : Int) := by
    rw [whole]
    refine le_antisymm (Int.lt_add_one_iff.mp (Rat.floor_lt_iff.mpr ?_)) (Rat.le_floor_iff.mpr ?_)
    · push_cast
      linarith
    · push_cast
      linarith
  omega

theorem reservation_exact {maxOutputTokens : Int} {q : BudgetRequest} {r : Reservation}
    (asked : q.reservation maxOutputTokens = .ok r) : r.Whole := by
  rw [BudgetRequest.reservation] at asked
  split at asked
  · cases asked
  split at asked
  · cases asked
  cases asked
  have units : reservationUsd (q.contentLength + 8192) q.maximumOutput.toNat * usdScale =
      (((q.contentLength + 8192) * 11000 + q.maximumOutput.toNat * 27500 : Nat) : Rat) := by
    unfold reservationUsd usdScale
    push_cast
    ring
  exact units.trans (congrArg Nat.cast (storedUnits_whole units).symm)

structure ChargeSettlement where
  id : Uuid
  day : CivilDate
  reserved : Nat
  cost : Option Rat
  deriving DecidableEq

def ChargeSettlement.Exceeds (x : ChargeSettlement) : Prop :=
  ∃ cost, x.cost = some cost ∧ (x.reserved : Rat) < cost * usdScale

structure SpendStore where
  charges : List KeywordGenerationCharge := []
  settlements : List ChargeSettlement := []

/-- The transport's requests, and a reservation of any amount the column stores exactly. -/
inductive SpendOp where
  | request (maxOutputTokens : Int) (q : BudgetRequest)
  | reserve (r : Reservation) (whole : r.Whole)
  | settle (id : Uuid) (cost : Option Rat)

variable (s : SpendStore)

def SpendStore.settle (id : Uuid) (cost : Option Rat) : Except Fault SpendStore := do
  let (charges, _) ← KeywordBudget.settle s.charges id cost
  .ok { charges
        settlements := s.settlements ++ (lookup KeywordGenerationCharge.id id s.charges).toList.map
            (fun charge => { id, day := charge.budgetDay, reserved := charge.reserved, cost }) }

def SpendStore.reserve (r : Reservation) : Except Fault SpendStore := do
  let charges ← budget.reserve s.charges r
  .ok { s with charges }

def SpendStore.request (maxOutputTokens : Int) (q : BudgetRequest) : Except Fault SpendStore := do
  s.reserve budget (← q.reservation maxOutputTokens)

def spendStep : SpendOp → SpendStore
  | .request maxOutputTokens q => commit s (s.request budget maxOutputTokens q)
  | .reserve r _ => commit s (s.reserve budget r)
  | .settle id cost => commit s (s.settle id cost)

structure SpendStore.Sound : Prop where
  ids : Keyed KeywordGenerationCharge.id s.charges
  unmetered : ∀ c ∈ s.charges, c.status = .pending → c.metered = none
  logged : ∀ x ∈ s.settlements, ∃ c ∈ s.charges, c.id = x.id ∧ c.status ≠ .pending ∧
    (x.Exceeds → c.blocks x.day)
  once : (s.settlements.map ChargeSettlement.id).Nodup
  capped : ∀ day, (accountedOn s.charges day : Rat) ≤ budget.cap * usdScale ∨
    ∃ x ∈ s.settlements, x.day = day ∧ x.Exceeds

section
variable {budget : KeywordBudget} {s t : SpendStore} {charges : List KeywordGenerationCharge}
  {r : Reservation} {charge : KeywordGenerationCharge} {after : List KeywordGenerationCharge}
  {x : ChargeSettlement}

theorem storedUnits_le {cost : Rat} {reserved : Nat} (within : cost * usdScale ≤ reserved) :
    storedUnits cost ≤ reserved := by
  unfold storedUnits
  have below : (cost * usdScale + 1 / 2).floor < (reserved : Int) + 1 := by
    refine Rat.floor_lt_iff.mpr ?_
    push_cast
    linarith
  omega

theorem KeywordBudget.reserve_ok (done : budget.reserve charges r = .ok after) :
    accountedOn charges (budget.date r.now) + r.amount * usdScale ≤ budget.cap * usdScale ∧
    ∃ c : KeywordGenerationCharge, after = charges ++ [c] ∧ c.budgetDay = budget.date r.now ∧
    c.reserved = storedUnits r.amount ∧
    c.metered = none ∧ c.id ∉ charges.map KeywordGenerationCharge.id := by
  rw [KeywordBudget.reserve] at done
  split at done
  · cases done
  split at done
  · cases done
  obtain ⟨within, done⟩ := guard_ok done
  split at done
  · cases done
  obtain ⟨fresh, done⟩ := guard_ok done
  cases done
  exact ⟨not_lt.mp within, _, rfl, rfl, rfl, rfl, fresh⟩

theorem SpendStore.Sound.reserve (sound : s.Sound budget) (whole : r.Whole)
    (done : s.reserve budget r = .ok t) : t.Sound budget := by
  obtain ⟨charges, reserves, last⟩ := bind_ok done
  cases last
  obtain ⟨within, c, rfl, onDay, amount, unmetered, fresh⟩ := KeywordBudget.reserve_ok reserves
  refine ⟨?_, fun d member pending => ?_, fun x accepted => ?_, sound.once, fun day => ?_⟩
  · exact keyed_append.mpr ⟨sound.ids, fun d member same => fresh (same ▸ mem_map_of_mem member)⟩
  · rcases mem_append.mp member with stored | new
    · exact sound.unmetered d stored pending
    cases mem_singleton.mp new
    exact unmetered
  · obtain ⟨d, stored, rest⟩ := sound.logged x accepted
    exact ⟨d, mem_append_left _ stored, rest⟩
  unfold accountedOn
  rw [Rows.sumWhere_append_one]
  by_cases here : c.budgetDay = day
  · -- the sum that was checked is the sum that results
    refine .inl ?_
    have share : share (fun c => c.budgetDay = day) KeywordGenerationCharge.accounted c =
        storedUnits r.amount := by
      unfold share KeywordGenerationCharge.accounted
      rw [if_pos (decide_eq_true here), unmetered, getD_none, amount]
    rw [share, ← here, onDay]
    push_cast
    exact whole ▸ within
  have share : share (fun c => c.budgetDay = day) KeywordGenerationCharge.accounted c = 0 :=
    if_neg fun same => here (of_decide_eq_true same)
  rw [share, add_zero]
  exact sound.capped day

def KeywordGenerationCharge.finalize (cost : Option Rat) :
    KeywordGenerationCharge → KeywordGenerationCharge :=
  cost.elim KeywordGenerationCharge.atBound KeywordGenerationCharge.at

section
variable (cost : Option Rat) (c : KeywordGenerationCharge)

theorem finalize_id : (c.finalize cost).id = c.id := by cases cost <;> rfl
theorem finalize_day : (c.finalize cost).budgetDay = c.budgetDay := by cases cost <;> rfl

theorem finalize_status : (c.finalize cost).status ≠ .pending := by
  cases cost with
  | none => exact nofun
  | some cost =>
    change (if c.exceededBy cost then ChargeStatus.uncertain else .settled) ≠ .pending
    split <;> exact nofun

end

theorem KeywordBudget.settle_ok {id : Uuid} {cost : Option Rat} {refusal : Option Fault}
    (done : KeywordBudget.settle charges id cost = .ok (after, refusal)) :
    ∃ charge, lookup KeywordGenerationCharge.id id charges = some charge ∧ charge.status = .pending ∧
    after = adjust KeywordGenerationCharge.id id (KeywordGenerationCharge.finalize cost) charges := by
  unfold KeywordBudget.settle at done
  split at done
  · cases done
  case h_2 charge found =>
  obtain ⟨open_, done⟩ := guard_ok done
  refine ⟨charge, found, not_not.mp open_, ?_⟩
  split at done
  · cases done
    rfl
  split at done
  · cases done
  split at done
  · cases done
  cases done
  rfl

theorem accountedOn_finalize (ids : Keyed KeywordGenerationCharge.id charges)
    (found : lookup KeywordGenerationCharge.id charge.id charges = some charge) (cost : Option Rat)
    (day : CivilDate) :
    accountedOn (adjust KeywordGenerationCharge.id charge.id
    (KeywordGenerationCharge.finalize cost) charges) day =
    accountedOn charges day +
    if charge.budgetDay = day then (charge.finalize cost).accounted - charge.accounted else 0 := by
  unfold accountedOn
  rw [Rows.sumWhere_adjust ids found]
  by_cases here : charge.budgetDay = day
  · have after : (charge.finalize cost).budgetDay = day := (finalize_day cost charge).trans here
    simp only [share, here, after, decide_true, if_true]
    omega
  have after : (charge.finalize cost).budgetDay ≠ day :=
    fun same => here ((finalize_day cost charge).symm.trans same)
  simp only [share, here, after, decide_false, if_false, Bool.false_eq_true]
  omega

/-- A cost within its reservation does not add to what the charge accounts for. -/
theorem finalize_accounted_le (unmetered : charge.metered = none) {cost : Option Rat}
    (within : ∀ c, cost = some c → c * usdScale ≤ charge.reserved) :
    (charge.finalize cost).accounted ≤ charge.accounted := by
  unfold KeywordGenerationCharge.accounted
  rw [unmetered, getD_none]
  cases cost with
  | none =>
    change (((charge.metered).getD charge.reserved : Nat) : Int) ≤ _
    rw [unmetered, getD_none]
  | some c => exact Int.ofNat_le.mpr (storedUnits_le (within c rfl))

theorem SpendStore.Sound.settled_apart (sound : s.Sound budget) (stored : charge ∈ s.charges)
    (pending : charge.status = .pending) (accepted : x ∈ s.settlements) : x.id ≠ charge.id := by
  intro same
  obtain ⟨c, member, named, finalized, _⟩ := sound.logged x accepted
  cases eq_of_mem_of_key sound.ids member stored (named.trans same)
  exact finalized pending

theorem SpendStore.Sound.settle (sound : s.Sound budget) {id : Uuid} {cost : Option Rat}
    (done : s.settle id cost = .ok t) : t.Sound budget := by
  obtain ⟨⟨charges, refusal⟩, settles, last⟩ := bind_ok done
  obtain ⟨charge, found, pending, rfl⟩ := KeywordBudget.settle_ok settles
  rw [found] at last
  cases last
  obtain ⟨stored, rfl⟩ := lookup_some found
  have kept : ∀ c, c.id = charge.id → (KeywordGenerationCharge.finalize cost c).id = c.id :=
    fun c _ => finalize_id cost c
  refine ⟨keyed_adjust kept sound.ids, fun c member open_ => ?_, fun x accepted => ?_, ?_, fun day => ?_⟩
  · rcases mem_adjust.mp member with ⟨before, _, _, rfl⟩ | ⟨stored, _⟩
    · exact absurd open_ (finalize_status cost before)
    · exact sound.unmetered c stored open_
  · rcases mem_append.mp accepted with before | new
    · obtain ⟨c, member, named, rest⟩ := sound.logged x before
      refine ⟨c, mem_adjust.mpr (.inr ⟨member, fun same => ?_⟩), named, rest⟩
      exact sound.settled_apart stored pending before (named.symm.trans same)
    cases mem_singleton.mp new
    refine ⟨charge.finalize cost, mem_adjust.mpr (.inl ⟨charge, stored, rfl, rfl⟩),
      finalize_id cost charge, finalize_status cost charge, ?_⟩
    rintro ⟨c, rfl, above⟩
    unfold KeywordGenerationCharge.blocks
    rw [finalize_day]
    have exceeded : charge.exceededBy c := decide_eq_true above
    simp [KeywordGenerationCharge.finalize, KeywordGenerationCharge.at, exceeded]
  · rw [map_append, List.nodup_append]
    refine ⟨sound.once, List.nodup_singleton _, fun a old b new => ?_⟩
    obtain ⟨x, accepted, rfl⟩ := mem_map.mp old
    cases mem_singleton.mp new
    exact sound.settled_apart stored pending accepted
  by_cases grows : charge.budgetDay = day ∧ ∃ c, cost = some c ∧ charge.reserved < c * usdScale
  · obtain ⟨here, exceeds⟩ := grows
    exact .inr ⟨_, mem_append_right _ (mem_singleton_self _), here, exceeds⟩
  rcases sound.capped day with capped | ⟨x, accepted, exceeded⟩
  · refine .inl (le_trans ?_ capped)
    have less :
      accountedOn (adjust KeywordGenerationCharge.id charge.id
      (KeywordGenerationCharge.finalize cost)
        s.charges) day ≤ accountedOn s.charges day := by
      rw [accountedOn_finalize sound.ids found]
      split
      case isTrue here =>
        have within : ∀ c, cost = some c → c * usdScale ≤ charge.reserved :=
          fun c known => not_lt.mp fun above => grows ⟨here, c, known, above⟩
        have := finalize_accounted_le (sound.unmetered charge stored pending) within
        omega
      case isFalse other => omega
    exact_mod_cast less
  · exact .inr ⟨x, mem_append_left _ accepted, exceeded⟩

theorem SpendStore.Sound.request (sound : s.Sound budget) {maxOutputTokens : Int}
    {q : BudgetRequest} (done : s.request budget maxOutputTokens q = .ok t) : t.Sound budget := by
  obtain ⟨r, asked, reserves⟩ := bind_ok done
  exact sound.reserve (reservation_exact asked) reserves

theorem SpendStore.Sound.start : SpendStore.Sound budget {} where
  ids := nodup_nil
  unmetered := nofun
  logged := nofun
  once := nodup_nil
  capped day := by
    refine .inl ?_
    change ((0 : Int) : Rat) ≤ budget.cap * usdScale
    rw [Int.cast_zero]
    exact mul_nonneg budget.capNonnegative (Nat.cast_nonneg _)

theorem SpendStore.Sound.blocked (sound : s.Sound budget) (accepted : x ∈ s.settlements)
    (exceeded : x.Exceeds) (onDay : budget.date r.now = x.day) :
    ∃ refusal, budget.reserve s.charges r = .error refusal := by
  obtain ⟨c, stored, _, _, blocks⟩ := sound.logged x accepted
  have blocked : s.charges.any (KeywordGenerationCharge.blocks x.day) :=
    any_eq_true.mpr ⟨c, stored, blocks exceeded⟩
  unfold KeywordBudget.reserve
  dsimp only
  rw [onDay, if_pos blocked]
  split <;> exact ⟨_, rfl⟩

theorem spendStep_sound (op : SpendOp) (sound : s.Sound budget) : (spendStep budget s op).Sound budget := by
  cases op with
  | request maxOutputTokens q =>
    exact commit_cases (P := SpendStore.Sound budget) sound fun t done => sound.request done
  | reserve r whole =>
    exact commit_cases (P := SpendStore.Sound budget) sound fun t done => sound.reserve whole done
  | settle id cost => exact commit_cases (P := SpendStore.Sound budget) sound fun t done => sound.settle done

end

/-- The cap holds over every run of requests and settlements, except on a day with a cost above its
own reservation; that day is closed. -/
theorem daily_spend_capped (budget : KeywordBudget) (ops : List SpendOp) (day : CivilDate) :
    let s := run (spendStep budget) {} ops
    ((accountedOn s.charges day : Rat) ≤ budget.cap * usdScale ∨ ∃ x ∈ s.settlements, x.day = day ∧
      x.Exceeds) ∧
      (s.settlements.map ChargeSettlement.id).Nodup ∧
      ∀ x ∈ s.settlements, x.day = day → x.Exceeds →
        ∀ r : Reservation, budget.date r.now = day → ∃ refusal,
        budget.reserve s.charges r = .error refusal := by
  intro s
  have sound : s.Sound budget := run_invariant (fun _ op => spendStep_sound op) SpendStore.Sound.start ops
  refine ⟨sound.capped day, sound.once, fun x accepted onDay exceeded r now => ?_⟩
  exact sound.blocked accepted exceeded (now.trans onDay.symm)

def dollarBudget : KeywordBudget := { cap := 1, capNonnegative := by decide, date := civilDate }

def dearRequest : List SpendOp :=
  [.request 800
    { contentLength := 100, maximumOutput := 10, trial := "t", payloadSha256 := "h", id := 1, now := 0 },
    .settle 1 (some 2)]

theorem daily_spend_capped_exceeded :
    let s := run (spendStep dollarBudget) {} dearRequest
    dollarBudget.cap * usdScale < accountedOn s.charges (civilDate 0) ∧
    ∃ refusal, dollarBudget.reserve s.charges
      { amount := 0, trial := "t", payloadSha256 := "h", id := 2, now := 0 } = .error refusal := by
  intro s
  let dear : ChargeSettlement := { id := 1, day := civilDate 0, reserved := 91487000, cost := some 2 }
  have log : s.settlements = [dear] := by decide +kernel
  have accepted : dear ∈ s.settlements := log ▸ mem_singleton_self _
  have exceeded : dear.Exceeds := ⟨2, rfl, by decide +kernel⟩
  exact ⟨by decide +kernel, (daily_spend_capped dollarBudget dearRequest (civilDate 0)).2.2 dear
    accepted rfl exceeded _ rfl⟩

/-- Token counts as the provider reports them; `none` is an absent field. -/
structure TokenUsage where
  inputTokens : Option Int
  outputTokens : Option Int
  cacheCreationInputTokens : Option Int := none
  cacheReadInputTokens : Option Int := none
  ephemeral5mInputTokens : Option Int := none
  ephemeral1hInputTokens : Option Int := none
  inferenceGeo : Option String := none

def TokenUsage.totalInput (usage : TokenUsage) : Int :=
  usage.inputTokens.getD 0 + usage.cacheCreationInputTokens.getD 0 + usage.cacheReadInputTokens.getD 0

/-- The tier of a long prompt, and the price of a geography. -/
def costMultiplier (totalInput : Int) (geo : String) : Rat :=
  (if 100000 < totalInput then 5 else 1) * if geo = "us" then 11 / 10 else 1

def anthropicCost (usage : TokenUsage) : Except Fault Rat :=
  match usage.inputTokens, usage.outputTokens with
  | some input, some output =>
    let creation := usage.cacheCreationInputTokens.getD 0
    let cached := usage.cacheReadInputTokens.getD 0
    let geo := usage.inferenceGeo.getD "global"
    let short := usage.ephemeral5mInputTokens.getD creation
    let long := usage.ephemeral1hInputTokens.getD 0
    if input < 0 ∨ output < 0 ∨ creation < 0 ∨ cached < 0 then
      .error (.runtime "Anthropic token accounting is missing or invalid")
    else if geo ≠ "global" ∧ geo ≠ "us" then .error (.runtime "Anthropic inference geography is unknown")
    else if min short long < 0 ∨ short + long ≠ creation then
      .error (.runtime "Anthropic cache-write accounting is inconsistent")
    else
      .ok (costMultiplier usage.totalInput geo *
        (input * (1 / 10) + output * (1 / 2) + short * (1 / 8) + long * (1 / 5) + cached *
          (1 / 100)) / 1000000)
  | _, _ => .error (.runtime "Anthropic token accounting is missing or invalid")

theorem costMultiplier_bounds (totalInput : Int) (geo : String) :
    0 ≤ costMultiplier totalInput geo ∧ costMultiplier totalInput geo ≤ 11 / 2 := by
  unfold costMultiplier
  split_ifs <;> norm_num

/-- No kind of input token costs more than a long cache write, and no tier more than the highest. -/
theorem anthropicCost_le {usage : TokenUsage} {cost : Rat}
    (metered : anthropicCost usage = .ok cost) : 0 ≤ usage.outputTokens.getD 0 ∧
    cost ≤ (usage.totalInput * (11 / 10) + usage.outputTokens.getD 0 * (11 / 4)) / 1000000 := by
  unfold anthropicCost at metered
  split at metered
  case h_1 input output isInput isOutput =>
    extract_lets creation cached geo short long at metered
    split_ifs at metered with negative unknown inconsistent
    cases metered
    push Not at negative inconsistent
    obtain ⟨inputNonneg, outputNonneg, creationNonneg, cachedNonneg⟩ := negative
    obtain ⟨writesNonneg, writes⟩ := inconsistent
    obtain ⟨shortNonneg, longNonneg⟩ := le_min_iff.mp writesNonneg
    obtain ⟨nonneg, highest⟩ := costMultiplier_bounds usage.totalInput geo
    have total : usage.totalInput = input + (short + long) + cached := by
      rw [writes]
      simp only [TokenUsage.totalInput, isInput, getD_some, creation, cached]
    have priced : ∀ {n : Int}, 0 ≤ n → (0 : Rat) ≤ n := fun h => by exact_mod_cast h
    have inputs := priced inputNonneg
    have outputs := priced outputNonneg
    have shorts := priced shortNonneg
    have longs := priced longNonneg
    have reads := priced cachedNonneg
    refine ⟨isOutput ▸ outputNonneg, ?_⟩
    rw [isOutput, total]
    push_cast
    have scaled : costMultiplier usage.totalInput geo *
        (input * (1 / 10) + output * (1 / 2) + short * (1 / 8) + long * (1 / 5) + cached * (1 / 100)) ≤
          11 / 2 * (input * (1 / 10) + output * (1 / 2) + short * (1 / 8) + long *
            (1 / 5) + cached * (1 / 100)) :=
      mul_le_mul_of_nonneg_right highest (by positivity)
    rw [total] at scaled
    refine div_le_div_of_nonneg_right (scaled.trans ?_) (by norm_num)
    simp only [getD_some]
    linarith
  · cases metered

/-- A cost within the bounds the transport assumes is at most what it reserved, so that settling it
blocks nothing. -/
theorem metered_cost_reserved {maxOutputTokens : Int} {q : BudgetRequest} {r : Reservation}
    (asked : q.reservation maxOutputTokens = .ok r) {usage : TokenUsage}
    (input : usage.totalInput ≤ q.contentLength + 8192)
    (output : usage.outputTokens.getD 0 ≤ q.maximumOutput) {cost : Rat}
    (metered : anthropicCost usage = .ok cost) :
    cost ≤ r.amount ∧ ∀ charge : KeywordGenerationCharge, charge.reserved = storedUnits r.amount →
      charge.exceededBy cost = false ∧ (charge.at cost).status = .settled := by
  obtain ⟨nonneg, bound⟩ := anthropicCost_le metered
  have exact := reservation_exact asked
  have within : cost ≤ r.amount := by
    rw [BudgetRequest.reservation] at asked
    split_ifs at asked with ceiling
    cases asked
    refine bound.trans (div_le_div_of_nonneg_right ?_ (by norm_num))
    have outputs : (usage.outputTokens.getD 0 : Rat) ≤ (q.maximumOutput.toNat : Rat) := by
      have : usage.outputTokens.getD 0 ≤ (q.maximumOutput.toNat : Int) := by omega
      exact_mod_cast this
    have inputs : (usage.totalInput : Rat) ≤ ((q.contentLength + 8192 : Nat) : Rat) := by
      exact_mod_cast input
    linarith
  refine ⟨within, fun charge stored => ?_⟩
  have fits : charge.exceededBy cost = false := by
    refine decide_eq_false (not_lt.mpr ?_)
    rw [stored, ← exact]
    exact mul_le_mul_of_nonneg_right within (Nat.cast_nonneg _)
  exact ⟨fits, by simp [KeywordGenerationCharge.at, fits]⟩

/-- At the highest price of every kind the reservation is used up. -/
theorem metered_cost_reserved_long :
    let q : BudgetRequest :=
      { contentLength := 100000, maximumOutput := 10, trial := "t", payloadSha256 := "h", id := 1, now := 0 }
    let usage : TokenUsage :=
      { inputTokens := some 0, outputTokens := some 10, cacheCreationInputTokens := some 108192
        ephemeral5mInputTokens := some 0, ephemeral1hInputTokens := some 108192, inferenceGeo := some "us" }
    let cost : Rat := 1190387 / 10000000
    anthropicCost usage = .ok cost ∧ q.reservation 800 = .ok ⟨cost, "t", "h", 1, 0⟩ ∧
      ∀ charge : KeywordGenerationCharge, charge.reserved = storedUnits cost →
        (charge.at cost).status = .settled := by
  intro q usage cost
  have metered : anthropicCost usage = .ok cost := by decide +kernel
  have asked : q.reservation 800 = .ok ⟨cost, "t", "h", 1, 0⟩ := by decide +kernel
  have settles := (metered_cost_reserved asked (by decide) (by decide) metered).2
  exact ⟨metered, asked, fun charge stored => (settles charge stored).2⟩

end Jawnix
