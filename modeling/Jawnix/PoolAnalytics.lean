import Mathlib.Algebra.Order.Group.Int
import Mathlib.Algebra.Order.Group.Unbundled.Basic
import Mathlib.Data.List.MinMax
import Jawnix.Eligibility

/-!
# The cooldown forecast

`compute_cooldown_forecast` of `pool_analytics.py`: how many Leads a Customer can
draw at an instant, and how many more on each of the next fourteen days. The first
number is a count of `eligible_query`. The others are computed from
`last_distributed_at` and the Customer's Cooldown Window alone, while the query
looks at every Distribution Event and holds a Lead for three days after a delivery
to a recipient who is no longer active.

The query admits a Lead that passes the other filters exactly from one instant on,
its release. The forecast is right when the two instants fall on the same day.
-/
namespace Jawnix

def forecastDays : Nat := 14
def dayOf (t : Instant) : Int := t / microsecondsPerDay

structure ForecastDay where
  offset : Nat
  date : String
  count : Nat

/-- A request that is never stored: all the Customer's Licensed States. -/
def projectionRequest (customer : Customer) (asOf : Instant) : LeadRequest :=
  { id := 0, userId := 0, customerId := customer.id, leadCount := 1, rowsPerFile := 5000, createdAt := asOf,
    statesSnapshot := customer.licensedStates, deliveryEmail := "availability@invalid", status := .approved }

def computeCustomerAvailable (casing : Casing) (db : Db) (customer : Customer) (asOf : Instant) : Nat :=
  if customer.licensedStates = [] then 0 else inventoryCount casing db
    (projectionRequest customer asOf) customer asOf

/-- The where clause of `_candidate_base_query`: every filter but the Cooldown Window. -/
def candidate (casing : Casing) (db : Db) (customer : Customer) (row : InventoryRow) : Bool :=
  let state := inventoryState (inventoryDatabase customer) row
  state ∈ customer.licensedStates && !row.lead.suppressed && !previouslySent db customer row.lead &&
    !activelyHeld db row.lead && !excludedPhone db customer.id row.lead &&
    policyClause casing db.nichePolicies customer.id (effectiveNiche row.mapping row.assignment) state

def poolRows (db : Db) (customer : Customer) : List InventoryRow :=
  inventoryScope db (inventoryDatabase customer) (inventoryRows db (inventoryDatabase customer))

def candidateBaseQuery (casing : Casing) (db : Db) (customer : Customer) : List InventoryRow :=
  (poolRows db customer).filter (candidate casing db customer)

def lapseOffset (customer : Customer) (asOf : Instant) (row : InventoryRow) : Option Nat :=
  match row.lead.lastDistributedAt with
  | none => none
  | some last =>
    if last ≤ asOf - days (cooldownDays customer) then none
    else
      let offset := dayOf (last + days (cooldownDays customer)) - dayOf asOf
      if 0 ≤ offset ∧ offset ≤ forecastDays then some offset.toNat else none

def forecastFrom (asOf : Instant) (counts : Nat → Nat) : List ForecastDay :=
  (List.range (forecastDays + 1)).map fun offset => ⟨offset, isoDate (asOf + days offset), counts offset⟩

def computeCooldownForecast (casing : Casing) (db : Db) (customer : Customer) (asOf : Instant) :
    Nat × List ForecastDay :=
  if customer.licensedStates = [] then (0, forecastFrom asOf fun _ => 0)
  else
    let available := computeCustomerAvailable casing db customer asOf
    (available, forecastFrom asOf
      (Rows.tally (lapseOffset customer asOf) (candidateBaseQuery casing db customer)
        (fun offset => if offset = 0 then available else 0)))

section
variable {casing : Casing} {db : Db} {customer : Customer} {lead : Lead} {t : Instant}

theorem inactiveRecipient_eq (db : Db) (event : DistributionEvent) :
    inactiveRecipient db event = !activeRecipient db event := by
  unfold inactiveRecipient activeRecipient
  cases event.customerId with
  | some c => simp
  | none => cases event.agencyId <;> simp

def holdOf (db : Db) (customer : Customer) (event : DistributionEvent) : Int :=
  if activeRecipient db event then days (cooldownDays customer) else days deactivatedRecipientHoldDays

/-- When the Lead's last delivery stops holding it; the query looks no further back than the longer
hold before `last_distributed_at`. -/
def releaseOf (db : Db) (customer : Customer) (lead : Lead) : Option Instant :=
  match lead.lastDistributedAt,
      ((db.events.filter fun e => e.leadId = lead.id).map fun e =>
        e.deliveredAt + holdOf db customer e).max? with
  | some last, some ends =>
    some (min (last + max (days (cooldownDays customer)) (days deactivatedRecipientHoldDays)) ends)
  | _, _ => none

theorem holding_iff (event : DistributionEvent) :
    ((t - days (cooldownDays customer) < event.deliveredAt && activeRecipient db event) ||
      (t - days deactivatedRecipientHoldDays < event.deliveredAt && inactiveRecipient db event)) ↔
    t < event.deliveredAt + holdOf db customer event := by
  rw [inactiveRecipient_eq, holdOf]
  cases activeRecipient db event with
  | true =>
    simp only [Bool.and_true, Bool.not_true, Bool.and_false, Bool.or_false, decide_eq_true_eq, if_true]
    exact sub_lt_iff_lt_add
  | false =>
    simp only [Bool.and_false, Bool.not_false, Bool.and_true, Bool.false_or, decide_eq_true_eq,
      Bool.false_eq_true, if_false]
    exact sub_lt_iff_lt_add

theorem lt_max?_iff {xs : List Int} {ends : Int} (top : xs.max? = some ends) (t : Int) :
    t < ends ↔ ∃ x ∈ xs, t < x := by
  obtain ⟨member, bound⟩ := List.max?_eq_some_iff.mp top
  exact ⟨fun before => ⟨ends, member, before⟩, fun ⟨x, inList, before⟩ =>
    lt_of_lt_of_le before (bound x inList)⟩

theorem min_sub_lt_iff (t a b last : Int) : min (t - a) (t - b) < last ↔ t < last + max a b := by omega

theorem coolingDown_iff :
    coolingDown db customer t lead ↔ ∃ ends ∈ releaseOf db customer lead, t < ends := by
  unfold coolingDown releaseOf
  cases lead.lastDistributedAt with
  | none => simp
  | some last =>
  have held : (db.events.any (fun e => e.leadId = lead.id &&
      ((t - days (cooldownDays customer) < e.deliveredAt && activeRecipient db e) ||
        (t - days deactivatedRecipientHoldDays < e.deliveredAt && inactiveRecipient db e)))) ↔
      ∃ x ∈ (db.events.filter fun e => e.leadId = lead.id).map
        (fun e => e.deliveredAt + holdOf db customer e), t < x := by
    rw [any_eq_true]
    constructor
    · rintro ⟨e, member, holds⟩
      obtain ⟨named, held⟩ := and_eq_true_iff.mp holds
      exact ⟨_, mem_map.mpr ⟨e, mem_filter.mpr ⟨member, named⟩, rfl⟩, (holding_iff e).mp held⟩
    rintro ⟨x, inEnds, before⟩
    obtain ⟨e, kept, rfl⟩ := mem_map.mp inEnds
    obtain ⟨member, named⟩ := mem_filter.mp kept
    exact ⟨e, member, and_eq_true_iff.mpr ⟨named, (holding_iff e).mpr before⟩⟩
  dsimp only
  rw [any_some, and_eq_true, decide_eq_true_eq, held, min_sub_lt_iff]
  cases top : ((db.events.filter fun e => e.leadId = lead.id).map
      (fun e => e.deliveredAt + holdOf db customer e)).max? with
  | none =>
    rw [List.max?_eq_none_iff] at top
    simp [top]
  | some ends =>
    rw [← lt_max?_iff top]
    simp

theorem admits_iff (asOf : Instant) (row : InventoryRow) :
    admits casing db (projectionRequest customer asOf) customer t row ↔
    candidate casing db customer row ∧ ∀ ends ∈ releaseOf db customer row.lead, ends ≤ t := by
  have cooled : coolingDown db customer t row.lead = false ↔
    ∀ ends ∈ releaseOf db customer row.lead, ends ≤ t := by
    rw [← Bool.not_eq_true, coolingDown_iff]
    push Not
    rfl
  rw [← cooled]
  simp only [admits, candidate, projectionRequest, and_eq_true, Bool.not_eq_true']
  tauto

end

section
variable (casing : Casing) (db : Db) (customer : Customer) (asOf : Instant)

/-- The query admits the row for the first time `k` days after `asOf`, if nothing else changes. -/
def FirstAdmittedOn (k : Nat) (row : InventoryRow) : Prop :=
  ∃ t, asOf < t ∧ dayOf t = dayOf asOf + k ∧ admits casing db
    (projectionRequest customer asOf) customer t row ∧
    ∀ u, asOf ≤ u → u < t → admits casing db (projectionRequest customer asOf) customer u row = false

/-- The forecast counts the row at offset `k`, apart from the Leads available at once. -/
def CountedOn (k : Nat) (row : InventoryRow) : Prop :=
  candidate casing db customer row ∧ lapseOffset customer asOf row = some k

open Classical in
/-- Each Lead is counted on the day it is first admitted and on no other, so that the numbers are
those of the query. -/
structure ForecastExact : Prop where
  available : (computeCooldownForecast casing db customer asOf).1 =
    (eligibleQuery casing db (projectionRequest customer asOf) customer asOf).length
  offsets : (computeCooldownForecast casing db customer asOf).2.map ForecastDay.offset = List.range
    (forecastDays + 1)
  counts : ∀ day ∈ (computeCooldownForecast casing db customer asOf).2, day.count =
    (if day.offset = 0 then (computeCooldownForecast casing db customer asOf).1 else 0) +
      ((poolRows db customer).filter fun row =>
        FirstAdmittedOn casing db customer asOf day.offset row).length
  placed : ∀ row ∈ poolRows db customer, ∀ k ≤ forecastDays,
    CountedOn casing db customer asOf k row ↔ FirstAdmittedOn casing db customer asOf k row

end

def LapsesOn (asOf : Instant) (k : Nat) (t : Option Instant) : Prop :=
    ∃ x ∈ t, asOf < x ∧ dayOf x = dayOf asOf + k
  deriving Decidable

/-- Within the horizon, one Cooldown Window after `last_distributed_at` falls on the day of the
Lead's release. -/
def ReleaseForeseen (db : Db) (customer : Customer) (asOf : Instant) (lead : Lead) : Prop :=
  ∀ k ∈ List.range (forecastDays + 1), LapsesOn asOf k
    (lead.lastDistributedAt.map (· + days (cooldownDays customer))) ↔
      LapsesOn asOf k (releaseOf db customer lead)
  deriving Decidable

section
variable {casing : Casing} {db : Db} {customer : Customer} {asOf : Instant} {row : InventoryRow} {k : Nat}

theorem firstAdmittedOn_iff : FirstAdmittedOn casing db customer asOf k row ↔
    candidate casing db customer row ∧ LapsesOn asOf k (releaseOf db customer row.lead) := by
  constructor
  · rintro ⟨t, after, day, admitted, first⟩
    obtain ⟨passes, released⟩ := (admits_iff asOf row).mp admitted
    -- held just before, so the release is at `t` and not earlier
    have held : ¬ ∀ ends ∈ releaseOf db customer row.lead, ends ≤ t - 1 := by
      intro early
      have earlier := (admits_iff asOf row).mpr ⟨passes, early⟩
      rw [first (t - 1) (Int.le_sub_one_of_lt after) (Int.sub_lt_self t one_pos)] at earlier
      cases earlier
    push Not at held
    obtain ⟨ends, found, late⟩ := held
    have same : ends = t := le_antisymm (released ends found) (Int.le_of_sub_one_lt late)
    exact ⟨passes, ends, found, same ▸ after, same ▸ day⟩
  rintro ⟨passes, ends, found, after, day⟩
  refine ⟨ends, after, day, (admits_iff asOf row).mpr ⟨passes, ?_⟩, ?_⟩
  · intro other same
    rw [Option.mem_unique found same]
  intro u _ before
  rw [← Bool.not_eq_true, admits_iff]
  exact fun admitted => absurd (admitted.2 ends found) (not_le.mpr before)

theorem offset_iff (later today : Int) {bound : Nat} (within : k ≤ bound) :
    (if 0 ≤ later - today ∧ later - today ≤ bound then some (later - today).toNat else none) = some k ↔
    later = today + k := by
  split
  · rw [some.injEq]
    omega
  · simp only [reduceCtorEq, false_iff]
    omega

theorem countedOn_iff (within : k ≤ forecastDays) :
    CountedOn casing db customer asOf k row ↔ candidate casing db customer row ∧
    LapsesOn asOf k (row.lead.lastDistributedAt.map (· + days (cooldownDays customer))) := by
  unfold CountedOn LapsesOn lapseOffset
  cases row.lead.lastDistributedAt with
  | none => simp
  | some last =>
  simp only [map_some, Option.mem_some, exists_eq_left']
  refine and_congr_right fun _ => ?_
  by_cases lapsed : last ≤ asOf - days (cooldownDays customer)
  · have past : ¬ asOf < last + days (cooldownDays customer) := not_lt.mpr (le_sub_iff_add_le.mp lapsed)
    simp [lapsed, past]
  have ahead : asOf < last + days (cooldownDays customer) := sub_lt_iff_lt_add.mp (not_le.mp lapsed)
  rw [if_neg lapsed, offset_iff _ _ within]
  exact (and_iff_right ahead).symm

/-- Whatever the events, the numbers are counts over the rows, and the first is the query's own. -/
theorem forecast_counts (casing : Casing) (db : Db) (customer : Customer) (asOf : Instant) :
    (computeCooldownForecast casing db customer asOf).1 =
    (eligibleQuery casing db (projectionRequest customer asOf) customer asOf).length ∧
    (computeCooldownForecast casing db customer asOf).2.map ForecastDay.offset = List.range
    (forecastDays + 1) ∧
    ∀ day ∈ (computeCooldownForecast casing db customer asOf).2, day.offset ≤ forecastDays ∧ day.count =
    (if day.offset = 0 then (computeCooldownForecast casing db customer asOf).1 else 0) +
    ((candidateBaseQuery casing db customer).filter
    (fun row => lapseOffset customer asOf row = some day.offset)).length := by
  have listed : ∀ counts, (forecastFrom asOf counts).map ForecastDay.offset = List.range
    (forecastDays + 1) := by
    intro counts
    simp [forecastFrom, comp_def]
  have counted : ∀ counts, ∀ day ∈ forecastFrom asOf counts, day.offset ≤ forecastDays ∧
    day.count = counts day.offset := by
    intro counts day member
    obtain ⟨offset, inRange, rfl⟩ := mem_map.mp member
    exact ⟨Nat.le_of_lt_succ (List.mem_range.mp inRange), rfl⟩
  unfold computeCooldownForecast
  by_cases unlicensed : customer.licensedStates = []
  · -- no Lead is in one of no states
    have nobody : ∀ row, candidate casing db customer row = false := by
      intro row
      simp [candidate, unlicensed]
    have none : eligibleQuery casing db (projectionRequest customer asOf) customer asOf = [] := by
      rw [List.eq_nil_iff_forall_not_mem]
      intro row member
      have passes := (admits_iff asOf row).mp (mem_eligibleQuery.mp member).2
      rw [nobody row] at passes
      cases passes.1
    rw [if_pos unlicensed, none]
    refine ⟨rfl, listed _, fun day member => ?_⟩
    obtain ⟨within, count⟩ := counted (fun _ => 0) day member
    refine ⟨within, ?_⟩
    simp [count, candidateBaseQuery, nobody]
  rw [if_neg unlicensed]
  refine ⟨?_, listed _, fun day member => ?_⟩
  · simp [computeCustomerAvailable, unlicensed, inventoryCount]
  · obtain ⟨within, count⟩ := counted _ day member
    exact ⟨within, by rw [count, Rows.tally_apply]⟩

open Classical in
/-- The forecast is exact if and only if the release of every candidate is foreseen. -/
theorem cooldown_forecast_exact_iff (casing : Casing) (db : Db) (customer : Customer)
    (asOf : Instant) : ForecastExact casing db customer asOf ↔
      ∀ row ∈ candidateBaseQuery casing db customer, ReleaseForeseen db customer asOf row.lead := by
  constructor
  · intro exact' row member k inHorizon
    obtain ⟨inPool, passes⟩ := mem_filter.mp member
    have within : k ≤ forecastDays := Nat.le_of_lt_succ (List.mem_range.mp inHorizon)
    have placed := exact'.placed row inPool k within
    rw [countedOn_iff within, firstAdmittedOn_iff] at placed
    simpa [passes] using placed
  intro foreseen
  obtain ⟨available, offsets, counts⟩ := forecast_counts casing db customer asOf
  have placed : ∀ row ∈ poolRows db customer, ∀ k ≤ forecastDays,
      CountedOn casing db customer asOf k row ↔ FirstAdmittedOn casing db customer asOf k row := by
    intro row inPool k within
    rw [countedOn_iff within, firstAdmittedOn_iff]
    refine and_congr_right fun passes => ?_
    exact foreseen row (mem_filter.mpr ⟨inPool, passes⟩) k (List.mem_range.mpr (Nat.lt_succ_of_le within))
  refine ⟨available, offsets, fun day member => ?_, placed⟩
  obtain ⟨within, count⟩ := counts day member
  rw [count, candidateBaseQuery, List.filter_filter]
  congr 2
  apply List.filter_congr
  intro row inPool
  rw [Bool.eq_iff_iff, and_eq_true, decide_eq_true_eq, decide_eq_true_eq, and_comm]
  exact placed row inPool day.offset within

end

/-! A Lead delivered four days ago to a Customer who has since been deactivated can be drawn again, and the
forecast of another Customer counts it a second time when seven days are over. -/

def deactivatedPool : Db :=
  { customers := [{ id := 1, licensedStates := ["TX"] }, { id := 2, active := false }]
    leads := [{ id := 1, phone := "5551234567", state := "TX", lastDistributedAt := some (days 96) }]
    events :=
      [{ id := 1, leadId := 1, customerId := some 2, agencyId := none, requestId := none,
         deliveredAt := days 96 }] }

/-- A Lead that is eligible now, because its last delivery went to a deactivated Customer, is
counted again on the day its `last_distributed_at` lapses. -/
theorem cooldown_forecast_counted_twice :
    let customer : Customer := { id := 1, licensedStates := ["TX"] }
    let forecast := computeCooldownForecast plainCasing deactivatedPool customer (days 100)
    forecast.1 = 1 ∧
      forecast.2.map ForecastDay.count = [1, 0, 0, 1, 0, 0, 0, 0, 0, 0, 0, 0, 0, 0, 0] ∧
      ¬ForecastExact plainCasing deactivatedPool customer (days 100) := by
  intro customer forecast
  refine ⟨by decide +kernel, by decide +kernel, ?_⟩
  intro exact'
  have row : ∃ row ∈ poolRows deactivatedPool customer,
      CountedOn plainCasing deactivatedPool customer (days 100) 3 row ∧
        admits plainCasing deactivatedPool (projectionRequest customer (days 100)) customer
          (days 100) row = true := by
    unfold CountedOn
    decide +kernel
  obtain ⟨row, inPool, counted, admitted⟩ := row
  obtain ⟨t, after, _, _, first⟩ := (exact'.placed row inPool 3 (by decide)).mp counted
  rw [first _ (le_refl _) after] at admitted
  cases admitted

end Jawnix
