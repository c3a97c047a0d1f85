import Jawnix.Library.Locks
import Jawnix.Recommendations

/-!
# Transactions on Scraper Configurations

Every writer of `scraper_configurations` locks one row first, then the rows whose
status it is about to replace, and commits. The statements run at READ COMMITTED: a
`SELECT … FOR UPDATE` finds its candidates in what is committed when it starts,
waits for the lock of each, and takes the row if it still qualifies then. The steps
here are the start of a statement, the taking of one lock, and the end of a
transaction.

Creating, rolling back and approving lock the latest version and insert the next
one, which the unique index lets only one of them do. Scheduling locks only its own
row.
-/
namespace Jawnix

inductive Operation where
  | create (draft : ScraperConfiguration)
  | schedule (id : Uuid) (now : Instant)
  | rollback (source newId userId : Uuid) (reason : String) (now : Instant)
  | approve (recommendation : SourceRecommendation) (decision : Decision)
  /-- `activate_scheduled_scraper_configuration`. -/
  | review (asOf : Instant)
  /-- `run_nightly_attempt`, which takes the scheduled configuration whatever its time. -/
  | attempt (now : Instant)

/-- A transaction waits for the lock of the first candidate of its first statement, has the row or
found none, or takes the locks of the rows to be replaced. -/
inductive Stage where
  | picking (candidates : List Uuid)
  | picked (row : Option Uuid)
  | sweeping (row : Option Uuid) (remaining taken : List Uuid)

structure Transaction where
  operation : Operation
  stage : Stage

structure Acquisition where
  rows : List ScraperConfiguration
  locks : Uuid → Option Nat := fun _ => none
  inFlight : List (Nat × Transaction) := []

inductive AcquisitionOp where
  | start (tid : Nat) (operation : Operation)
  | proceed (tid : Nat)
  | commit (tid : Nat)
  | abort (tid : Nat)

def newestFirst (rows : List ScraperConfiguration) : List ScraperConfiguration :=
  rows.insertionSort fun a b => b.version ≤ a.version

def oldestFirst (rows : List ScraperConfiguration) : List ScraperConfiguration :=
  rows.insertionSort fun a b => a.version ≤ b.version

def ScraperConfiguration.isScheduled (configuration : ScraperConfiguration) : Bool :=
    decide (configuration.status = .scheduled)
def ScraperConfiguration.isActive (configuration : ScraperConfiguration) : Bool :=
  decide (configuration.status = .active)

def ScraperConfiguration.isDue (asOf : Instant) (configuration : ScraperConfiguration) : Bool :=
  configuration.isScheduled && configuration.scheduledAt.any fun t => t ≤ asOf

def Operation.picks (row : ScraperConfiguration) : Operation → Bool
  | .create _ | .rollback .. | .approve .. => true
  | .schedule id _ => row.id = id
  | .review asOf => row.isDue asOf
  | .attempt _ => row.isScheduled

def Operation.candidates (rows : List ScraperConfiguration) (operation : Operation) :
    List ScraperConfiguration :=
  match operation with
  | .review _ => oldestFirst (rows.filter operation.picks)
  | _ => newestFirst (rows.filter operation.picks)

def Operation.sweeps (picked : Option Uuid) (row : ScraperConfiguration) : Operation → Bool
  | .create _ => false
  | .schedule id _ => picked.isSome && row.isScheduled && row.id ≠ id
  | .rollback .. => row.isScheduled
  | .approve .. => picked.isSome && row.isScheduled
  | .review _ | .attempt _ => picked.isSome && row.isActive

def rowOf (rows : List ScraperConfiguration) (id : Uuid) : Option ScraperConfiguration :=
  lookup ScraperConfiguration.id id rows

variable (status : ConfigurationStatus) (platform : SegmentPlatform) (s : Acquisition) (tid : Nat)
  (rows : List ScraperConfiguration)

def demote (taken : List Uuid) (rows : List ScraperConfiguration) : List ScraperConfiguration :=
  rows.map fun row => if row.id ∈ taken then { row with status } else row

def promote (id : Uuid) (f : ScraperConfiguration → ScraperConfiguration)
    (rows : List ScraperConfiguration) : List ScraperConfiguration :=
  rows.map fun row => if row.id = id then f row else row

def ScraperConfiguration.scheduleAt (now : Instant) (row : ScraperConfiguration) : ScraperConfiguration :=
  { row with status := .scheduled, scheduledAt := some now }

def ScraperConfiguration.activateAt (now : Instant) (row : ScraperConfiguration) : ScraperConfiguration :=
  { row with status := .active, activatedAt := some now }

open ScraperConfiguration (version isScheduled isActive scheduleAt activateAt)

def insertConfiguration (rows : List ScraperConfiguration) (row : ScraperConfiguration) :
    Option (List ScraperConfiguration) :=
  if row.id ∈ rows.map ScraperConfiguration.id ∨ row.version ∈ rows.map version then none
  else some (rows ++ [row])

def baseVersion (rows : List ScraperConfiguration) (picked : Option Uuid) : Nat :=
  ((picked.bind (rowOf rows)).map version).getD 0

def Operation.writes (rows : List ScraperConfiguration) (picked : Option Uuid)
    (taken : List Uuid) : Operation → Option (List ScraperConfiguration)
  | .create draft => insertConfiguration rows
      { draft with version := baseVersion rows picked + 1, status := .draft }
  | .schedule id now =>
    picked.map (fun _ => promote id (scheduleAt now) (demote .scheduleReplaced taken rows))
  | .rollback source newId userId reason now =>
    (rowOf rows source).bind (fun origin => insertConfiguration (demote .scheduleReplaced taken rows)
      { id := newId, version := baseVersion rows picked + 1, checksum := origin.checksum,
        status := .scheduled
        anomalyThresholds := origin.anomalyThresholds, createdBy := userId, reason := strip reason
        scheduledAt := some now, basedOnConfigurationId := some source, segments := origin.segments })
  | .approve recommendation decision =>
    (picked.bind (rowOf rows)).bind (fun latest =>
      match nextSegments platform latest recommendation with
      | .error (.refused _) => some (demote .scheduleReplaced taken rows)
      | .error _ => none
      | .ok segments =>
        decision.actor.uuid?.bind (fun createdBy => insertConfiguration (demote .scheduleReplaced taken rows)
          { id := decision.newId, version := baseVersion rows picked + 1
            checksum := platform.checksum segments latest.anomalyThresholds, status := .scheduled
            anomalyThresholds := latest.anomalyThresholds, createdBy, reason := decision.reason
            scheduledAt := some (scheduledAcquisition decision.now),
            basedOnConfigurationId := some latest.id, segments }))
  | .review now | .attempt now =>
    some (match picked with
      | none => rows
      | some id => promote id (activateAt now) (demote .superseded taken rows))

def Acquisition.put (operation : Operation) (stage : Stage) : Acquisition :=
  { s with inFlight := Dict.set tid { operation, stage } s.inFlight }

def Acquisition.leave : Acquisition :=
  { rows, locks := Locks.release s.locks tid, inFlight := Dict.erase tid s.inFlight }

/-- The next candidate: the transaction waits for its lock, and passes over it if it does not
qualify any more. -/
def Acquisition.take (operation : Operation) (id : Uuid) (qualifies : ScraperConfiguration → Bool)
    (passed taken : Stage) : Acquisition :=
  if Locks.available s.locks tid id then
    if (rowOf s.rows id).any qualifies then
      { s.put tid operation taken with locks := Locks.acquire s.locks tid id }
    else s.put tid operation passed
  else s

def Acquisition.proceed (t : Transaction) : Acquisition :=
  match t.stage with
  | .picking [] => s.put tid t.operation (.picked none)
  | .picking (id :: rest) => s.take tid t.operation id t.operation.picks (.picking rest) (.picked (some id))
  | .picked row =>
    s.put tid t.operation
      (.sweeping row ((s.rows.filter (t.operation.sweeps row)).map ScraperConfiguration.id) [])
  | .sweeping _ [] _ => s
  | .sweeping row (id :: rest) taken =>
    s.take tid t.operation id (t.operation.sweeps row) (.sweeping row rest taken)
      (.sweeping row rest (taken ++ [id]))

def Acquisition.commit (t : Transaction) : Acquisition :=
  match t.stage with
  | .sweeping row [] taken => s.leave tid ((t.operation.writes platform s.rows row taken).getD s.rows)
  | _ => s

def acquisitionStep : AcquisitionOp → Acquisition
  | .start tid operation =>
    match get? tid s.inFlight with
    | some _ => s
    | none => s.put tid operation (.picking ((operation.candidates s.rows).map ScraperConfiguration.id))
  | .proceed tid => (get? tid s.inFlight).elim s (s.proceed tid)
  | .commit tid => (get? tid s.inFlight).elim s (s.commit platform tid)
  | .abort tid => (get? tid s.inFlight).elim s fun _ => s.leave tid s.rows

def Operation.inserts : Operation → Bool
  | .create _ | .rollback .. | .approve .. => true
  | _ => false

def Operation.activates : Operation → Bool
  | .review _ | .attempt _ => true
  | _ => false

def Operation.isSchedule : Operation → Bool
  | .schedule .. => true
  | _ => false

def Operation.schedules : Operation → Bool
  | .schedule .. | .rollback .. | .approve .. => true
  | _ => false

def Stage.targets : Stage → List Uuid
  | .picking candidates => candidates
  | .picked row | .sweeping row _ _ => row.toList

def Stage.chosen : Stage → Option Uuid
  | .picking _ => none
  | .picked row | .sweeping row _ _ => row

def Stage.taken : Stage → List Uuid
  | .sweeping _ _ taken => taken
  | _ => []

/-- No version follows the one the transaction starts from. -/
def Live (target : Option Uuid) : Prop :=
  ∀ row ∈ rows, row.version ≠ baseVersion rows target + 1

/-- While none does, there is no newer version at all. -/
def Newest (target : Option Uuid) : Prop :=
  Live rows target → ∀ row ∈ rows, row.version ≤ baseVersion rows target

structure Transaction.Sound (locks : Uuid → Option Nat) (tid : Nat) (t : Transaction) : Prop where
  stored : ∀ id ∈ t.stage.targets, (rowOf rows id).isSome
  chosen : ∀ id ∈ t.stage.chosen, locks id = some tid
  taken : ∀ id ∈ t.stage.taken, locks id = some tid
  newest : t.operation.inserts → Newest rows t.stage.targets.head?
  scheduled : t.operation.activates → ∀ id ∈ t.stage.chosen, (rowOf rows id).any isScheduled
  named : ∀ id now, t.operation = .schedule id now → ∀ c ∈ t.stage.targets, c = id
  covers : ∀ picked remaining taken, t.stage = .sweeping picked remaining taken →
    (t.operation.inserts → Live rows picked) →
    ∀ row ∈ rows, t.operation.sweeps picked row → row.id ∈ remaining ∨ row.id ∈ taken

def AtMostOne (kept : ScraperConfiguration → Bool) (rows : List ScraperConfiguration) : Prop :=
  ∀ a ∈ rows, ∀ b ∈ rows, kept a → kept b → a = b

structure Acquisition.Sound : Prop where
  ids : Keyed ScraperConfiguration.id s.rows
  versions : Keyed version s.rows
  positive : ∀ row ∈ s.rows, 0 < row.version
  scheduled : AtMostOne isScheduled s.rows
  active : AtMostOne isActive s.rows
  transactions : ∀ tid t, get? tid s.inFlight = some t → t.Sound s.rows s.locks tid
  exclusive : ∀ tid t other u, get? tid s.inFlight = some t → get? other s.inFlight = some u →
    t.operation.isSchedule → u.operation.schedules → tid = other

section
variable {rows rows' : List ScraperConfiguration} {locks locks' : Uuid → Option Nat}
  {tid other : Nat} {t u : Transaction} {target : Option Uuid} {row : ScraperConfiguration}

structure Rewritten (locks : Uuid → Option Nat) (tid : Nat)
    (rows rows' : List ScraperConfiguration) : Prop where
  ids : Keyed ScraperConfiguration.id rows'
  versions : Keyed version rows'
  kept : ∀ row ∈ rows, ∃ row' ∈ rows', row'.id = row.id ∧ row'.version = row.version ∧
    (row' = row ∨ locks row.id = some tid)

theorem rowOf_some {id : Uuid} (found : rowOf rows id = some row) : row ∈ rows ∧ row.id = id :=
  lookup_some found

section
variable (rewrites : Rewritten locks tid rows rows')
include rewrites

theorem Rewritten.rowOf {id : Uuid} (found : rowOf rows id = some row) :
    ∃ row', rowOf rows' id = some row' ∧ row'.version = row.version ∧
    (row' = row ∨ locks id = some tid) := by
  obtain ⟨member, rfl⟩ := rowOf_some found
  obtain ⟨row', member', same, version, kept⟩ := rewrites.kept row member
  exact ⟨row', same ▸ lookup_of_mem rewrites.ids member', version, kept⟩

theorem Rewritten.baseVersion (stored : ∀ id ∈ target, (Jawnix.rowOf rows id).isSome) :
    baseVersion rows' target = baseVersion rows target := by
  cases target with
  | none => rfl
  | some id =>
    obtain ⟨row, found⟩ := isSome_iff_exists.mp (stored id rfl)
    obtain ⟨row', found', version, _⟩ := rewrites.rowOf found
    simp only [Jawnix.baseVersion, bind_some, found, found', map_some, getD_some, version]

theorem Rewritten.live (stored : ∀ id ∈ target, (Jawnix.rowOf rows id).isSome)
    (live : Live rows' target) : Live rows target := by
  intro row member same
  obtain ⟨row', member', _, version, _⟩ := rewrites.kept row member
  exact live row' member' (by rw [version, same, rewrites.baseVersion stored])

end

theorem Transaction.Sound.rewrite (sound : u.Sound rows locks other)
    (rewrites : Rewritten locks tid rows rows') (differ : other ≠ tid)
    (newest : u.operation.inserts → Newest rows' u.stage.targets.head?)
    (sweeps : ∀ picked remaining taken, u.stage = .sweeping picked remaining taken →
      (u.operation.inserts → Live rows' picked) → ∀ row' ∈ rows', u.operation.sweeps picked row' →
      ∃ row ∈ rows, row.id = row'.id ∧ u.operation.sweeps picked row) :
    u.Sound rows' (Locks.release locks tid) other := by
  refine ⟨fun id member => ?_, fun id member => Locks.holds_release differ (sound.chosen id member),
    fun id member => Locks.holds_release differ (sound.taken id member), newest,
      fun activates id member => ?_, sound.named,
    fun picked remaining taken stage live row' member' swept => ?_⟩
  · obtain ⟨row, found⟩ := isSome_iff_exists.mp (sound.stored id member)
    obtain ⟨row', found', _⟩ := rewrites.rowOf found
    rw [found']
    rfl
  · obtain ⟨row, found, scheduled⟩ := (Option.any_eq_true _ _).mp (sound.scheduled activates id member)
    obtain ⟨row', found', _, rfl | held⟩ := rewrites.rowOf found
    · rw [found']
      exact scheduled
    · exact absurd (some.inj ((sound.chosen id member).symm.trans held)) differ
  obtain ⟨row, member, same, sweptBefore⟩ := sweeps picked remaining taken stage live row' member' swept
  have stored : ∀ id ∈ picked, (Jawnix.rowOf rows id).isSome := fun id named => by
    refine sound.stored id ?_
    rw [stage]
    exact mem_toList.mpr named
  rw [← same]
  exact sound.covers picked remaining taken stage
    (fun inserts => rewrites.live stored (live inserts)) row member sweptBefore

theorem Transaction.Sound.locks_mono (sound : u.Sound rows locks other)
    (held : ∀ id, locks id = some other → locks' id = some other) : u.Sound rows locks' other :=
  ⟨sound.stored, fun id member => held id (sound.chosen id member), fun id member =>
    held id (sound.taken id member), sound.newest, sound.scheduled, sound.named, sound.covers⟩

end

section
variable {s : Acquisition} {tid : Nat} {t : Transaction} {operation : Operation}

theorem Acquisition.Sound.put (sound : s.Sound) (found : get? tid s.inFlight = some t) {stage : Stage}
    {locks : Uuid → Option Nat} (kept : ∀ other ≠ tid, ∀ id, s.locks id = some other → locks id = some other)
    (own : Transaction.Sound s.rows locks tid { t with stage }) :
    Acquisition.Sound { s.put tid t.operation stage with locks } := by
  refine ⟨sound.ids, sound.versions, sound.positive, sound.scheduled, sound.active,
    fun other u named => ?_, fun other u another v named named' => ?_⟩
  · rcases get?_set_cases named with ⟨rfl, rfl⟩ | ⟨differ, found⟩
    · exact own
    · exact (sound.transactions other u found).locks_mono (kept other differ)
  -- the operations in flight are the ones before
  have before : ∀ other u, get? other (Dict.set tid { t with stage } s.inFlight) = some u →
      ∃ v, get? other s.inFlight = some v ∧ v.operation = u.operation := by
    intro other u named
    rcases get?_set_cases named with ⟨rfl, rfl⟩ | ⟨_, found⟩
    · exact ⟨t, found, rfl⟩
    · exact ⟨u, found, rfl⟩
  obtain ⟨u', held, same⟩ := before other u named
  obtain ⟨v', held', same'⟩ := before another v named'
  rw [← same, ← same']
  exact sound.exclusive other u' another v' held held'

theorem Acquisition.Sound.leave (sound : s.Sound) {rows : List ScraperConfiguration}
    (ids : Keyed ScraperConfiguration.id rows) (versions : Keyed version rows)
    (positive : ∀ row ∈ rows, 0 < row.version) (scheduled : AtMostOne isScheduled rows)
    (active : AtMostOne isActive rows)
    (others : ∀ other ≠ tid, ∀ u, get? other s.inFlight = some u →
      u.Sound rows (Locks.release s.locks tid) other) :
    (s.leave tid rows).Sound := by
  refine ⟨ids, versions, positive, scheduled, active, fun other u named =>
    ?_, fun other u another v named named' => ?_⟩
  · obtain ⟨differ, held⟩ := get?_erase_cases named
    exact others other differ u held
  · exact sound.exclusive other u another v (get?_erase_cases named).2 (get?_erase_cases named').2

theorem picks_of_inserts (inserts : operation.inserts) (row : ScraperConfiguration) :
    operation.picks row := by
  cases operation <;> first | rfl | cases inserts

theorem isScheduled_of_picks (activates : operation.activates) (picks : operation.picks row) :
    row.isScheduled := by
  cases operation with
  | review asOf => exact (and_eq_true_iff.mp picks).1
  | attempt now => exact picks
  | _ => cases activates

theorem Acquisition.Sound.proceed (sound : s.Sound) (found : get? tid s.inFlight = some t) :
    (s.proceed tid t).Sound := by
  have own := sound.transactions tid t found
  obtain ⟨operation, stage⟩ := t
  have kept : ∀ {id}, Locks.available s.locks tid id →
      ∀ other ≠ tid, ∀ x, s.locks x = some other → Locks.acquire s.locks tid id x = some other :=
    fun free _ _ _ held => Locks.holds_acquire free held
  unfold Acquisition.proceed
  cases stage with
  | picking candidates =>
    cases candidates with
    | nil =>
      exact sound.put found (fun _ _ _ held => held)
        ⟨nofun, nofun, nofun, own.newest, fun _ => nofun, fun _ _ _ => nofun, nofun⟩
    | cons id rest =>
    obtain ⟨row, isRow⟩ := isSome_iff_exists.mp (own.stored id mem_cons_self)
    dsimp only
    unfold Acquisition.take
    split
    case isTrue free =>
      split
      case isTrue qualifies =>
        refine sound.put found (kept free) ⟨?_, ?_, nofun, own.newest, ?_, ?_, nofun⟩
        · exact fun c member => own.stored c (mem_singleton.mp member ▸ mem_cons_self)
        · intro c member
          cases member
          exact Locks.acquire_self
        · intro activates c member
          cases member
          rw [isRow] at qualifies ⊢
          exact isScheduled_of_picks activates qualifies
        · exact fun i now same c member => own.named i now same c (mem_singleton.mp member ▸ mem_cons_self)
      case isFalse disqualified =>
      refine sound.put found (fun _ _ _ held => held) ⟨?_, nofun, nofun, ?_, fun _ => nofun, ?_, nofun⟩
      · exact fun c member => own.stored c (mem_cons_of_mem id member)
      · intro inserts
        rw [isRow] at disqualified
        exact absurd (picks_of_inserts inserts row) disqualified
      · exact fun i now same c member => own.named i now same c (mem_cons_of_mem id member)
    · exact sound
  | picked row =>
    refine sound.put found (fun _ _ _ held => held)
      ⟨own.stored, own.chosen, nofun, own.newest, own.scheduled, own.named, ?_⟩
    rintro _ _ _ ⟨⟩ _ c member swept
    exact .inl (mem_map_of_mem (mem_filter.mpr ⟨member, swept⟩))
  | sweeping row remaining taken =>
  cases remaining with
  | nil => exact sound
  | cons id rest =>
  dsimp only
  unfold Acquisition.take
  split
  case isTrue free =>
    split
    case isTrue qualifies =>
      refine sound.put found (kept free)
        ⟨own.stored, fun c member => Locks.holds_acquire free (own.chosen c member), ?_, own.newest,
          own.scheduled, own.named, ?_⟩
      · intro c member
        rcases mem_append.mp member with earlier | now
        · exact Locks.holds_acquire free (own.taken c earlier)
        rw [mem_singleton.mp now]
        exact Locks.acquire_self
      rintro _ _ _ ⟨⟩ live c member swept
      rcases own.covers _ _ _ rfl live c member swept with waiting | earlier
      · rcases mem_cons.mp waiting with here | later
        · exact .inr (mem_append_right _ (here ▸ mem_singleton_self _))
        · exact .inl later
      · exact .inr (mem_append_left _ earlier)
    case isFalse disqualified =>
    refine sound.put found (fun _ _ _ held => held)
      ⟨own.stored, own.chosen, own.taken, own.newest, own.scheduled, own.named, ?_⟩
    rintro _ _ _ ⟨⟩ live c member swept
    rcases own.covers _ _ _ rfl live c member swept with waiting | earlier
    · rcases mem_cons.mp waiting with here | later
      · have isRow : rowOf s.rows id = some c := here ▸ lookup_of_mem sound.ids member
        rw [isRow] at disqualified
        exact absurd swept disqualified
      · exact .inl later
    · exact .inr earlier
  · exact sound

theorem Acquisition.Sound.abort (sound : s.Sound) (tid : Nat) : (s.leave tid s.rows).Sound :=
  sound.leave sound.ids sound.versions sound.positive sound.scheduled sound.active
    fun other differ u found =>
    (sound.transactions other u found).locks_mono fun _ held => Locks.holds_release differ held

/-- `schedule_scraper_configuration` does not overlap another transaction that leaves a
configuration scheduled. -/
def SchedulesAlone (s : Acquisition) : AcquisitionOp → Prop
  | .start _ operation => ∀ entry ∈ s.inFlight,
      (operation.isSchedule → entry.2.operation.schedules = false) ∧
        (operation.schedules → entry.2.operation.isSchedule = false)
  | _ => True

instance (s : Acquisition) (op : AcquisitionOp) : Decidable (SchedulesAlone s op) := by
  unfold SchedulesAlone
  split <;> infer_instance

theorem mem_candidates : row ∈ operation.candidates s.rows ↔ row ∈ s.rows ∧ operation.picks row := by
  unfold Operation.candidates
  split <;> simp [newestFirst, oldestFirst, List.mem_insertionSort, mem_filter]

theorem newestFirst_head {rows : List ScraperConfiguration} {first : ScraperConfiguration}
    (head : (newestFirst rows).head? = some first) : ∀ row ∈ rows, row.version ≤ first.version := by
  intro row member
  have sorted := List.pairwise_insertionSort (fun a b : ScraperConfiguration => b.version ≤ a.version) rows
  have inSorted : row ∈ newestFirst rows := (List.mem_insertionSort _).mpr member
  unfold newestFirst at head inSorted
  cases ordered : rows.insertionSort (fun a b => b.version ≤ a.version) with
  | nil =>
    rw [ordered] at head
    cases head
  | cons a rest =>
    rw [ordered] at head sorted inSorted
    cases head
    rcases mem_cons.mp inSorted with rfl | later
    · exact Nat.le_refl _
    · exact (List.pairwise_cons.mp sorted).1 row later

theorem newest_start (ids : Keyed ScraperConfiguration.id s.rows) (inserts : operation.inserts) :
    Newest s.rows ((operation.candidates s.rows).map ScraperConfiguration.id).head? := by
  have all : operation.candidates s.rows = newestFirst s.rows := by
    have kept : s.rows.filter operation.picks = s.rows :=
      List.filter_eq_self.mpr fun row _ => picks_of_inserts inserts row
    unfold Operation.candidates
    cases operation with
    | create draft => exact congrArg newestFirst kept
    | rollback => exact congrArg newestFirst kept
    | approve => exact congrArg newestFirst kept
    | _ => cases inserts
  rw [all, List.head?_map]
  intro _ row member
  cases head : (newestFirst s.rows).head? with
  | none =>
    have inSorted : row ∈ newestFirst s.rows := (List.mem_insertionSort _).mpr member
    rw [List.head?_eq_none_iff.mp head] at inSorted
    cases inSorted
  | some first =>
    have stored : first ∈ s.rows := (List.mem_insertionSort _).mp (List.mem_of_head? head)
    have found : rowOf s.rows first.id = some first := lookup_of_mem ids stored
    simp only [map_some, baseVersion, bind_some, found, getD_some]
    exact newestFirst_head head row member

theorem Acquisition.Sound.start (sound : s.Sound) (apart : SchedulesAlone s (.start tid operation)) :
    (s.put tid operation (.picking ((operation.candidates s.rows).map ScraperConfiguration.id))).Sound := by
  have own : Transaction.Sound s.rows s.locks tid
      { operation, stage := .picking ((operation.candidates s.rows).map ScraperConfiguration.id) } := by
    have candidate : ∀ id ∈ (operation.candidates s.rows).map ScraperConfiguration.id,
        ∃ row ∈ s.rows, operation.picks row ∧ row.id = id := by
      intro id member
      obtain ⟨row, inList, rfl⟩ := mem_map.mp member
      obtain ⟨stored, picks⟩ := mem_candidates.mp inList
      exact ⟨row, stored, picks, rfl⟩
    refine ⟨fun id member => ?_, by simp [Stage.chosen], by simp [Stage.taken],
      newest_start sound.ids, by simp [Stage.chosen], ?_, by simp⟩
    · obtain ⟨row, stored, _, rfl⟩ := candidate id member
      have found : rowOf s.rows row.id = some row := lookup_of_mem sound.ids stored
      rw [found]
      rfl
    rintro id now rfl c member
    obtain ⟨row, _, picks, rfl⟩ := candidate c member
    exact of_decide_eq_true picks
  refine ⟨sound.ids, sound.versions, sound.positive, sound.scheduled, sound.active,
    fun other u named => ?_, fun other u another v named named' isSchedule schedules => ?_⟩
  · change get? other (Dict.set _ _ _) = _ at named
    rw [Dict.get?_set] at named
    split at named
    case isTrue here =>
      cases named
      exact here ▸ own
    · exact sound.transactions other u named
  change get? other (Dict.set _ _ _) = _ at named
  change get? another (Dict.set _ _ _) = _ at named'
  rw [Dict.get?_set] at named named'
  split at named
  case isTrue here =>
    split at named'
    case isTrue here' => exact here.symm.trans here'
    · cases named
      have refused := (apart _ (mem_of_get? named')).1 isSchedule
      exact absurd (refused.symm.trans schedules) Bool.false_ne_true
  · split at named'
    · cases named'
      have refused := (apart _ (mem_of_get? named)).2 schedules
      exact absurd (refused.symm.trans isSchedule) Bool.false_ne_true
    · exact sound.exclusive other u another v named named' isSchedule schedules

end

section
variable {rows rows' : List ScraperConfiguration} {locks : Uuid → Option Nat} {tid : Nat}
  {taken : List Uuid} {picked : Option Uuid} {operation : Operation} {id : Uuid}
  {after : List ScraperConfiguration}

section
variable (rewrites : Rewritten locks tid rows rows')
include rewrites

theorem Rewritten.map {f : ScraperConfiguration → ScraperConfiguration}
    (sameId : ∀ row, (f row).id = row.id) (sameVersion : ∀ row, (f row).version = row.version)
    (kept : ∀ row, f row = row ∨ locks row.id = some tid) : Rewritten locks tid rows (rows'.map f) := by
  refine ⟨?_, ?_, fun row member => ?_⟩
  · rw [Keyed, map_map]
    exact (map_congr_left fun row _ => sameId row) ▸ rewrites.ids
  · rw [Keyed, map_map]
    exact (map_congr_left fun row _ => sameVersion row) ▸ rewrites.versions
  obtain ⟨row', member', named, version, same⟩ := rewrites.kept row member
  refine ⟨f row', mem_map_of_mem member', (sameId row').trans named, (sameVersion row').trans version, ?_⟩
  rcases same with rfl | held
  · exact kept row'
  · exact .inr held

theorem Rewritten.demote (held : ∀ c ∈ taken, locks c = some tid)
    (status : ConfigurationStatus) : Rewritten locks tid rows (demote status taken rows') := by
  refine rewrites.map (fun row => ?_) (fun row => ?_) (fun row => ?_)
  · split <;> rfl
  · split <;> rfl
  split
  case isTrue mine => exact .inr (held row.id mine)
  · exact .inl rfl

theorem Rewritten.promote (held : locks id = some tid)
    {f : ScraperConfiguration → ScraperConfiguration} (sameId : ∀ row, (f row).id = row.id)
    (sameVersion : ∀ row, (f row).version = row.version) :
    Rewritten locks tid rows (promote id f rows') := by
  refine rewrites.map (fun row => ?_) (fun row => ?_) (fun row => ?_)
  · split
    · exact sameId row
    · rfl
  · split
    · exact sameVersion row
    · rfl
  split
  case isTrue mine => exact .inr (mine ▸ held)
  · exact .inl rfl

theorem Rewritten.append (freshId : row.id ∉ rows'.map ScraperConfiguration.id)
    (freshVersion : row.version ∉ rows'.map version) :
    Rewritten locks tid rows (rows' ++ [row]) := by
  have apart : ∀ {κ : Type} (key : ScraperConfiguration → κ), key row ∉ rows'.map key →
    ∀ x ∈ rows', key x ≠ key row :=
    fun key absent x member same => absent (same ▸ mem_map_of_mem member)
  refine ⟨keyed_append.mpr ⟨rewrites.ids, apart _ freshId⟩,
    keyed_append.mpr ⟨rewrites.versions, apart _ freshVersion⟩, fun old member => ?_⟩
  obtain ⟨row', member', rest⟩ := rewrites.kept old member
  exact ⟨row', mem_append_left _ member', rest⟩

end

theorem mem_demote {kept : ScraperConfiguration → Bool} {status : ConfigurationStatus}
    (gone : ∀ row : ScraperConfiguration, kept { row with status } = false)
    (member : row ∈ demote status taken rows) (qualifies : kept row) : row ∈ rows ∧ row.id ∉ taken := by
  obtain ⟨old, inRows, rfl⟩ := mem_map.mp member
  split at qualifies
  · rw [gone old] at qualifies
    cases qualifies
  case isFalse other =>
  rw [if_neg other]
  exact ⟨inRows, other⟩

theorem mem_promote {f : ScraperConfiguration → ScraperConfiguration}
    (member : row ∈ promote id f rows) (sameId : ∀ row, (f row).id = row.id) :
    row.id = id ∧ (∃ old ∈ rows, row = f old) ∨ row ∈ rows ∧ row.id ≠ id := by
  obtain ⟨old, inRows, rfl⟩ := mem_map.mp member
  split
  case isTrue here => exact .inl ⟨(sameId old).trans here, old, inRows, rfl⟩
  case isFalse other => exact .inr ⟨inRows, other⟩

theorem insertConfiguration_some (done : insertConfiguration rows row = some after) :
    row.id ∉ rows.map ScraperConfiguration.id ∧ row.version ∉ rows.map version ∧ after = rows ++ [row] := by
  obtain ⟨fresh, done⟩ := Option.ite_none_left_eq_some.mp done
  obtain ⟨freshId, freshVersion⟩ := not_or.mp fresh
  exact ⟨freshId, freshVersion, (some.inj done).symm⟩

theorem writes_cases (rows : List ScraperConfiguration) (picked : Option Uuid) (taken : List Uuid)
    (operation : Operation) (done : operation.writes platform rows picked taken = some after) :
    after = rows ∨ (∃ row, operation.inserts ∧ row.version = baseVersion rows picked + 1 ∧
    (row.status = .draft ∧ insertConfiguration rows row = some after ∨ row.status = .scheduled ∧
      operation.schedules ∧
      insertConfiguration (demote .scheduleReplaced taken rows) row = some after ∧
      ∀ row, row.isScheduled → operation.sweeps picked row)) ∨
    after = demote .scheduleReplaced taken rows ∨
    (∃ id now, operation = .schedule id now ∧ picked.isSome ∧ after = promote id (scheduleAt now)
      (demote .scheduleReplaced taken rows)) ∨
    ∃ id now, operation.activates ∧ picked = some id ∧ after = promote id (activateAt now)
    (demote .superseded taken rows) := by
  cases operation with
  | create draft => exact .inr (.inl ⟨_, rfl, rfl, .inl ⟨rfl, done⟩⟩)
  | schedule id now =>
    obtain ⟨c, rfl, same⟩ := map_eq_some_iff.mp done
    exact .inr (.inr (.inr (.inl ⟨id, now, rfl, rfl, same.symm⟩)))
  | rollback source newId userId reason now =>
    obtain ⟨origin, _, inserted⟩ := bind_eq_some_iff.mp done
    exact .inr (.inl ⟨_, rfl, rfl, .inr ⟨rfl, rfl, inserted, fun _ scheduled => scheduled⟩⟩)
  | approve recommendation decision =>
    obtain ⟨latest, isLatest, rest⟩ := bind_eq_some_iff.mp done
    obtain ⟨c, rfl, _⟩ := bind_eq_some_iff.mp isLatest
    split at rest
    · exact .inr (.inr (.inl (some.inj rest).symm))
    · cases rest
    · obtain ⟨createdBy, _, inserted⟩ := bind_eq_some_iff.mp rest
      exact .inr (.inl ⟨_, rfl, rfl, .inr ⟨rfl, rfl, inserted, fun _ scheduled => scheduled⟩⟩)
  | review asOf =>
    cases picked with
    | none => exact .inl (some.inj done).symm
    | some id => exact .inr (.inr (.inr (.inr ⟨id, asOf, rfl, rfl, (some.inj done).symm⟩)))
  | attempt now =>
    cases picked with
    | none => exact .inl (some.inj done).symm
    | some id => exact .inr (.inr (.inr (.inr ⟨id, now, rfl, rfl, (some.inj done).symm⟩)))

theorem demote_versions (taken : List Uuid) (rows : List ScraperConfiguration) :
    (demote status taken rows).map version = rows.map version := by
  rw [demote, map_map]
  refine map_congr_left fun row _ => ?_
  rw [comp_apply]
  split <;> rfl

theorem promote_versions (f : ScraperConfiguration → ScraperConfiguration)
    (same : ∀ row, (f row).version = row.version) (id : Uuid) (rows : List ScraperConfiguration) :
    (promote id f rows).map version = rows.map version := by
  rw [promote, map_map]
  refine map_congr_left fun row _ => ?_
  rw [comp_apply]
  split
  · exact same row
  · rfl

theorem version_of_versions (versions : rows'.map version = rows.map version)
    {row' : ScraperConfiguration} (member : row' ∈ rows') : ∃ row ∈ rows, row.version = row'.version :=
  mem_map.mp (versions ▸ mem_map_of_mem member)

theorem Newest.rewrite (rewrites : Rewritten locks tid rows rows')
    (versions : rows'.map version = rows.map version)
    (stored : ∀ id ∈ target, (rowOf rows id).isSome)
    (newest : Newest rows target) : Newest rows' target := by
  intro live row' member
  obtain ⟨row, inRows, same⟩ := version_of_versions versions member
  rw [rewrites.baseVersion stored, ← same]
  exact newest (rewrites.live stored live) row inRows

theorem baseVersion_le {bound : Nat} (bounded : ∀ row ∈ rows, row.version ≤ bound)
    (target : Option Uuid) : baseVersion rows target ≤ bound := by
  unfold baseVersion
  cases found : target.bind (rowOf rows) with
  | none => exact Nat.zero_le _
  | some row =>
    obtain ⟨id, _, isRow⟩ := bind_eq_some_iff.mp found
    exact bounded row (rowOf_some isRow).1

end

section
variable {s : Acquisition} {tid other : Nat} {t u : Transaction} {picked : Option Uuid}
  {taken : List Uuid} {after : List ScraperConfiguration} {operation : Operation}

theorem Transaction.Sound.target_stored {rows : List ScraperConfiguration} {locks : Uuid → Option Nat}
    (sound : u.Sound rows locks other) : ∀ id ∈ u.stage.targets.head?, (rowOf rows id).isSome :=
  fun id member => sound.stored id (List.mem_of_head? member)

theorem Rewritten.refl (sound : s.Sound) : Rewritten s.locks tid s.rows s.rows :=
  ⟨sound.ids, sound.versions, fun row member => ⟨row, member, rfl, rfl, .inl rfl⟩⟩

theorem Acquisition.Sound.demotes (sound : s.Sound) (found : get? tid s.inFlight = some t)
    {remaining : List Uuid} (stage : t.stage = .sweeping picked remaining taken)
    (status : ConfigurationStatus) : Rewritten s.locks tid s.rows (demote status taken s.rows) :=
  (Rewritten.refl sound).demote (fun c member => (sound.transactions tid t found).taken c
    (stage ▸ member)) status

theorem targets_sweeping {remaining : List Uuid}
    (stage : t.stage = .sweeping picked remaining taken) : t.stage.targets.head? = picked := by
  rw [stage]
  exact Option.head?_toList

theorem Acquisition.Sound.restate (sound : s.Sound) (rewrites : Rewritten s.locks tid s.rows after)
    (versions : after.map version = s.rows.map version)
    (scheduled : AtMostOne isScheduled after) (active : AtMostOne isActive after)
    (sweeps : ∀ other ≠ tid, ∀ u, get? other s.inFlight = some u → ∀ picked remaining taken,
    u.stage = .sweeping picked remaining taken → ∀ row' ∈ after, u.operation.sweeps picked row' →
    ∃ row ∈ s.rows, row.id = row'.id ∧ u.operation.sweeps picked row) : (s.leave tid after).Sound := by
  refine sound.leave rewrites.ids rewrites.versions (fun row member => ?_) scheduled active
    fun other differ u found => ?_
  · obtain ⟨old, inRows, same⟩ := version_of_versions versions member
    exact same ▸ sound.positive old inRows
  have theirs := sound.transactions other u found
  exact theirs.rewrite rewrites differ
    (fun inserts => (theirs.newest inserts).rewrite rewrites versions theirs.target_stored)
    fun picked remaining taken stage _ => sweeps other differ u found picked remaining taken stage

theorem Acquisition.Sound.insert (sound : s.Sound) (rewrites : Rewritten s.locks tid s.rows after)
    (newest : Newest s.rows picked) (live : Live s.rows picked) {rows' : List ScraperConfiguration}
    (appended : after = rows' ++ [row]) (versions : rows'.map version = s.rows.map version)
    (next : row.version = baseVersion s.rows picked + 1)
    (scheduled : AtMostOne isScheduled after) (active : AtMostOne isActive after)
    (sweeps : ∀ other ≠ tid, ∀ u, get? other s.inFlight = some u → u.operation.inserts = false →
    ∀ picked remaining taken,
    u.stage = .sweeping picked remaining taken → ∀ row' ∈ after, u.operation.sweeps picked row' →
    ∃ row ∈ s.rows, row.id = row'.id ∧ u.operation.sweeps picked row) : (s.leave tid after).Sound := by
  have member : row ∈ after := by
    rw [appended]
    exact mem_append_right _ (mem_singleton_self row)
  refine sound.leave rewrites.ids rewrites.versions (fun x inAfter => ?_) scheduled active
    fun other differ u found => ?_
  · rw [appended] at inAfter
    rcases mem_append.mp inAfter with old | new
    · obtain ⟨before, inRows, same⟩ := version_of_versions versions old
      exact same ▸ sound.positive before inRows
    · rw [mem_singleton.mp new, next]
      exact Nat.succ_pos _
  have theirs := sound.transactions other u found
  have dead : ∀ {target : Option Uuid}, u.operation.inserts → u.stage.targets.head? = target →
    ¬Live after target := by
    -- once the next version is there, nobody else can insert it
    rintro target inserts rfl live'
    have below := baseVersion_le (newest live) u.stage.targets.head?
    have above := baseVersion_le (theirs.newest inserts (rewrites.live theirs.target_stored live')) picked
    refine live' row member ?_
    rw [rewrites.baseVersion theirs.target_stored, next, Nat.le_antisymm above below]
  refine theirs.rewrite rewrites differ (fun inserts live' => absurd live' (dead inserts rfl)) ?_
  intro picked' remaining taken stage live'
  cases inserts : u.operation.inserts with
  | true =>
    exact absurd (live' inserts) (dead inserts (targets_sweeping stage))
  | false => exact sweeps other differ u found inserts picked' remaining taken stage

theorem sweeps_cases (swept : operation.sweeps picked row) : operation.schedules ∧ row.isScheduled ∨
    operation.activates ∧ picked.isSome ∧ row.isActive := by
  cases operation with
  | create draft => cases swept
  | schedule id now => exact .inl ⟨rfl, (and_eq_true_iff.mp (and_eq_true_iff.mp swept).1).2⟩
  | rollback => exact .inl ⟨rfl, swept⟩
  | approve => exact .inl ⟨rfl, (and_eq_true_iff.mp swept).2⟩
  | review => exact .inr ⟨rfl, and_eq_true_iff.mp swept⟩
  | attempt => exact .inr ⟨rfl, and_eq_true_iff.mp swept⟩

theorem isSchedule_of_schedules (schedules : operation.schedules)
    (inserts : operation.inserts = false) : operation.isSchedule := by
  cases operation with
  | schedule id now => rfl
  | rollback => cases inserts
  | approve => cases inserts
  | _ => cases schedules

theorem sweeps_of_activates (activates : operation.activates) (id : Uuid) (active : row.isActive) :
    operation.sweeps (some id) row ∧ operation.inserts = false := by
  cases operation with
  | review => exact ⟨active, rfl⟩
  | attempt => exact ⟨active, rfl⟩
  | _ => cases activates

theorem AtMostOne.subset {kept : ScraperConfiguration → Bool} {rows : List ScraperConfiguration}
    (one : AtMostOne kept rows) (within : ∀ row ∈ after, kept row → row ∈ rows) :
    AtMostOne kept after :=
  fun a inA b inB keptA keptB => one a (within a inA keptA) b (within b inB keptB) keptA keptB

theorem Acquisition.Sound.insertDraft (sound : s.Sound) (newest : Newest s.rows picked)
    (next : row.version = baseVersion s.rows picked + 1) (draft : row.status = .draft)
    (inserted : insertConfiguration s.rows row = some after) : (s.leave tid after).Sound := by
  obtain ⟨freshId, freshVersion, rfl⟩ := insertConfiguration_some inserted
  have live : Live s.rows picked := fun old member same => freshVersion (next ▸ same ▸ mem_map_of_mem member)
  have old : ∀ x ∈ s.rows ++ [row], x.isScheduled ∨ x.isActive → x ∈ s.rows := by
    intro x member marked
    rcases mem_append.mp member with old | new
    · exact old
    rw [mem_singleton.mp new, isScheduled, isActive, draft] at marked
    exact nomatch marked
  refine sound.insert ((Rewritten.refl sound).append freshId freshVersion) newest live rfl rfl next
    (sound.scheduled.subset fun x member marked => old x member (.inl marked))
    (sound.active.subset fun x member marked => old x member (.inr marked)) ?_
  intro other _ u _ _ picked' _ _ _ x member swept
  have marked : x.isScheduled ∨ x.isActive :=
    (sweeps_cases swept).imp (fun ⟨_, scheduled⟩ => scheduled) fun ⟨_, _, active⟩ => active
  exact ⟨x, old x member marked, rfl, swept⟩

/-- A new schedule replaces every other, since the rows it sweeps are all there are. -/
theorem Acquisition.Sound.insertScheduled (sound : s.Sound) (found : get? tid s.inFlight = some t)
    (stage : t.stage = .sweeping picked [] taken) (inserts : t.operation.inserts)
    (schedules : t.operation.schedules)
    (sweeps : ∀ row, row.isScheduled → t.operation.sweeps picked row)
    (next : row.version = baseVersion s.rows picked + 1) (isScheduled : row.status = .scheduled)
    (inserted : insertConfiguration (demote .scheduleReplaced taken s.rows) row = some after) :
    (s.leave tid after).Sound := by
  have own := sound.transactions tid t found
  obtain ⟨freshId, freshVersion, rfl⟩ := insertConfiguration_some inserted
  have rewrites : Rewritten s.locks tid s.rows (demote .scheduleReplaced taken s.rows ++ [row]) :=
    (sound.demotes found stage _).append freshId freshVersion
  rw [demote_versions] at freshVersion
  have live : Live s.rows picked := fun old member same => freshVersion (next ▸ same ▸ mem_map_of_mem member)
  -- a schedule that was not replaced would not have been swept
  have replaced : ∀ x ∈ demote .scheduleReplaced taken s.rows, x.isScheduled ≠ true := by
    intro x member scheduled
    obtain ⟨inRows, untaken⟩ := mem_demote (fun _ => rfl) member scheduled
    rcases own.covers picked [] taken stage (fun _ => live) x inRows (sweeps x scheduled) with
      waiting | swept
    · cases waiting
    · exact untaken swept
  have only : ∀ x ∈ demote .scheduleReplaced taken s.rows ++ [row], x.isScheduled → x = row := by
    intro x member scheduled
    rcases mem_append.mp member with old | new
    · exact absurd scheduled (replaced x old)
    · exact mem_singleton.mp new
  have old : ∀ x ∈ demote .scheduleReplaced taken s.rows ++ [row], x.isActive → x ∈ s.rows := by
    intro x member active
    rcases mem_append.mp member with old | new
    · exact (mem_demote (fun _ => rfl) old active).1
    rw [mem_singleton.mp new, isActive, isScheduled] at active
    cases active
  refine sound.insert rewrites (targets_sweeping stage ▸ own.newest inserts) live rfl
    (demote_versions _ _ _) next
    (fun a inA b inB keptA keptB => (only a inA keptA).trans (only b inB keptB).symm)
      (sound.active.subset old) ?_
  intro other differ u theirs unique picked' _ _ _ x member swept
  rcases sweeps_cases swept with ⟨alsoSchedules, _⟩ | ⟨_, _, active⟩
  · exact absurd (sound.exclusive other u tid t theirs found
      (isSchedule_of_schedules alsoSchedules unique) schedules) differ
  · exact ⟨x, old x member active, rfl, swept⟩

theorem Acquisition.Sound.unschedule (sound : s.Sound) (found : get? tid s.inFlight = some t)
    (stage : t.stage = .sweeping picked [] taken) :
    (s.leave tid (demote .scheduleReplaced taken s.rows)).Sound := by
  have old : ∀ x ∈ demote .scheduleReplaced taken s.rows, x.isScheduled ∨ x.isActive → x ∈ s.rows := by
    rintro x member (scheduled | active)
    · exact (mem_demote (fun _ => rfl) member scheduled).1
    · exact (mem_demote (fun _ => rfl) member active).1
  refine sound.restate (sound.demotes found stage _) (demote_versions _ _ _)
    (sound.scheduled.subset fun x member marked => old x member (.inl marked))
    (sound.active.subset fun x member marked => old x member (.inr marked)) ?_
  intro other _ u _ picked' _ _ _ x member swept
  have marked : x.isScheduled ∨ x.isActive :=
    (sweeps_cases swept).imp (fun ⟨_, scheduled⟩ => scheduled) fun ⟨_, _, active⟩ => active
  exact ⟨x, old x member marked, rfl, swept⟩

variable {now : Instant}

theorem Acquisition.Sound.schedule (sound : s.Sound) (found : get? tid s.inFlight = some t)
    (stage : t.stage = .sweeping picked [] taken) {id : Uuid}
    (isSchedule : t.operation = .schedule id now) (some_picked : picked.isSome) :
    (s.leave tid (promote id (scheduleAt now)
    (demote .scheduleReplaced taken s.rows))).Sound := by
  have own := sound.transactions tid t found
  obtain ⟨c, rfl⟩ := isSome_iff_exists.mp some_picked
  have named : c = id := own.named id now isSchedule c (by rw [stage]; exact mem_singleton_self c)
  subst named
  have mine : s.locks c = some tid := own.chosen c (by rw [stage]; rfl)
  have rewrites := (sound.demotes found stage .scheduleReplaced).promote mine
    (f := scheduleAt now) (fun _ => rfl) (fun _ => rfl)
  have only : ∀ x ∈ promote c (scheduleAt now)
      (demote .scheduleReplaced taken s.rows), x.isScheduled → x.id = c := by
    intro x member scheduled
    rcases mem_promote member (fun _ => rfl) with ⟨here, _⟩ | ⟨inDemoted, elsewhere⟩
    · exact here
    obtain ⟨inRows, untaken⟩ := mem_demote (fun _ => rfl) inDemoted scheduled
    have swept : t.operation.sweeps (some c) x := by
      rw [isSchedule]
      simp [Operation.sweeps, scheduled, elsewhere]
    rcases own.covers (some c) [] taken stage
      (fun inserts => nomatch isSchedule ▸ inserts) x inRows swept with waiting | swept
    · cases waiting
    · exact absurd swept untaken
  have old : ∀ x ∈ promote c (scheduleAt now)
      (demote .scheduleReplaced taken s.rows), x.isActive → x ∈ s.rows := by
    intro x member active
    rcases mem_promote member (fun _ => rfl) with ⟨_, before, _, rfl⟩ | ⟨inDemoted, _⟩
    · cases active
    · exact (mem_demote (fun _ => rfl) inDemoted active).1
  refine sound.restate rewrites ((promote_versions (scheduleAt now) (fun _ => rfl) _ _).trans
    (demote_versions _ _ _))
    (fun a inA b inB keptA keptB => eq_of_mem_of_key rewrites.ids inA inB
      ((only a inA keptA).trans (only b inB keptB).symm))
    (sound.active.subset old) ?_
  intro other differ u theirs picked' _ _ _ x member swept
  rcases sweeps_cases swept with ⟨schedules, _⟩ | ⟨_, _, active⟩
  · exact absurd (sound.exclusive tid t other u found theirs (by rw [isSchedule]; rfl) schedules).symm differ
  · exact ⟨x, old x member active, rfl, swept⟩

theorem Acquisition.Sound.activate (sound : s.Sound) (found : get? tid s.inFlight = some t) {id : Uuid}
    (stage : t.stage = .sweeping (some id) [] taken) (activates : t.operation.activates) :
    (s.leave tid (promote id (activateAt now)
    (demote .superseded taken s.rows))).Sound := by
  have own := sound.transactions tid t found
  have chosen : id ∈ t.stage.chosen := by
    rw [stage]
    rfl
  have mine : s.locks id = some tid := own.chosen id chosen
  have rewrites := (sound.demotes found stage .superseded).promote mine
    (f := activateAt now) (fun _ => rfl) (fun _ => rfl)
  have only : ∀ x ∈ promote id (activateAt now)
      (demote .superseded taken s.rows), x.isActive → x.id = id := by
    intro x member active
    rcases mem_promote member (fun _ => rfl) with ⟨here, _⟩ | ⟨inDemoted, _⟩
    · exact here
    obtain ⟨inRows, untaken⟩ := mem_demote (fun _ => rfl) inDemoted active
    obtain ⟨swept, update⟩ := sweeps_of_activates activates id active
    rcases own.covers (some id) [] taken stage
      (fun inserts => nomatch update.symm.trans inserts) x inRows swept with
      waiting | swept
    · cases waiting
    · exact absurd swept untaken
  have old : ∀ x ∈ promote id (activateAt now)
      (demote .superseded taken s.rows), x.isScheduled → x ∈ s.rows := by
    intro x member scheduled
    rcases mem_promote member (fun _ => rfl) with ⟨_, before, _, rfl⟩ | ⟨inDemoted, _⟩
    · cases scheduled
    · exact (mem_demote (fun _ => rfl) inDemoted scheduled).1
  refine sound.restate rewrites ((promote_versions (activateAt now) (fun _ => rfl) _ _).trans
    (demote_versions _ _ _)) (sound.scheduled.subset old)
    (fun a inA b inB keptA keptB => eq_of_mem_of_key rewrites.ids inA inB
      ((only a inA keptA).trans (only b inB keptB).symm)) ?_
  intro other differ u theirs picked' _ _ stage' x member swept
  rcases sweeps_cases swept with ⟨_, scheduled⟩ | ⟨alsoActivates, some_picked, _⟩
  · exact ⟨x, old x member scheduled, rfl, swept⟩
  obtain ⟨c, rfl⟩ := isSome_iff_exists.mp some_picked
  have sound' := sound.transactions other u theirs
  have chosen' : c ∈ u.stage.chosen := by
    rw [stage']
    rfl
  obtain ⟨a, isA, scheduledA⟩ := (Option.any_eq_true _ _).mp (own.scheduled activates id chosen)
  obtain ⟨b, isB, scheduledB⟩ := (Option.any_eq_true _ _).mp (sound'.scheduled alsoActivates c chosen')
  have same := sound.scheduled a (rowOf_some isA).1 b (rowOf_some isB).1 scheduledA scheduledB
  have here : c = id := by rw [← (rowOf_some isA).2, ← (rowOf_some isB).2, same]
  have theirLock := sound'.chosen c chosen'
  rw [here, mine] at theirLock
  exact absurd (some.inj theirLock).symm differ

theorem Acquisition.Sound.commit (sound : s.Sound) (found : get? tid s.inFlight = some t) :
    (s.commit platform tid t).Sound := by
  have own := sound.transactions tid t found
  unfold Acquisition.commit
  split
  case h_1 picked taken stage =>
    cases done : t.operation.writes platform s.rows picked taken with
    | none => exact sound.abort tid
    | some after =>
    rcases writes_cases platform s.rows picked taken t.operation done with
      rfl | ⟨row, inserts, next, ⟨draft, inserted⟩ | ⟨scheduled, schedules, inserted, sweeps⟩⟩ | rfl |
        ⟨id, now, isSchedule, some_picked, rfl⟩ | ⟨id, now, activates, rfl, rfl⟩
    · exact sound.abort tid
    · exact sound.insertDraft (targets_sweeping stage ▸ own.newest inserts) next draft inserted
    · exact sound.insertScheduled found stage inserts schedules sweeps next scheduled inserted
    · exact sound.unschedule found stage
    · exact sound.schedule found stage isSchedule some_picked
    · exact sound.activate found stage activates
  · exact sound

end

theorem Acquisition.Sound.step (op : AcquisitionOp) (apart : SchedulesAlone s op)
    (sound : s.Sound) : (acquisitionStep platform s op).Sound := by
  cases op with
  | start tid operation =>
    dsimp only [acquisitionStep]
    split
    · exact sound
    · exact sound.start apart
  | proceed tid =>
    dsimp only [acquisitionStep]
    cases found : get? tid s.inFlight with
    | none => exact sound
    | some t => exact sound.proceed found
  | commit tid =>
    dsimp only [acquisitionStep]
    cases found : get? tid s.inFlight with
    | none => exact sound
    | some t => exact sound.commit platform found
  | abort tid =>
    dsimp only [acquisitionStep]
    cases get? tid s.inFlight with
    | none => exact sound
    | some t => exact sound.abort tid

def Operation.choice (operation : Operation) : Option ScraperConfiguration :=
  (operation.candidates rows).head?

section
variable {rows : List ScraperConfiguration}

theorem head?_of_atMostOne {kept : ScraperConfiguration → Bool} (one : AtMostOne kept rows)
    (xs : List ScraperConfiguration) (members : ∀ row, row ∈ xs ↔ row ∈ rows ∧ kept row)
    (row : ScraperConfiguration) : xs.head? = some row ↔ row ∈ rows ∧ kept row := by
  constructor
  · exact fun head => (members row).mp (List.mem_of_head? head)
  intro qualifies
  have member := (members row).mpr qualifies
  cases xs with
  | nil => cases member
  | cons first rest =>
    obtain ⟨inRows, first_qualifies⟩ := (members first).mp mem_cons_self
    rw [List.head?_cons, one first inRows row qualifies.1 first_qualifies qualifies.2]

theorem choices_agree_iff (one : AtMostOne isScheduled rows) (asOf now : Instant) :
    (Operation.review asOf).choice rows = (Operation.attempt now).choice rows ↔
    ∀ row ∈ rows, row.isScheduled → row.isDue asOf := by
  have dueScheduled : ∀ {row : ScraperConfiguration}, row.isDue asOf → row.isScheduled :=
    fun due => (and_eq_true_iff.mp due).1
  have oneDue : AtMostOne (ScraperConfiguration.isDue asOf) rows := fun a inA b inB dueA dueB =>
    one a inA b inB (dueScheduled dueA) (dueScheduled dueB)
  have review := head?_of_atMostOne oneDue ((Operation.review asOf).candidates rows)
    fun row => mem_candidates (s := { rows })
  have attempt := head?_of_atMostOne one ((Operation.attempt now).candidates rows)
    fun row => mem_candidates (s := { rows })
  constructor
  · intro same row member scheduled
    have chosen := (attempt row).mpr ⟨member, scheduled⟩
    exact ((review row).mp (same.trans chosen)).2
  intro due
  refine Option.ext fun row => ?_
  exact (review row).trans (Iff.trans ⟨fun ⟨member, isDue⟩ => ⟨member, dueScheduled isDue⟩,
    fun ⟨member, scheduled⟩ => ⟨member, due row member scheduled⟩⟩ (attempt row).symm)

end

/-- As long as scheduling does not overlap another transaction that schedules, at
most one configuration is scheduled and at most one active in every state the
transactions reach, and the two activations choose alike exactly if what is
scheduled is due. -/
theorem configurations_unique (platform : SegmentPlatform) {s : Acquisition} (sound : s.Sound)
    {ops : List AcquisitionOp} (apart : Meets (acquisitionStep platform) SchedulesAlone s ops) :
    let rows := (run (acquisitionStep platform) s ops).rows
    AtMostOne isScheduled rows ∧ AtMostOne isActive rows ∧
      ∀ asOf now, (Operation.review asOf).choice rows = (Operation.attempt now).choice rows ↔
        ∀ row ∈ rows, row.isScheduled = true → row.isDue asOf = true := by
  have after := run_invariant_of_meets (Acquisition.Sound.step platform) sound apart
  exact ⟨after.scheduled, after.active, choices_agree_iff after.scheduled⟩

def draftedRows : List ScraperConfiguration :=
  [{ id := 1, version := 1, status := .active, segments := [{ key := "TX::roofing" }] },
    { id := 2, version := 2, status := .draft, segments := [{ key := "TX::gutters" }] },
    { id := 3, version := 3, status := .draft, segments := [{ key := "TX::solar" }] }]

theorem draftedRows_sound : Acquisition.Sound { rows := draftedRows } := by
  have scheduled : ∀ row ∈ draftedRows, row.isScheduled = false := by decide
  have active : ∀ row ∈ draftedRows, row.isActive → row.id = 1 := by decide
  have ids : Keyed ScraperConfiguration.id draftedRows := by decide
  refine ⟨ids, by decide, by decide, fun a inA _ _ isScheduled => ?_, fun a inA b inB activeA activeB => ?_,
    fun _ _ found => (nomatch found), fun _ _ _ _ found => (nomatch found)⟩
  · exact nomatch (scheduled a inA).symm.trans isScheduled
  · exact eq_of_mem_of_key ids inA inB ((active a inA activeA).trans (active b inB activeB).symm)

/-- The activation waits for the configuration that the rollback replaces, and finds nothing
scheduled when it gets the lock. -/
def rollbackDuringActivation : List AcquisitionOp :=
  [.start 1 (.schedule 2 5), .proceed 1, .proceed 1, .commit 1,
    .start 2 (.rollback 1 4 9 "Back to roofing" 6), .proceed 2, .proceed 2, .proceed 2,
    .start 3 (.attempt 6), .proceed 3, .commit 2, .proceed 3, .proceed 3, .proceed 3, .commit 3,
    .start 4 (.review 7), .proceed 4, .proceed 4, .proceed 4, .commit 4]

theorem configurations_unique_rollback :
    let rows := (run (acquisitionStep plainSegments) { rows := draftedRows } rollbackDuringActivation).rows
    Meets (acquisitionStep plainSegments) SchedulesAlone { rows := draftedRows } rollbackDuringActivation ∧
      rows.map ScraperConfiguration.status = [.superseded, .scheduleReplaced, .draft, .active] ∧
      AtMostOne isScheduled rows := by
  intro rows
  have apart : Meets (acquisitionStep plainSegments) SchedulesAlone
    { rows := draftedRows } rollbackDuringActivation := by
    decide +kernel
  exact ⟨apart, by decide +kernel, (configurations_unique plainSegments draftedRows_sound apart).1⟩

def overlappingSchedules : List AcquisitionOp :=
  [.start 1 (.schedule 2 5), .proceed 1, .proceed 1, .start 2 (.schedule 3 5), .proceed 2,
    .proceed 2, .commit 1, .commit 2]

def approval : List AcquisitionOp :=
  [.start 1
    (.approve
      { id := 7, segmentKey := "TX::solar", action := .pause, evidenceChecksum := "0123456789abcdef" }
      { action := "approve", actor := .administrator 5, reason := "Weak segment", now := days 1,
        newId := 4 }),
    .proceed 1, .proceed 1, .commit 1]

/-- Each `schedule_scraper_configuration` sees no scheduled configuration yet, and
both commit: the review path would take the older and the nightly attempt the
newer. After a single approval the attempt takes a configuration that the review
path does not regard as due. -/
theorem schedulers_skew :
    let rows := (run (acquisitionStep plainSegments) { rows := draftedRows } overlappingSchedules).rows
    let approved := (run (acquisitionStep plainSegments) { rows := draftedRows } approval).rows
    rows.map ScraperConfiguration.status = [.active, .scheduled, .scheduled] ∧
      ((Operation.review 6).choice rows).map version = some 2 ∧
      ((Operation.attempt 6).choice rows).map version = some 3 ∧
      approved.map ScraperConfiguration.status = [.active, .draft, .draft, .scheduled] ∧
      ((Operation.review (days 1)).choice approved).map version = none ∧
      ((Operation.attempt (days 1)).choice approved).map version = some 4 := by
  decide +kernel

end Jawnix
