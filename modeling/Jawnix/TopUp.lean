import Jawnix.Clock

/-!
# Topping up the scrape queue

`top_up` of `enqueue.py` over `InsertEnqueueBatch` of `bulk_enqueue.go`. A cycle
offers the head of its list, as much as the queue needs and a batch allows, and the
next cycle starts at the head again. The endpoint skips what it has covered under
another keyword of the category.
-/
namespace Jawnix

structure EnqueueKey where
  keyword : String
  state : String
  cell : String
  deriving DecidableEq

inductive EnqueueStatus
  | reserved | posted | failed
  deriving DecidableEq

structure EnqueueEntry where
  key : EnqueueKey
  day : Instant
  status : EnqueueStatus
  updatedAt : Instant

structure Ledger where
  log : List EnqueueEntry := []
  /-- `acquisition_category_aliases` -/
  aliases : String → Option String := fun _ => none
  /-- `acquisition_category_cells` -/
  cells : List (String × String × String) := []

structure BulkPlatform where
  casing : Casing
  /-- The database's order of texts. -/
  collates : String → String → Bool

namespace Ledger
variable (platform : BulkPlatform) (l : Ledger) (day now : Instant) (key : EnqueueKey)
  (keys : List EnqueueKey)

def category? (keyword : String) : Option String := l.aliases (platform.casing.sqlLower keyword)

/-- What the jobs of a batch are distinct on. -/
def slot : String × String × String :=
  ((l.category? platform key.keyword).getD key.keyword, key.state, key.cell)

def chosen : List EnqueueKey :=
  keys.eraseDups.filter fun key =>
    keys.all fun other => l.slot platform other ≠ l.slot platform key ||
      platform.collates key.keyword other.keyword

def covered : Bool :=
  match l.category? platform key.keyword with
  | none => false
  | some category => decide ((category, key.state, key.cell) ∈ l.cells) || l.log.any fun e =>
      l.category? platform e.key.keyword = some category && e.key.state = key.state && e.key.cell =
        key.cell && e.status = .posted

/-- The entry of the day stands, unless it failed or was reserved more than 15 minutes ago. -/
def stands : Bool :=
  l.log.any fun e => e.key = key && e.day = day && !(decide (e.status = .failed) ||
    e.status = .reserved && e.updatedAt < now - 900000000)

def reserves : List EnqueueKey :=
  (l.chosen platform keys).filter fun key => !l.covered platform key && !l.stands day now key

def post (posted : List EnqueueKey) : Ledger where
  log := (l.log.filter fun e => !(decide (e.day = day) && e.key ∈ posted)) ++ posted.map
    (⟨·, day, .posted, now⟩)
  aliases := l.aliases
  cells := (posted.filterMap fun key =>
    (l.category? platform key.keyword).map fun category => (category, key.state, key.cell)) ∪ l.cells

end Ledger

variable (platform : BulkPlatform) (l : Ledger) (day now : Instant)

/-- The ledger after the batch, and how many jobs were inserted. -/
def insertEnqueueBatch (keys : List EnqueueKey) : Ledger × Nat :=
  let posted := l.reserves platform day now keys
  (l.post platform day now posted, posted.length)

/-- The batches of a cycle, each with the time of its transaction. -/
def topUpLoop : Ledger → List (Instant × List EnqueueKey) → Ledger × Nat
  | l, [] => (l, 0)
  | l, (now, keys) :: rest =>
    let (after, accepted) := insertEnqueueBatch platform l day now keys
    let (last, inserted) := topUpLoop after rest
    (last, accepted + inserted)

def offeredBatches (clock : Nat → Instant) (jobs : List EnqueueKey) (need batchSize : Nat) :
    List (Instant × List EnqueueKey) :=
  (chunks 100 (jobs.take (min need batchSize))).mapIdx fun i keys => (clock i, keys)

def topUp (clock : Nat → Instant) (jobs : List EnqueueKey) (depth targetDepth batchSize : Nat) :
    Ledger × Nat :=
  topUpLoop platform day l (offeredBatches clock jobs (targetDepth - depth) batchSize)

variable {platform l day now} {keys : List EnqueueKey} {batches : List (Instant × List EnqueueKey)}

theorem insertEnqueueBatch_skipped (skipped : l.reserves platform day now keys = []) :
    insertEnqueueBatch platform l day now keys = (l, 0) := by
  simp [insertEnqueueBatch, skipped, Ledger.post]

/-- A batch that is skipped leaves the ledger, so the first one that is not finds it as it was. -/
theorem topUpLoop_pos : 0 < (topUpLoop platform day l batches).2 ↔
    ∃ batch ∈ batches, l.reserves platform day batch.1 batch.2 ≠ [] := by
  induction batches with
  | nil => simp [topUpLoop]
  | cons batch rest ih =>
    by_cases skipped : l.reserves platform day batch.1 batch.2 = []
    · simp [topUpLoop, insertEnqueueBatch_skipped skipped, ih, skipped]
    have accepted : 0 < (insertEnqueueBatch platform l day batch.1 batch.2).2 :=
      List.length_pos_iff.mpr skipped
    simp only [topUpLoop, List.exists_mem_cons_iff, skipped, ne_eq, not_false_eq_true, true_or, iff_true]
    omega

/-- A cycle over an empty queue inserts a job exactly if one of the batches it offers has a
job that is neither covered nor on the day's log. -/
theorem top_up_inserts_iff (platform : BulkPlatform) (l : Ledger) (day : Instant)
    (clock : Nat → Instant) (jobs : List EnqueueKey) (targetDepth batchSize : Nat) :
    0 < (topUp platform l day clock jobs 0 targetDepth batchSize).2 ↔
      ∃ batch ∈ offeredBatches clock jobs targetDepth batchSize, ∃ key ∈ l.chosen platform batch.2,
        l.covered platform key = false ∧ l.stands day batch.1 key = false := by
  rw [topUp, topUpLoop_pos]
  refine exists_congr fun batch => and_congr_right fun _ => ?_
  simp [Ledger.reserves]

/-- The head of the list is covered by another keyword of its category, and a queue that needs one
job gets none. -/
theorem top_up_stalls :
    let trees := "6f1d3c0e9a7b48526f1d3c0e9a7b48526f1d3c0e9a7b48526f1d3c0e9a7b4852"
    let l : Ledger :=
      { aliases := fun term => if term = "arborist" ∨ term = "tree service" then some trees else none
        cells := [(trees, "tx", "30.2,-97.7")] }
    let jobs : List EnqueueKey := [⟨"arborist", "tx", "30.2,-97.7"⟩, ⟨"roofing", "tx", "30.2,-97.7"⟩]
    let platform : BulkPlatform := ⟨plainCasing, fun a b => List.le a.toList b.toList⟩
    (topUp platform l 0 (fun _ => 0) jobs 0 1 50).2 = 0 ∧ ∃ job ∈ jobs,
      (insertEnqueueBatch platform l 0 0 [job]).2 = 1 := by
  decide +kernel

end Jawnix
