import Jawnix.Worker

/-!
# Metrics emission

`metrics_emit.py`: the Distribution Events of a request are posted to the metrics
ingest in waves, in identity order after a cursor. A claim stops early when its time
budget is used up or a wave fails after some progress, and hands the cursor of the
last whole wave to the next job. Of the posted body only the event's id matters
here.
-/
namespace Jawnix

def emitChunkSize : Nat := 24
def emitConcurrency : Nat := 4

/-- What the ingest endpoint answers to one post; `held` is a body of the held shape. -/
inductive PostResponse where
  | unreachable (detail : String)
  | answered (statusCode : Nat) (held : Bool) (text : String)

def postLeadAssigned (event : DistributionEvent) : PostResponse → Except JobException Unit
  | .unreachable detail =>
    .error (.emitTransient s!"Metrics ingest unreachable for distribution_event {event.id}: {detail}")
  | .answered statusCode held text =>
    if statusCode = 200 ∨ statusCode = 201 then .ok ()
    else if statusCode = 422 ∧ held then .ok ()
    else if 500 ≤ statusCode then
      .error (.emitTransient
      (s!"Metrics ingest failed with HTTP {statusCode} for distribution_event {event.id}: " ++
        clipped 500 text))
    else
      .error (.other
      (s!"Metrics ingest rejected distribution_event {event.id} with HTTP {statusCode}: " ++
        clipped 500 text))

structure EmitEnv where
  /-- Both the ingest URL and its secret are set. -/
  configured : Bool
  response : DistributionEvent → PostResponse
  /-- The order in which the posts of a wave complete. -/
  completes : List DistributionEvent → List DistributionEvent
  completesAll : ∀ wave, (completes wave).Perm wave
  /-- Whether the time budget is used up before the wave of this number. -/
  exhausted : Nat → Bool
  /-- The database as the check before the wave of this number sees it. -/
  queue : Nat → Db
  now : Instant

structure EmitLeadAssignedResult where
  posted : Nat
  done : Bool
  nextAfterId : Option Nat

/-- One claim: the ids of the events whose post was accepted, and how the claim ended. -/
structure EmitRun where
  accepted : List Nat
  outcome : Except JobException EmitLeadAssignedResult

section
variable (env : EmitEnv)

def postFailure (event : DistributionEvent) : Option JobException :=
  match postLeadAssigned event (env.response event) with
  | .error exc => some exc
  | .ok _ => none

/-- `future.result()` raises for the first post that failed, in the order of completion. -/
def firstFailure (wave : List DistributionEvent) : Option JobException :=
  (env.completes wave).findSome? (postFailure env)

def acceptedIds (wave : List DistributionEvent) : List Nat :=
  (wave.filter fun e => (postFailure env e).isNone).map DistributionEvent.id

/-- The loop over the waves. Every post of a wave is made, whether or not another one fails. -/
def postWaves (more : Bool) :
    (accepted : List Nat) → (posted : Nat) → (cursor : Option Nat) → Nat →
    List (List DistributionEvent) → EmitRun
  | accepted, posted, cursor, _, [] =>
    ⟨accepted, .ok (if more then ⟨posted, false, cursor⟩ else ⟨posted, true, none⟩)⟩
  | accepted, posted, cursor, n, wave :: rest =>
    if 0 < posted ∧ (env.exhausted n || higherPriorityJobWaiting (env.queue n) .metrics env.now) then
      ⟨accepted, .ok ⟨posted, false, cursor⟩⟩
    else
      match firstFailure env wave with
      | none =>
        postWaves more (accepted ++ acceptedIds env wave) (posted + wave.length)
        (wave.map DistributionEvent.id).max?
          (n + 1) rest
      | some (.emitTransient message) =>
        -- progress of the earlier waves is kept; this wave is posted again from its start
        if 0 < posted then ⟨accepted ++ acceptedIds env wave, .ok ⟨posted, false, cursor⟩⟩
        else ⟨accepted ++ acceptedIds env wave, .error (.emitTransient message)⟩
      | some exc => ⟨accepted ++ acceptedIds env wave, .error exc⟩

end

def afterCursor (afterId : Option Nat) (e : DistributionEvent) : Bool := afterId.all fun n => n < e.id

def pendingEvents (db : Db) (requestId : Uuid) (afterId : Option Nat) : List DistributionEvent :=
  ((db.eventsOf requestId).filter (afterCursor afterId)).insertionSort fun a b => a.id ≤ b.id

def emitLeadAssigned (env : EmitEnv) (db : Db) (requestId : Uuid) (afterId : Option Nat)
    (limit : Option Nat := none) : EmitRun :=
  let chunkLimit := limit.getD emitChunkSize
  if env.configured = false then ⟨[], .ok ⟨0, true, none⟩⟩
  else if chunkLimit < 1 then ⟨[], .error (.other "emit_lead_assigned limit must be >= 1")⟩
  else if higherPriorityJobWaiting db .metrics env.now then ⟨[], .ok ⟨0, false, afterId⟩⟩
  else
    let events := (pendingEvents db requestId afterId).take (chunkLimit + 1)
    if events = [] ∧ afterId = none then
      ⟨[], .error
        (.other (s!"No DistributionEvents for request {uuidText requestId}; cannot emit lead.assigned."))⟩
    else if events = [] then ⟨[], .ok ⟨0, true, none⟩⟩
    else
      let chunk := events.take chunkLimit
      let workers := max 1 (min emitConcurrency chunk.length)
      postWaves env (decide (chunkLimit < events.length)) [] 0 afterId 0 (chunks workers chunk)

section
variable {env : EmitEnv} {wave : List DistributionEvent} {waves : List (List DistributionEvent)}
  {more : Bool}
  {accepted : List Nat} {posted n : Nat} {cursor : Option Nat} {result : EmitLeadAssignedResult}

theorem mem_acceptedIds_of_succeeds (succeeds : firstFailure env wave = none)
    {e : DistributionEvent} (member : e ∈ wave) : e.id ∈ acceptedIds env wave := by
  have all := List.findSome?_eq_none_iff.mp succeeds e ((env.completesAll wave).mem_iff.mpr member)
  exact mem_map_of_mem (mem_filter.mpr ⟨member, by simp [all]⟩)

theorem postWaves_keeps {id : Nat} (before : id ∈ accepted) :
    id ∈ (postWaves env more accepted posted cursor n waves).accepted := by
  induction waves generalizing accepted posted cursor n with
  | nil => exact before
  | cons wave rest ih =>
  have kept : id ∈ accepted ++ acceptedIds env wave := mem_append_left _ before
  unfold postWaves
  split
  · exact before
  split
  · exact ih kept
  · split <;> exact kept
  · exact kept

theorem postWaves_done
    (ends : (postWaves env more accepted posted cursor n waves).outcome = .ok result)
    (done : result.done) : more = false ∧ ∀ e ∈ waves.flatten,
    e.id ∈ (postWaves env more accepted posted cursor n waves).accepted := by
  induction waves generalizing accepted posted cursor n with
  | nil =>
    cases more with
    | false => exact ⟨rfl, by simp⟩
    | true =>
      cases ends
      cases done
  | cons wave rest ih =>
  unfold postWaves at ends ⊢
  split at ends
  · cases ends
    cases done
  case isFalse goesOn =>
  rw [if_neg goesOn]
  split at ends
  case h_1 succeeds =>
    obtain ⟨last, later⟩ := ih ends
    refine ⟨last, fun e member => ?_⟩
    rw [List.flatten_cons, mem_append] at member
    rcases member with here | there
    · exact postWaves_keeps (mem_append_right _ (mem_acceptedIds_of_succeeds succeeds here))
    · exact later e there
  · split at ends
    · cases ends
      cases done
    · cases ends
  · cases ends

/-- The cursor a claim hands on is its own, or the last id of a run of events that it posted
whole. -/
theorem postWaves_cursor (sorted : waves.flatten.Pairwise fun a b => a.id ≤ b.id)
    (ends : (postWaves env more accepted posted cursor n waves).outcome = .ok result) {c : Nat}
    (next : result.nextAfterId = some c) :
    cursor = some c ∨ ∃ sent rest, waves.flatten = sent ++ rest ∧ (∃ e ∈ sent, e.id = c) ∧
    ∀ e ∈ sent, e.id ≤ c ∧ e.id ∈ (postWaves env more accepted posted cursor n waves).accepted := by
  induction waves generalizing accepted posted cursor n with
  | nil =>
    left
    cases more with
    | false =>
      cases ends
      cases next
    | true =>
      cases ends
      exact next
  | cons wave rest ih =>
  unfold postWaves at ends ⊢
  split at ends
  · cases ends
    exact .inl next
  case isFalse goesOn =>
  rw [if_neg goesOn]
  split at ends
  case h_1 succeeds =>
    right
    rw [List.flatten_cons] at sorted ⊢
    obtain ⟨_, sortedRest, ordered⟩ := pairwise_append.mp sorted
    have here :
      ∀ e ∈ wave, e.id ∈ (postWaves env more (accepted ++ acceptedIds env wave)
      (posted + wave.length)
        (wave.map DistributionEvent.id).max? (n + 1) rest).accepted := fun e member =>
      postWaves_keeps (mem_append_right _ (mem_acceptedIds_of_succeeds succeeds member))
    rcases ih sortedRest ends with last | ⟨sent, left, cut, ⟨top, inSent, named⟩, all⟩
    · obtain ⟨isId, bounds⟩ := List.max?_eq_some_iff.mp last
      obtain ⟨top, inWave, named⟩ := mem_map.mp isId
      exact ⟨wave, rest.flatten, rfl, ⟨top, inWave, named⟩, fun e member =>
        ⟨bounds e.id (mem_map_of_mem member), here e member⟩⟩
    refine ⟨wave ++ sent, left, by rw [cut, append_assoc], ⟨top, mem_append_right _ inSent, named⟩, ?_⟩
    intro e member
    rcases mem_append.mp member with inWave | later
    · have later : top ∈ rest.flatten := cut ▸ mem_append_left _ inSent
      exact ⟨named ▸ ordered e inWave top later, here e inWave⟩
    · exact all e later
  · split at ends
    · cases ends
      exact .inl next
    · cases ends
  · cases ends

end

section
variable {env : EmitEnv} {db : Db} {requestId : Uuid} {afterId limit : Option Nat}
  {result : EmitLeadAssignedResult}

theorem mem_pendingEvents {e : DistributionEvent} :
    e ∈ pendingEvents db requestId afterId ↔ e ∈ db.eventsOf requestId ∧ ∀ n ∈ afterId, n < e.id := by
  simp [pendingEvents, afterCursor, mem_filter, Option.all_eq_true]

theorem pendingEvents_sorted (db : Db) (requestId : Uuid) (afterId : Option Nat) :
    (pendingEvents db requestId afterId).Pairwise fun a b => a.id ≤ b.id :=
  haveI : Std.Total fun a b : DistributionEvent => a.id ≤ b.id := ⟨fun a b => Nat.le_total a.id b.id⟩
  haveI : IsTrans DistributionEvent fun a b => a.id ≤ b.id := ⟨fun _ _ _ => Nat.le_trans⟩
  List.pairwise_insertionSort _ _

theorem workers_positive (chunk : List DistributionEvent) :
    0 < max 1 (min emitConcurrency chunk.length) := by omega

/-- A claim of a configured emitter that reports done has posted everything behind its cursor. -/
theorem emitLeadAssigned_done (configured : env.configured)
    (ends : (emitLeadAssigned env db requestId afterId limit).outcome = .ok result) (done : result.done)
    {e : DistributionEvent} (pending : e ∈ pendingEvents db requestId afterId) :
    e.id ∈ (emitLeadAssigned env db requestId afterId limit).accepted := by
  unfold emitLeadAssigned at ends ⊢
  simp only [configured, Bool.true_eq_false, if_false] at ends ⊢
  split at ends
  · cases ends
  case isFalse positive =>
  split at ends
  · cases ends
    cases done
  case isFalse alone =>
  split at ends
  · cases ends
  case isFalse some_ =>
  split at ends
  case isTrue nothing =>
    have empty : pendingEvents db requestId afterId = [] := by
      rcases List.take_eq_nil_iff.mp nothing with zero | empty
      · cases zero
      · exact empty
    rw [empty] at pending
    cases pending
  case isFalse nonempty =>
  rw [if_neg positive, if_neg alone, if_neg some_, if_neg nonempty]
  obtain ⟨last, all⟩ := postWaves_done ends done
  refine all e ?_
  rw [flatten_chunks (workers_positive _), List.take_take]
  have short : (pendingEvents db requestId afterId).length ≤ limit.getD emitChunkSize := by
    have few := of_decide_eq_false last
    rw [List.length_take] at few
    omega
  rwa [List.take_of_length_le (by omega)]

/-- No event behind the claim's own cursor is passed over by the cursor it hands on. -/
theorem emitLeadAssigned_cursor
    (ends : (emitLeadAssigned env db requestId afterId limit).outcome = .ok result) {c : Nat}
    (next : result.nextAfterId = some c) :
    afterId = some c ∨ (∃ e ∈ db.eventsOf requestId, e.id = c) ∧
    ∀ e ∈ pendingEvents db requestId afterId, e.id ≤ c →
    e.id ∈ (emitLeadAssigned env db requestId afterId limit).accepted := by
  unfold emitLeadAssigned at ends ⊢
  simp only at ends ⊢
  split at ends
  · cases ends
    cases next
  case isFalse configured =>
  split at ends
  · cases ends
  case isFalse positive =>
  split at ends
  · cases ends
    exact .inl next
  case isFalse alone =>
  split at ends
  · cases ends
  case isFalse some_ =>
  split at ends
  · cases ends
    cases next
  case isFalse nonempty =>
  rw [if_neg configured, if_neg positive, if_neg alone, if_neg some_, if_neg nonempty]
  have whole := pendingEvents_sorted db requestId afterId
  have chunk := flatten_chunks (workers_positive (((pendingEvents db requestId afterId).take
    (limit.getD emitChunkSize + 1)).take (limit.getD emitChunkSize)))
    (((pendingEvents db requestId afterId).take (limit.getD emitChunkSize + 1)).take
      (limit.getD emitChunkSize))
  rw [List.take_take] at chunk
  rcases postWaves_cursor
      (by rw [List.take_take, chunk]; exact whole.sublist (List.take_sublist _ _)) ends next
    with same | ⟨sent, rest, cut, ⟨top, inSent, named⟩, all⟩
  · exact .inl same
  right
  rw [List.take_take, chunk] at cut
  -- the whole list of pending events begins with what was sent
  have split := List.take_append_drop (min (limit.getD emitChunkSize) (limit.getD emitChunkSize + 1))
    (pendingEvents db requestId afterId)
  rw [cut, append_assoc] at split
  have inPending : top ∈ pendingEvents db requestId afterId := split ▸ mem_append_left _ inSent
  refine ⟨⟨top, (mem_pendingEvents.mp inPending).1, named⟩, fun e pending bound => ?_⟩
  rw [← split] at pending whole
  rcases mem_append.mp pending with early | late
  · exact (all e early).2
  have after := (pairwise_append.mp whole).2.2 top inSent e late
  have same : e.id = top.id := Nat.le_antisymm (named ▸ bound) after
  rw [same]
  exact (all top inSent).2

end

end Jawnix
