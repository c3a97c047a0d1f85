import Jawnix.LifecycleRuns

/-!
# Repeated deliveries

A delivery job may run again after its Batch has been delivered: it was queued
twice, or claimed by a second worker. The provider's own reports arrive in between.
The state carries the number of calls made to the e-mail provider.

`process_job` loads the request before `deliver_request` locks it, and the session
keeps the row it loaded. A run is therefore given the status the row had when it was
first read; the artifact is read under its lock.
-/
namespace Jawnix

variable (db : Db) (requestId : Uuid)

def callsProvider (readStatus : RequestStatus) (configured : Bool) : Bool :=
  match db.request? requestId, db.artifact? requestId with
  | some _, some artifact =>
    !decide (artifact.deliveryStatus = .sent ∧ readStatus = .delivered) &&
      db.files.any (fun f => f.path = artifact.path) && configured
  | _, _ => false

structure Outbox where
  db : Db
  calls : Nat := 0

inductive DeliveryOp where
  | deliver (readStatus : RequestStatus) (configured : Bool) (response : Except Fault String) (now : Instant)
  | report (eventKey : String) (event : ResendEvent) (messageId : String) (now : Instant)

variable (s : Outbox)

def deliveryStep (op : DeliveryOp) : Outbox :=
  match op with
  | .deliver readStatus configured response now =>
    { db := commit s.db (deliverAsRead s.db (fun _ => readStatus) requestId configured response now)
      calls := s.calls + if callsProvider s.db requestId readStatus configured then 1 else 0 }
  | .report eventKey event messageId now => { s with db := resendWebhook s.db eventKey event messageId now }

def deliveryRecord : Option (Nat × Option Instant × String) × Option (Option Instant) :=
  ((db.artifact? requestId).map (fun a => (a.deliveryAttempts, a.sentAt, a.resendMessageId)),
    (db.request? requestId).map LeadRequest.deliveredAt)

/-- Nothing was sent between the two states, and the record is the same. -/
def Settled (t : Outbox) : Prop :=
  t.calls = s.calls ∧ deliveryRecord t.db requestId = deliveryRecord s.db requestId
  deriving Decidable

/-- A further run finds the Batch sent, in the artifact and in the request it read, or stops for
want of the file or of the API key. -/
def FindsSent : DeliveryOp → Prop
  | .deliver readStatus configured _ _ =>
    ∀ artifact ∈ s.db.artifact? requestId, (artifact.deliveryStatus = .sent ∧ readStatus = .delivered) ∨
        (∀ f ∈ s.db.files, f.path ≠ artifact.path) ∨ configured = false
  | .report .. => True

instance (requestId : Uuid) (s : Outbox) (op : DeliveryOp) : Decidable (FindsSent requestId s op) := by
  unfold FindsSent
  split <;> infer_instance

section
variable {requestId : Uuid} {s t u : Outbox} {op : DeliveryOp} {readStatus : RequestStatus}
  {configured : Bool}

theorem Settled.refl (requestId : Uuid) (s : Outbox) : Settled requestId s s := ⟨rfl, rfl⟩

theorem Settled.trans (first : Settled requestId s t) (second : Settled requestId t u) :
    Settled requestId s u :=
  ⟨second.1.trans first.1, second.2.trans first.2⟩

theorem deliverAsRead_quiet {db : Db}
    (quiet : callsProvider db requestId readStatus configured = false)
    (response : Except Fault String) (now : Instant) :
    commit db (deliverAsRead db (fun _ => readStatus) requestId configured response now) = db := by
  unfold deliverAsRead
  unfold callsProvider at quiet
  split
  case h_1 request artifact found filed =>
    rw [found, filed] at quiet
    simp only at quiet
    split
    · rfl
    case isFalse unsent =>
    split
    · rfl
    case isFalse onDisk =>
    split
    · rfl
    case isFalse keyed => simp [unsent, onDisk, keyed] at quiet
  · rfl

theorem findsSent_iff {response : Except Fault String} {now : Instant}
    (stored : (s.db.request? requestId).isSome) :
    FindsSent requestId s (.deliver readStatus configured response now) ↔
    callsProvider s.db requestId readStatus configured = false := by
  obtain ⟨request, found⟩ := isSome_iff_exists.mp stored
  unfold FindsSent callsProvider
  rw [found]
  cases filed : s.db.artifact? requestId with
  | none => simp
  | some artifact =>
    simp only [Option.mem_some, forall_eq', Bool.and_eq_false_iff, Bool.not_eq_false',
      decide_eq_true_eq, any_eq_false, or_assoc, ne_eq]

theorem setArtifact_deliveryRecord {f : BatchArtifact → BatchArtifact}
    (named : ∀ a, (f a).requestId = a.requestId)
    (same : ∀ a, ((f a).deliveryAttempts, (f a).sentAt, (f a).resendMessageId) =
      (a.deliveryAttempts, a.sentAt, a.resendMessageId)) (db : Db) (id requestId : Uuid) :
    deliveryRecord (db.setArtifact id f) requestId = deliveryRecord db requestId := by
  refine Prod.ext ?_ rfl
  refine Rows.map_lookup_congr (map_adjust_of_preserves _ fun a _ => ?_)
  exact Prod.ext (named a) (same a)

theorem applyReport_deliveryRecord (artifact : BatchArtifact) (event : ResendEvent) (now : Instant)
    (requestId : Uuid) :
    deliveryRecord (applyReport db artifact event now) requestId = deliveryRecord db requestId := by
  unfold applyReport
  split
  · exact setArtifact_deliveryRecord (f := reportedDelivered) (fun _ => rfl) (fun _ => rfl) db _ requestId
  · rfl
  case h_3 kind _ _ =>
  have marked := setArtifact_deliveryRecord (f := unnotified ("email." ++ kind)) (fun _ => rfl)
    (fun _ => rfl) db artifact.requestId requestId
  simp only
  split
  · exact marked
  case h_2 item _ =>
  obtain ⟨_, _, queued⟩ := (enqueueMilestoneEmail_onlyJobs _ _ _).trans (enqueueJob_onlyJobs _ _ _ _ _)
  rw [queued, ← marked]
  refine Prod.ext rfl ?_
  exact Rows.map_lookup_congr (map_adjust_of_preserves _ fun _ _ => rfl)

theorem deliveryStep_settled_iff (stored : (s.db.request? requestId).isSome) :
    Settled requestId s (deliveryStep requestId s op) ↔ FindsSent requestId s op := by
  cases op with
  | deliver readStatus configured response now =>
    rw [findsSent_iff stored]
    constructor
    · intro settled
      have calls := settled.1
      simp only [deliveryStep] at calls
      cases called : callsProvider s.db requestId readStatus configured with
      | false => rfl
      | true =>
        rw [called, if_pos rfl] at calls
        omega
    intro quiet
    refine ⟨by simp [deliveryStep, quiet], ?_⟩
    simp only [deliveryStep]
    rw [deliverAsRead_quiet quiet]
  | report eventKey event messageId now =>
  refine ⟨fun _ => trivial, fun _ => ⟨rfl, ?_⟩⟩
  change deliveryRecord (resendWebhook s.db eventKey event messageId now) requestId = _
  unfold resendWebhook
  split
  · rfl
  simp only
  split
  · rfl
  · exact applyReport_deliveryRecord _ _ _ _ _

theorem deliveryStep_stored (op : DeliveryOp) (settled : Settled requestId s (deliveryStep requestId s op))
    (stored : (s.db.request? requestId).isSome) :
    ((deliveryStep requestId s op).db.request? requestId).isSome := by
  have kept := congrArg Prod.snd settled.2
  simp only [deliveryRecord] at kept
  have isSome := congrArg Option.isSome kept
  simpa only [Option.isSome_map, stored] using isSome

end

/-- After a delivery, reports and further runs make no call and leave the record as it is, in every
state they pass through, exactly if each further run finds the Batch sent. -/
theorem delivery_run_settled_iff {requestId : Uuid} {s : Outbox}
    (stored : (s.db.request? requestId).isSome = true) (ops : List DeliveryOp) :
    (∀ before, before <+: ops → Settled requestId s (run (deliveryStep requestId) s before)) ↔
      Meets (deliveryStep requestId) (FindsSent requestId) s ops := by
  induction ops generalizing s with
  | nil =>
    refine ⟨fun _ => trivial, fun _ before start => ?_⟩
    rw [List.prefix_nil.mp start]
    exact .refl requestId s
  | cons op ops ih =>
    rw [Meets, ← deliveryStep_settled_iff stored]
    constructor
    · intro every
      have first := every [op] (by simp)
      refine ⟨first, (ih (deliveryStep_stored op first stored)).mp fun before start => ?_⟩
      have later := every (op :: before) (List.cons_prefix_cons.mpr ⟨rfl, start⟩)
      exact ⟨later.1.trans first.1.symm, later.2.trans first.2.symm⟩
    rintro ⟨first, rest⟩ before start
    cases before with
    | nil => exact .refl requestId s
    | cons op' before =>
      obtain ⟨rfl, tail⟩ := List.cons_prefix_cons.mp start
      exact first.trans ((ih (deliveryStep_stored op' first stored)).mpr rest before tail)

def deliveredShop : Outbox := { db := run lifecycleStep openShop servedOrder, calls := 1 }

theorem delivery_run_settled_iff_rerun : Settled 7 deliveredShop (run (deliveryStep 7) deliveredShop
      [.deliver .delivered true (.ok "again") (days 40), .report "evt-1" .delivered "msg" (days 41)]) :=
  (delivery_run_settled_iff (by decide +kernel) _).mpr (by decide +kernel) _ (List.prefix_refl _)

/-- Once the provider reports the delivery, a further run sends the Batch again. -/
theorem delivery_run_resent :
    let s := run (deliveryStep 7) deliveredShop [.report "evt-1" .delivered "msg" (days 40)]
    (s.db.request? 7).map LeadRequest.status = some .delivered ∧
      ¬Settled 7 deliveredShop (deliveryStep 7 s (.deliver .delivered true (.ok "again") (days 41))) := by
  decide +kernel

end Jawnix
