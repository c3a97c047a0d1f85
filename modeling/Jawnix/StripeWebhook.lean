import Jawnix.Billing

/-!
# The Stripe billing webhook

`stripe_billing_webhook` of `api.py`, on an event whose signature was verified. A
receipt per event id removes duplicates, and a refusal leaves no receipt, so Stripe
delivers the event again. Over any sequence of deliveries for one Checkout session
the purchase follows a small automaton that knows neither receipts nor refusals.
-/
namespace Jawnix

inductive StripeEventType where
  | completed | asyncPaymentSucceeded | asyncPaymentFailed | expired
  | other (name : String)
  deriving DecidableEq

/-- The fields the webhook reads; an absent field is the empty string. -/
structure StripeEvent where
  id : String
  type : StripeEventType
  sessionId : String
  paymentStatus : String

inductive WebhookReply where
  | ok | duplicate | ignored | pending

/-- A refused credit or close answers with the refusal's status and detail. -/
def webhookOutcome : Except Fault (Db × Option CreditPurchase) → Except Fault (Db × WebhookReply)
  | .error (.billing detail statusCode) => .error (.http statusCode detail)
  | .error fault => .error fault
  | .ok (db, none) => .ok (db, .ignored)
  | .ok (db, some _) => .ok (db, .ok)

variable (db : Db)

def recordReceipt (eventId : String) (now : Instant) : Db :=
  { db with receipts := db.receipts ++ [{ provider := "stripe", eventKey := eventId, receivedAt := now }] }

def stripeBillingWebhook (event : StripeEvent) (entryId : Uuid) (now : Instant) :
    Except Fault (Db × WebhookReply) :=
  let eventId := strip event.id
  let session := strip event.sessionId
  if eventId = "" then .error (.http 400 "Stripe event id is required.")
  else
    match db.receipt? "stripe" eventId with
    | some _ => .ok (db, .duplicate)
    | none =>
      let received := recordReceipt db eventId now
      match event.type with
      | .other _ => .ok (received, .ignored)
      | .completed =>
        if session = "" then .ok (received, .ignored)
        else if event.paymentStatus = "paid" then
          webhookOutcome (completeCreditPurchaseForSession received session false entryId now)
        else .ok (received, .pending)
      | .asyncPaymentSucceeded =>
        if session = "" then .ok (received, .ignored)
        else webhookOutcome (completeCreditPurchaseForSession received session true entryId now)
      | .asyncPaymentFailed =>
        if session = "" then .ok (received, .ignored)
        else webhookOutcome (closeCreditPurchaseForSession received session .failed)
      | .expired =>
        if session = "" then .ok (received, .ignored)
        else webhookOutcome (closeCreditPurchaseForSession received session .expired)

/-! ## The purchase automaton -/

inductive Settlement where
  | paid | unpaid | settledLate | failed | expired
  deriving DecidableEq

def StripeEvent.settlement? (event : StripeEvent) : Option Settlement :=
  match event.type with
  | .completed => some (if event.paymentStatus = "paid" then .paid else .unpaid)
  | .asyncPaymentSucceeded => some .settledLate
  | .asyncPaymentFailed => some .failed
  | .expired => some .expired
  | .other _ => none

/-- Money that arrived late completes any purchase; the other reports only move
one that is still processing. -/
def PurchaseStatus.after : PurchaseStatus → Settlement → PurchaseStatus
  | .completed, _ => .completed
  | _, .settledLate => .completed
  | .processing, .paid => .completed
  | .processing, .failed => .failed
  | .processing, .expired => .expired
  | status, _ => status

theorem after_completed (report : Settlement) : PurchaseStatus.completed.after report = .completed := by
  cases report <;> rfl

theorem after_after (status : PurchaseStatus) (report : Settlement) :
    (status.after report).after report = status.after report := by
  cases status <;> cases report <;> rfl

theorem after_settledLate (status : PurchaseStatus) : status.after .settledLate = .completed := by
  cases status <;> rfl

theorem after_eq_completed {status : PurchaseStatus} {report : Settlement}
    (done : status.after report = .completed) :
    status = .completed ∨ report = .settledLate ∨ (status = .processing ∧ report = .paid) := by
  cases status <;> cases report <;> simp_all [PurchaseStatus.after]

/-- A purchase is completed by late money, or by a paid report that meets it processing. -/
theorem run_after_completed_iff (status : PurchaseStatus) (reports : List Settlement) :
    run PurchaseStatus.after status reports = .completed ↔ status = .completed ∨
    .settledLate ∈ reports ∨ ∃ before later, reports = before ++ .paid :: later ∧
    run PurchaseStatus.after status before = .processing := by
  induction reports generalizing status with
  | nil => simp
  | cons report reports ih =>
  rw [Runs.run_cons, ih]
  constructor
  · rintro (done | late | ⟨before, later, rfl, processing⟩)
    · rcases after_eq_completed done with old | rfl | ⟨processing, rfl⟩
      · exact .inl old
      · exact .inr (.inl mem_cons_self)
      · exact .inr (.inr ⟨[], reports, rfl, processing⟩)
    · exact .inr (.inl (mem_cons_of_mem report late))
    · exact .inr (.inr ⟨report :: before, later, rfl, processing⟩)
  rintro (rfl | late | ⟨before, later, split, processing⟩)
  · exact .inl (after_completed report)
  · rcases mem_cons.mp late with rfl | late
    · exact .inl (after_settledLate status)
    · exact .inr (.inl late)
  cases before with
  | nil =>
    cases split
    rw [Runs.run_nil] at processing
    rw [processing]
    exact .inl rfl
  | cons first before =>
    cases split
    exact .inr (.inr ⟨before, later, rfl, processing⟩)

variable {reports : List Settlement} {event : StripeEvent}

/-- Without a close report, a processing purchase is completed by any paid or late report. -/
theorem run_after_unclosed (unfailed : .failed ∉ reports) (unexpired : .expired ∉ reports) :
    run PurchaseStatus.after .processing reports = .completed ↔
    .settledLate ∈ reports ∨ .paid ∈ reports := by
  induction reports with
  | nil => simp
  | cons report reports ih =>
  have rest := ih (fun h => unfailed (mem_cons_of_mem _ h)) fun h => unexpired (mem_cons_of_mem _ h)
  have done : ∀ late : List Settlement, run PurchaseStatus.after .completed late = .completed :=
    fun late => (run_after_completed_iff .completed late).mpr (.inl rfl)
  rw [Runs.run_cons]
  cases report with
  | paid => simp [PurchaseStatus.after, done]
  | settledLate => simp [PurchaseStatus.after, done]
  | unpaid => simpa [PurchaseStatus.after] using rest
  | failed => exact absurd mem_cons_self unfailed
  | expired => exact absurd mem_cons_self unexpired

theorem run_after_unpaid (unpaid : .paid ∉ reports) :
    run PurchaseStatus.after .processing reports = .completed ↔ .settledLate ∈ reports := by
  rw [run_after_completed_iff]
  constructor
  · rintro (done | late | ⟨before, later, rfl, _⟩)
    · cases done
    · exact late
    · exact absurd (mem_append_right before mem_cons_self) unpaid
  · exact fun late => .inr (.inl late)

/-- Unless a paid and a close report are both present, the order of reports does not matter. -/
theorem run_after_perm {xs ys : List Settlement} (perm : xs.Perm ys)
    (apart : ¬(.paid ∈ xs ∧ (.failed ∈ xs ∨ .expired ∈ xs))) :
    run PurchaseStatus.after .processing xs = .completed ↔
    run PurchaseStatus.after .processing ys = .completed := by
  by_cases paid : .paid ∈ xs
  · have unclosed := fun closed => apart ⟨paid, closed⟩
    have unfailed : .failed ∉ xs := fun failed => unclosed (.inl failed)
    have unexpired : .expired ∉ xs := fun expired => unclosed (.inr expired)
    rw [run_after_unclosed unfailed unexpired, run_after_unclosed (mt perm.mem_iff.mpr unfailed)
      (mt perm.mem_iff.mpr unexpired), perm.mem_iff, perm.mem_iff]
  · rw [run_after_unpaid paid, run_after_unpaid (mt perm.mem_iff.mpr paid), perm.mem_iff]

/-! ## One delivery -/

/-- An event as delivered: the identifier and the clock reading are the receiver's. -/
structure Delivery where
  event : StripeEvent
  entryId : Uuid
  now : Instant

def webhookStep (d : Delivery) : Db :=
  commit db ((stripeBillingWebhook db d.event d.entryId d.now).map Prod.fst)

theorem completeCreditPurchase_credits {db : Db} {session : String} {purchase : CreditPurchase}
    {settledLate : Bool} (found : db.purchaseForSession? session = some purchase)
    (open_ : purchase.status ≠ .completed) (admitted : purchase.status = .processing ∨ settledLate)
    {entryId : Uuid} (fresh : lookup CreditLedgerEntry.id entryId db.ledger = none) (now : Instant) :
    ∃ settled : CreditPurchase, settled.status = .completed ∧ settled.customerId = purchase.customerId ∧
    settled.amountCents = purchase.amountCents ∧ settled.id = purchase.id ∧
    ∃ db', completeCreditPurchaseForSession db session settledLate entryId now =
    .ok (db', some settled) ∧ db'.purchaseForSession? session = some settled ∧
    db'.ledger = db.ledger ++ [purchaseCredit purchase entryId now] ∧ db'.receipts = db.receipts := by
  have whole := purchase.wholeDollars
  have enough : ¬ purchase.amountCents < minPurchaseCents := by simp only [minPurchaseCents]; omega
  have allowed : ¬ (purchase.status ≠ .processing ∧
      ¬(settledLate ∧ (purchase.status = .failed ∨ purchase.status = .expired))) := by
    rintro ⟨closed, refused⟩
    rcases admitted with processing | late
    · exact closed processing
    refine refused ⟨late, ?_⟩
    cases status : purchase.status <;> simp_all
  let settle := fun p : CreditPurchase =>
    { p with ledgerEntryId := some entryId, status := .completed, completedAt := some now }
  let credited := { db with ledger := db.ledger ++ [purchaseCredit purchase entryId now] }
  refine ⟨settle purchase, rfl, rfl, rfl, rfl, credited.setPurchase session settle, ?_, ?_, rfl, rfl⟩
  · simp only [completeCreditPurchaseForSession, found, if_neg open_, if_neg allowed, if_neg enough,
      insertLedgerEntry, purchaseCredit, fresh]
    rfl
  · exact lookup_adjust_self (fun _ _ => rfl) found

theorem closeCreditPurchase_ok {db : Db} {session : String} {purchase : CreditPurchase}
    (found : db.purchaseForSession? session = some purchase) {status : PurchaseStatus}
    (allowed : status = .failed ∨ status = .expired) :
    ∃ closed : CreditPurchase, closed.status =
    (if purchase.status = .processing then status else purchase.status) ∧
    closed.customerId = purchase.customerId ∧ closed.amountCents = purchase.amountCents ∧
    closed.id = purchase.id ∧
    ∃ db', closeCreditPurchaseForSession db session status = .ok (db', some closed) ∧
    db'.purchaseForSession? session = some closed ∧ db'.ledger = db.ledger ∧ db'.receipts = db.receipts := by
  have named : ¬ (status ≠ .failed ∧ status ≠ .expired) := by
    rintro ⟨notFailed, notExpired⟩
    exact allowed.elim notFailed notExpired
  by_cases processing : purchase.status = .processing
  · let close := fun p : CreditPurchase => { p with status }
    refine ⟨close purchase, by rw [if_pos processing], rfl, rfl, rfl, db.setPurchase session close,
      ?_, ?_, rfl, rfl⟩
    · simp only [closeCreditPurchaseForSession, if_neg named, found, processing, if_true]
      rfl
    · exact lookup_adjust_self (fun _ _ => rfl) found
  · refine ⟨purchase, by rw [if_neg processing], rfl, rfl, rfl, db, ?_, found, rfl, rfl⟩
    simp only [closeCreditPurchaseForSession, if_neg named, found, if_neg processing]

/-- After a report the purchase has moved as the automaton says, the wallet is credited exactly when
it became completed, and at most the event's own receipt is new. -/
structure Settles (db' : Db) (session : String) (purchase : CreditPurchase) (report : Settlement)
    (d : Delivery) : Prop where
  moved : ∃ moved : CreditPurchase, db'.purchaseForSession? session = some moved ∧
    moved.status = purchase.status.after report ∧ moved.customerId = purchase.customerId ∧
    moved.amountCents = purchase.amountCents ∧ moved.id = purchase.id
  ledger : db'.ledger = if purchase.status ≠ .completed ∧ purchase.status.after report = .completed then
    db.ledger ++ [purchaseCredit purchase d.entryId d.now] else db.ledger
  receipts : db'.receipts = db.receipts ∨ db'.receipts = (recordReceipt db (strip d.event.id) d.now).receipts

def serveReport (received : Db) (session : String) (report : Settlement) (d : Delivery) :
    Except Fault (Db × WebhookReply) :=
  match report with
  | .paid => webhookOutcome (completeCreditPurchaseForSession received session false d.entryId d.now)
  | .unpaid => .ok (received, .pending)
  | .settledLate => webhookOutcome (completeCreditPurchaseForSession received session true d.entryId d.now)
  | .failed => webhookOutcome (closeCreditPurchaseForSession received session .failed)
  | .expired => webhookOutcome (closeCreditPurchaseForSession received session .expired)

theorem stripeBillingWebhook_first {db : Db} {session : String} {report : Settlement} {d : Delivery}
    (nonblank : session ≠ "") (named : strip d.event.id ≠ "")
    (forSession : strip d.event.sessionId = session) (reports : d.event.settlement? = some report)
    (unseen : db.receipt? "stripe" (strip d.event.id) = none) :
    stripeBillingWebhook db d.event d.entryId d.now =
    serveReport (recordReceipt db (strip d.event.id) d.now) session report d := by
  simp only [stripeBillingWebhook, if_neg named, unseen, forSession, if_neg nonblank]
  unfold StripeEvent.settlement? at reports
  split at reports
  case h_1 completed =>
    by_cases paid : d.event.paymentStatus = "paid"
    · simp only [paid, if_true, some.injEq] at reports
      subst reports
      simp only [completed, paid, if_true, serveReport]
    simp only [paid, if_false, some.injEq] at reports
    subst reports
    simp only [completed, paid, if_false, serveReport]
  case h_2 succeeded =>
    cases reports
    simp only [succeeded, serveReport]
  case h_3 failed =>
    cases reports
    simp only [failed, serveReport]
  case h_4 expired =>
    cases reports
    simp only [expired, serveReport]
  case h_5 => cases reports

section
variable {db : Db} {session : String} {purchase : CreditPurchase} {report : Settlement}
  {d : Delivery} {db' received : Db}

theorem settles_of_ok {reply : WebhookReply}
    (served : stripeBillingWebhook db d.event d.entryId d.now = .ok (db', reply))
    (settles : Settles db db' session purchase report d) :
    Settles db (webhookStep db d) session purchase report d := by
  have landed : webhookStep db d = db' := by simp only [webhookStep, served, Except.map, commit]
  rw [landed]
  exact settles

section
variable (receipted : received = recordReceipt db (strip d.event.id) d.now)
include receipted

section
variable (found : db.purchaseForSession? session = some purchase)
include found

theorem settles_complete {settledLate : Bool}
    (fresh : lookup CreditLedgerEntry.id d.entryId db.ledger = none)
    (admitted : purchase.status = .completed ∨ purchase.status = .processing ∨ settledLate)
    (completes : purchase.status.after report = .completed)
    (served : stripeBillingWebhook db d.event d.entryId d.now = webhookOutcome
      (completeCreditPurchaseForSession received session settledLate d.entryId d.now)) :
    Settles db (webhookStep db d) session purchase report d := by
  subst receipted
  have found' : (recordReceipt db (strip d.event.id) d.now).purchaseForSession? session =
    some purchase := found
  by_cases done : purchase.status = .completed
  · simp only [completeCreditPurchaseForSession, found', done, if_true] at served
    refine settles_of_ok served ⟨⟨purchase, found, by rw [completes, done], rfl, rfl, rfl⟩, ?_, .inr rfl⟩
    rw [if_neg (by simp [done])]
    rfl
  obtain ⟨settled, status, customer, amount, sameId, db', ran, stored, ledger, receipts⟩ :=
    completeCreditPurchase_credits found' done (admitted.resolve_left done) fresh d.now
  rw [ran] at served
  refine settles_of_ok served
    ⟨⟨settled, stored, by rw [completes, status], customer, amount, sameId⟩, ?_, .inr receipts⟩
  rw [if_pos ⟨done, completes⟩]
  exact ledger

theorem settles_close {status : PurchaseStatus} (allowed : status = .failed ∨ status = .expired)
    (moves : purchase.status.after report = if purchase.status = .processing then status else
      purchase.status)
    (served : stripeBillingWebhook db d.event d.entryId d.now = webhookOutcome
      (closeCreditPurchaseForSession received session status)) :
    Settles db (webhookStep db d) session purchase report d := by
  subst receipted
  have found' : (recordReceipt db (strip d.event.id) d.now).purchaseForSession? session =
    some purchase := found
  obtain ⟨closed, after, customer, amount, sameId, db', ran, stored, ledger, receipts⟩ :=
    closeCreditPurchase_ok found' allowed
  rw [ran] at served
  refine settles_of_ok served ⟨⟨closed, stored, by rw [moves, after], customer, amount, sameId⟩,
    ?_, .inr receipts⟩
  rw [if_neg]
  · exact ledger
  rintro ⟨pending, completes⟩
  rw [moves] at completes
  split at completes
  · rcases allowed with rfl | rfl <;> cases completes
  · exact pending completes

end

end

theorem settles_unmoved (found : db'.purchaseForSession? session = some purchase)
    (unmoved : purchase.status.after report = purchase.status) (ledger : db'.ledger = db.ledger)
    (receipts : db'.receipts = db.receipts ∨
      db'.receipts = (recordReceipt db (strip d.event.id) d.now).receipts) :
    Settles db db' session purchase report d := by
  refine ⟨⟨purchase, found, unmoved.symm, rfl, rfl, rfl⟩, ?_, receipts⟩
  rw [if_neg, ledger]
  rintro ⟨pending, completes⟩
  exact pending (unmoved.symm.trans completes)

theorem webhookStep_settles (found : db.purchaseForSession? session = some purchase)
    (nonblank : session ≠ "") (named : strip d.event.id ≠ "")
    (forSession : strip d.event.sessionId = session) (reports : d.event.settlement? = some report)
    (unseen : db.receipt? "stripe" (strip d.event.id) = none)
    (fresh : lookup CreditLedgerEntry.id d.entryId db.ledger = none) :
    Settles db (webhookStep db d) session purchase report d := by
  have served := stripeBillingWebhook_first nonblank named forSession reports unseen
  cases report with
  | settledLate => exact settles_complete rfl found fresh (.inr (.inr rfl)) (after_settledLate _) served
  | unpaid =>
    refine settles_of_ok served (settles_unmoved found ?_ rfl (.inr rfl))
    cases purchase.status <;> rfl
  | failed =>
    refine settles_close rfl found (.inl rfl) ?_ served
    cases purchase.status <;> rfl
  | expired =>
    refine settles_close rfl found (.inr rfl) ?_ served
    cases purchase.status <;> rfl
  | paid =>
  by_cases closed : purchase.status = .failed ∨ purchase.status = .expired
  · -- refused before the commit: the receipt is rolled back with it
    have found' : (recordReceipt db (strip d.event.id) d.now).purchaseForSession? session =
      some purchase := found
    obtain ⟨detail, refused⟩ : ∃ detail, completeCreditPurchaseForSession
      (recordReceipt db (strip d.event.id) d.now)
        session false d.entryId d.now = .error (.billing detail 409) := by
      rcases closed with closed | closed <;> simp [completeCreditPurchaseForSession, found', closed]
    have kept : webhookStep db d = db := by
      simp only [webhookStep, served, serveReport, refused, webhookOutcome, Except.map, commit]
    rw [kept]
    refine settles_unmoved found ?_ rfl (.inl rfl)
    rcases closed with closed | closed <;> rw [closed] <;> rfl
  have admitted : purchase.status = .completed ∨ purchase.status = .processing := by
    cases status : purchase.status <;> simp_all
  refine settles_complete rfl found fresh (admitted.imp_right .inl) ?_ served
  rcases admitted with done | processing
  · rw [done, after_completed]
  rw [processing]
  rfl

end

/-! ## Any sequence of deliveries -/

/-- Deliveries of handled events for one Checkout session. An event id names
one event, none of them was received before, and identifiers are fresh. -/
structure SessionDeliveries (session : String) (ds : List Delivery) : Prop where
  named : ∀ d ∈ ds, strip d.event.id ≠ ""
  forSession : ∀ d ∈ ds, strip d.event.sessionId = session
  handled : ∀ d ∈ ds, d.event.settlement?.isSome
  identified : ∀ d ∈ ds, ∀ e ∈ ds, strip d.event.id = strip e.event.id →
    d.event.settlement? = e.event.settlement?
  unseen : ∀ d ∈ ds, db.receipt? "stripe" (strip d.event.id) = none
  distinct : (ds.map Delivery.entryId).Nodup
  fresh : ∀ d ∈ ds, lookup CreditLedgerEntry.id d.entryId db.ledger = none

def reportsOf (ds : List Delivery) : List Settlement := ds.filterMap fun d => d.event.settlement?

variable {later : List Delivery}

theorem SessionDeliveries.init {db : Db} {session : String} {ds : List Delivery}
    (deliveries : SessionDeliveries db session (ds ++ later)) : SessionDeliveries db session ds where
  named d member := deliveries.named d (mem_append_left _ member)
  forSession d member := deliveries.forSession d (mem_append_left _ member)
  handled d member := deliveries.handled d (mem_append_left _ member)
  identified d hd e he := deliveries.identified d (mem_append_left _ hd) e (mem_append_left _ he)
  unseen d member := deliveries.unseen d (mem_append_left _ member)
  distinct := by
    have distinct := deliveries.distinct
    rw [map_append] at distinct
    exact distinct.of_append_left
  fresh d member := deliveries.fresh d (mem_append_left _ member)

theorem after_absorbed {status : PurchaseStatus} {report : Settlement}
    (absorbed : status.after report = status) (next : Settlement) :
    (status.after next).after report = status.after next := by
  cases status <;> cases report <;> cases next <;> simp_all [PurchaseStatus.after]

/-- After some deliveries the purchase is where the automaton is, the wallet has at most the one
credit, and every event received since would change nothing if served again. -/
structure Follows (start : Db) (session : String) (purchase : CreditPurchase) (ds : List Delivery)
    (db : Db) :
    Prop where
  row : ∃ moved, db.purchaseForSession? session = some moved ∧
    moved.status = run PurchaseStatus.after purchase.status (reportsOf ds) ∧
    moved.customerId = purchase.customerId ∧ moved.amountCents = purchase.amountCents ∧
      moved.id = purchase.id
  ledger : if run PurchaseStatus.after purchase.status (reportsOf ds) = .completed then
      ∃ entry, db.ledger = start.ledger ++ [entry] ∧ entry.kind = .purchase ∧
        entry.customerId = purchase.customerId ∧ entry.amountCents = purchase.amountCents ∧
        entry.id ∈ ds.map Delivery.entryId
    else db.ledger = start.ledger
  receipts : ∀ r ∈ db.receipts, r ∈ start.receipts ∨ ∃ d ∈ ds, r.eventKey = strip d.event.id ∧
    ∀ report ∈ d.event.settlement?, (run PurchaseStatus.after purchase.status (reportsOf ds)).after report =
        run PurchaseStatus.after purchase.status (reportsOf ds)

theorem reportsOf_concat {ds : List Delivery} {d : Delivery} {report : Settlement}
    (reports : d.event.settlement? = some report) : reportsOf (ds ++ [d]) = reportsOf ds ++ [report] := by
  simp [reportsOf, List.filterMap_append, reports]

section
variable {start db : Db} {session : String} {purchase : CreditPurchase} {ds : List Delivery} {d : Delivery}
  {report : Settlement}

theorem Follows.duplicate (follows : Follows start session purchase ds db)
    (reports : d.event.settlement? = some report)
    (absorbed : (run PurchaseStatus.after purchase.status (reportsOf ds)).after report =
      run PurchaseStatus.after purchase.status (reportsOf ds)) :
    Follows start session purchase (ds ++ [d]) db := by
  have same : run PurchaseStatus.after purchase.status (reportsOf (ds ++ [d])) =
      run PurchaseStatus.after purchase.status (reportsOf ds) := by
    rw [reportsOf_concat reports, run_concat, absorbed]
  obtain ⟨row, ledger, receipts⟩ := follows
  refine ⟨by rw [same]; exact row, ?_, fun r member => ?_⟩
  · rw [same]
    split at ledger
    case isTrue completed =>
      obtain ⟨entry, grown, kind, customer, amount, used⟩ := ledger
      rw [if_pos completed]
      refine ⟨entry, grown, kind, customer, amount, ?_⟩
      rw [map_append]
      exact mem_append_left _ used
    case isFalse pending =>
    rw [if_neg pending]
    exact ledger
  · rw [same]
    exact (receipts r member).imp_right fun ⟨e, seen, key, fixed⟩ => ⟨e, mem_append_left _ seen, key, fixed⟩

theorem Follows.settle {moved : CreditPurchase} {db' : Db}
    (follows : Follows start session purchase ds db) (reports : d.event.settlement? = some report)
    (found : db.purchaseForSession? session = some moved) (settles : Settles db db' session moved report d) :
    Follows start session purchase (ds ++ [d]) db' := by
  obtain ⟨⟨row, found', status, customer, amount, sameId⟩, ledger, receipts⟩ := follows
  rw [found] at found'
  cases found'
  have next : run PurchaseStatus.after purchase.status (reportsOf (ds ++ [d])) =
    moved.status.after report := by
    rw [reportsOf_concat reports, run_concat, status]
  rw [← status] at ledger receipts
  obtain ⟨⟨after, stored, status', customer', amount', sameId'⟩, grown, added⟩ := settles
  refine ⟨⟨after, stored, by rw [next, status'], customer'.trans customer, amount'.trans amount,
    sameId'.trans sameId⟩, ?_, fun r member => ?_⟩
  · rw [next]
    by_cases done : moved.status = .completed
    · rw [if_pos done] at ledger
      obtain ⟨entry, before, kind, owner, size, used⟩ := ledger
      rw [done, after_completed, if_pos rfl]
      rw [if_neg (by simp [done])] at grown
      refine ⟨entry, grown.trans before, kind, owner, size, ?_⟩
      rw [map_append]
      exact mem_append_left _ used
    rw [if_neg done] at ledger
    by_cases completes : moved.status.after report = .completed
    · rw [if_pos ⟨done, completes⟩] at grown
      rw [if_pos completes]
      exact ⟨purchaseCredit moved d.entryId d.now, by rw [grown, ledger], rfl, customer, amount,
        by simp [purchaseCredit]⟩
    · rw [if_neg fun both => completes both.2] at grown
      rw [if_neg completes, grown, ledger]
  rw [next]
  have old : r ∈ db.receipts → r ∈ start.receipts ∨ ∃ e ∈ ds ++ [d], r.eventKey = strip e.event.id ∧
      ∀ report' ∈ e.event.settlement?, (moved.status.after report).after report' =
        moved.status.after report := by
    intro before
    refine (receipts r before).imp_right fun ⟨e, seen, key, fixed⟩ => ⟨e, mem_append_left _ seen, key, ?_⟩
    exact fun report' said => after_absorbed (fixed report' said) report
  rcases added with same | new
  · exact old (same ▸ member)
  rw [new] at member
  rcases mem_append.mp member with before | own
  · exact old before
  refine .inr ⟨d, by simp, by rw [mem_singleton.mp own], fun report' said => ?_⟩
  rw [reports] at said
  cases said
  exact after_after _ _

end

section
variable {db : Db} {session : String} {purchase : CreditPurchase}

/-- One more delivery is a duplicate of an absorbed report, or settles its report. -/
theorem Follows.step {start : Db} {ds : List Delivery}
    {d : Delivery} (nonblank : session ≠ "") (deliveries : SessionDeliveries start session (ds ++ [d]))
    (follows : Follows start session purchase ds db) :
    ∃ report moved, d.event.settlement? = some report ∧ db.purchaseForSession? session = some moved ∧
    moved.status = run PurchaseStatus.after purchase.status (reportsOf ds) ∧
    (webhookStep db d = db ∧ moved.status.after report = moved.status ∨
    Settles db (webhookStep db d) session moved report d) := by
  have last : d ∈ ds ++ [d] := by simp
  obtain ⟨report, reports⟩ := isSome_iff_exists.mp (deliveries.handled d last)
  obtain ⟨moved, stored, status, _⟩ := follows.row
  refine ⟨report, moved, reports, stored, status, ?_⟩
  cases seen : db.receipt? "stripe" (strip d.event.id) with
  | some receipt =>
    obtain ⟨member, key⟩ := lookup_some seen
    rcases follows.receipts receipt member with old | ⟨e, earlier, sameKey, absorbed⟩
    · exact absurd key (lookup_none.mp (deliveries.unseen d last) receipt old)
    have same : e.event.settlement? = d.event.settlement? :=
      deliveries.identified e (mem_append_left _ earlier) d last
        (sameKey.symm.trans (congrArg Prod.snd key))
    have duplicate : webhookStep db d = db := by
      simp only [webhookStep, stripeBillingWebhook, if_neg (deliveries.named d last), seen,
        Except.map, commit]
    refine .inl ⟨duplicate, ?_⟩
    rw [status]
    exact absorbed report (same.trans reports)
  | none =>
  refine .inr (webhookStep_settles stored nonblank (deliveries.named d last)
    (deliveries.forSession d last) reports seen ?_)
  -- the only entry added so far carries an identifier of an earlier delivery
  have ledger := follows.ledger
  split at ledger
  · obtain ⟨entry, grown, _, _, _, used⟩ := ledger
    rw [grown]
    refine lookup_none.mpr fun e member same => ?_
    rcases mem_append.mp member with old | new
    · exact lookup_none.mp (deliveries.fresh d last) e old same
    rw [mem_singleton.mp new] at same
    have distinct := deliveries.distinct
    rw [map_append, List.nodup_append] at distinct
    exact distinct.2.2 _ used _ (by simp) same
  · rw [ledger]
    exact deliveries.fresh d last

/-- Receipts and refusals are invisible: the purchase follows the automaton. -/
theorem webhook_run_follows {ds : List Delivery}
    (nonblank : session ≠ "") (found : db.purchaseForSession? session = some purchase)
    (pending : purchase.status ≠ .completed) (deliveries : SessionDeliveries db session ds) :
    Follows db session purchase ds (run webhookStep db ds) := by
  induction ds using reverseRecOn with
  | nil =>
    refine ⟨⟨purchase, found, rfl, rfl, rfl, rfl⟩, ?_, fun r member => .inl member⟩
    simp [reportsOf, pending]
  | append_singleton ds d ih =>
  have follows := ih deliveries.init
  obtain ⟨report, moved, reports, stored, status, outcome⟩ := follows.step nonblank deliveries
  rw [run_concat]
  rcases outcome with ⟨same, absorbed⟩ | settles
  · rw [same]
    rw [status] at absorbed
    exact follows.duplicate reports absorbed
  · exact follows.settle reports stored settles

/-- Once the purchase is completed, further deliveries leave the ledger as it is. -/
theorem webhook_run_ledger_of_completed
    {before : List Delivery} (nonblank : session ≠ "")
    (found : db.purchaseForSession? session = some purchase) (pending : purchase.status ≠ .completed)
    (deliveries : SessionDeliveries db session (before ++ later))
    (completed : run PurchaseStatus.after purchase.status (reportsOf before) = .completed) :
    (run webhookStep db (before ++ later)).ledger = (run webhookStep db before).ledger := by
  induction later using reverseRecOn with
  | nil => rw [append_nil]
  | append_singleton later d ih =>
  rw [← append_assoc] at deliveries ⊢
  have follows := webhook_run_follows nonblank found pending deliveries.init
  obtain ⟨report, moved, _, _, status, outcome⟩ := follows.step nonblank deliveries
  have done : moved.status = .completed := by
    rw [status, reportsOf, List.filterMap_append, Runs.run_append]
    exact (run_after_completed_iff _ _).mpr (.inl completed)
  rw [run_concat, ← ih deliveries.init]
  rcases outcome with ⟨same, _⟩ | settles
  · rw [same]
  · rw [settles.ledger, if_neg (by simp [done])]

end

def purchaseStatus? (session : String) : Option PurchaseStatus :=
  (db.purchaseForSession? session).map CreditPurchase.status

section
variable {start db : Db} {session : String} {purchase : CreditPurchase} {ds : List Delivery}

theorem Follows.status
    (follows : Follows start session purchase ds db) :
    purchaseStatus? db session = some (run PurchaseStatus.after purchase.status (reportsOf ds)) := by
  obtain ⟨moved, stored, status, _⟩ := follows.row
  rw [purchaseStatus?, stored, map_some, status]

theorem Follows.credited (follows : Follows start session purchase ds db) :
    purchaseStatus? db session = some .completed ∧
    (∃ entry, db.ledger = start.ledger ++ [entry] ∧ entry.kind = .purchase ∧
      entry.customerId = purchase.customerId ∧ entry.amountCents = purchase.amountCents) ∨
    purchaseStatus? db session ≠ some .completed ∧ db.ledger = start.ledger := by
  have ledger := follows.ledger
  rw [follows.status]
  split at ledger
  case isTrue completed =>
    obtain ⟨entry, grown, kind, customer, amount, _⟩ := ledger
    exact .inl ⟨congrArg some completed, entry, grown, kind, customer, amount⟩
  case isFalse pending => exact .inr ⟨fun done => pending (some.inj done), ledger⟩

theorem Follows.ledger_eq_iff
    (follows : Follows start session purchase ds db) :
    db.ledger = start.ledger ↔ purchaseStatus? db session ≠ some .completed := by
  rcases follows.credited with ⟨done, entry, grown, _⟩ | ⟨pending, same⟩
  · simp [done, grown]
  · simp [pending, same]

theorem settlement?_failed : event.settlement? = some .failed ↔ event.type = .asyncPaymentFailed := by
  unfold StripeEvent.settlement?
  cases event.type <;> simp
  split <;> simp

theorem settlement?_expired : event.settlement? = some .expired ↔ event.type = .expired := by
  unfold StripeEvent.settlement?
  cases event.type <;> simp
  split <;> simp

theorem settlement?_settledLate :
    event.settlement? = some .settledLate ↔ event.type = .asyncPaymentSucceeded := by
  unfold StripeEvent.settlement?
  cases event.type <;> simp
  split <;> simp

theorem settlement?_paid :
    event.settlement? = some .paid ↔ event.type = .completed ∧ event.paymentStatus = "paid" := by
  unfold StripeEvent.settlement?
  cases event.type <;> simp

theorem mem_reportsOf {report : Settlement} :
    report ∈ reportsOf ds ↔ ∃ d ∈ ds, d.event.settlement? = some report := by
  simp [reportsOf]

theorem reportsOf_split {first : List Settlement} {report : Settlement}
    {rest : List Settlement} (handled : ∀ d ∈ ds, d.event.settlement?.isSome)
    (split : reportsOf ds = first ++ report :: rest) :
    ∃ before d later, ds = before ++ d :: later ∧ d.event.settlement? = some report ∧
    reportsOf before = first := by
  induction ds generalizing first with
  | nil => simp [reportsOf] at split
  | cons d ds ih =>
  obtain ⟨said, reports⟩ := isSome_iff_exists.mp (handled d mem_cons_self)
  have unfolded : said :: reportsOf ds = first ++ report :: rest := by
    simpa [reportsOf, reports] using split
  cases first with
  | nil =>
    cases unfolded
    exact ⟨[], d, ds, rfl, reports, rfl⟩
  | cons head first =>
    obtain ⟨rfl, tail⟩ := List.cons.inj unfolded
    obtain ⟨before, e, later, rfl, said', same⟩ :=
      ih (fun e member => handled e (mem_cons_of_mem d member)) tail
    exact ⟨d :: before, e, later, rfl, said', by simp [reportsOf, reports, ← same]⟩

theorem reportsOf_perm {ds' : List Delivery} (perm : (ds.map Delivery.event).Perm (ds'.map Delivery.event)) :
    (reportsOf ds).Perm (reportsOf ds') := by
  have through : ∀ l : List Delivery, reportsOf l =
    (l.map Delivery.event).filterMap StripeEvent.settlement? := by
    intro l
    rw [List.filterMap_map]
    rfl
  rw [through, through]
  exact perm.filterMap _

theorem webhook_run_completed_iff (nonblank : session ≠ "")
    (found : db.purchaseForSession? session = some purchase)
    (processing : purchase.status = .processing) (deliveries : SessionDeliveries db session ds) :
    purchaseStatus? (run webhookStep db ds) session = some .completed ↔
    (∃ d ∈ ds, d.event.type = .asyncPaymentSucceeded) ∨
    ∃ before d later, ds = before ++ d :: later ∧ d.event.type = .completed ∧
    d.event.paymentStatus = "paid" ∧
    purchaseStatus? (run webhookStep db before) session = some .processing := by
  have pending : purchase.status ≠ .completed := by rw [processing]; decide
  have status : ∀ {before later}, ds = before ++ later →
    purchaseStatus? (run webhookStep db before) session =
        some (run PurchaseStatus.after .processing (reportsOf before)) := by
    rintro before later rfl
    rw [(webhook_run_follows nonblank found pending deliveries.init).status, processing]
  rw [status (append_nil ds).symm, some.injEq, run_after_completed_iff, mem_reportsOf]
  simp only [settlement?_settledLate, reduceCtorEq, false_or]
  refine or_congr Iff.rfl ⟨?_, ?_⟩
  · rintro ⟨first, rest, split, met⟩
    obtain ⟨before, d, later, cut, said, rfl⟩ := reportsOf_split deliveries.handled split
    obtain ⟨type, paid⟩ := settlement?_paid.mp said
    exact ⟨before, d, later, cut, type, paid, by rw [status cut, met]⟩
  rintro ⟨before, d, later, cut, type, paid, met⟩
  rw [status cut, some.injEq] at met
  have said := settlement?_paid.mpr ⟨type, paid⟩
  exact ⟨reportsOf before, reportsOf later, by simp [cut, reportsOf, said], met⟩

end

/-- Exactly-once crediting, for a purchase that is still processing and every
sequence of deliveries for its Checkout session. -/
theorem stripe_webhook_exactly_once {db : Db} {session : String} {purchase : CreditPurchase}
    {ds : List Delivery} (nonblank : session ≠ "")
    (found : db.purchaseForSession? session = some purchase)
    (processing : purchase.status = .processing) (deliveries : SessionDeliveries db session ds) :
    let after := run webhookStep db ds
    -- at most one credit, of the purchase amount, and exactly when the purchase is completed
    (purchaseStatus? after session = some .completed ∧
      (∃ entry, after.ledger = db.ledger ++ [entry] ∧ entry.kind = .purchase ∧
          entry.customerId = purchase.customerId ∧ entry.amountCents = purchase.amountCents) ∨
      purchaseStatus? after session ≠ some .completed ∧ after.ledger = db.ledger) ∧
    -- a credit stands and a completed purchase stays completed
    (∀ before later, ds = before ++ later → purchaseStatus? (run webhookStep db before) session =
      some .completed →
      purchaseStatus? after session = some .completed ∧ after.ledger = (run webhookStep db before).ledger) ∧
    -- when the purchase ends completed
    (purchaseStatus? after session = some .completed ↔ (∃ d ∈ ds, d.event.type = .asyncPaymentSucceeded) ∨
      ∃ before d later, ds = before ++ d :: later ∧ d.event.type = .completed ∧
      d.event.paymentStatus = "paid" ∧
        purchaseStatus? (run webhookStep db before) session = some .processing) ∧
    -- without both a paid and a close event, the delivery order does not matter
    (¬((∃ d ∈ ds, d.event.type = .completed ∧ d.event.paymentStatus = "paid") ∧
        ∃ d ∈ ds, d.event.type = .asyncPaymentFailed ∨ d.event.type = .expired) →
      ∀ ds', SessionDeliveries db session ds' → (ds.map Delivery.event).Perm (ds'.map Delivery.event) →
        (purchaseStatus? after session = some .completed ↔
          purchaseStatus? (run webhookStep db ds') session = some .completed) ∧
        (after.ledger = db.ledger ↔ (run webhookStep db ds').ledger = db.ledger)) := by
  intro after
  have pending : purchase.status ≠ .completed := by rw [processing]; decide
  have follows : Follows db session purchase ds after :=
    webhook_run_follows nonblank found pending deliveries
  refine ⟨follows.credited, ?_, webhook_run_completed_iff nonblank found processing deliveries, ?_⟩
  · rintro before later rfl completed
    rw [(webhook_run_follows nonblank found pending deliveries.init).status, some.injEq] at completed
    refine ⟨?_, webhook_run_ledger_of_completed nonblank found pending deliveries completed⟩
    rw [follows.status, reportsOf, List.filterMap_append, Runs.run_append]
    exact congrArg some ((run_after_completed_iff _ _).mpr (.inl completed))
  intro apart ds' deliveries' perm
  have follows' := webhook_run_follows nonblank found pending deliveries'
  have same : purchaseStatus? after session = some .completed ↔
      purchaseStatus? (run webhookStep db ds') session = some .completed := by
    rw [follows.status, follows'.status, some.injEq, some.injEq, processing]
    refine run_after_perm (reportsOf_perm perm) ?_
    simpa only [mem_reportsOf, settlement?_paid, settlement?_failed, settlement?_expired,
      ← exists_or, ← and_or_left] using apart
  exact ⟨same, by rw [follows.ledger_eq_iff, follows'.ledger_eq_iff, Ne, Ne, same]⟩

def processingPurchase : CreditPurchase :=
  { id := 1, customerId := 1, amountCents := 2000, stripeCheckoutSessionId := "cs_1", createdAt := 0,
    wholeDollars := by decide }

/-- A delayed payment that is reported expired, then settles and is delivered twice. -/
def expiredThenSettled : List Delivery :=
  [⟨⟨"evt_1", .expired, "cs_1", "unpaid"⟩, 10, 1⟩,
    ⟨⟨"evt_2", .asyncPaymentSucceeded, "cs_1", "paid"⟩, 11, 2⟩,
   ⟨⟨"evt_2", .asyncPaymentSucceeded, "cs_1", "paid"⟩, 12, 3⟩]

theorem stripe_webhook_exactly_once_expiredThenSettled :
    SessionDeliveries { purchases := [processingPurchase] } "cs_1" expiredThenSettled ∧
      purchaseStatus? (run webhookStep { purchases := [processingPurchase] } expiredThenSettled)
      "cs_1" = some .completed ∧
      ∃ entry, (run webhookStep { purchases := [processingPurchase] } expiredThenSettled).ledger = [entry] ∧
        entry.amountCents = 2000 := by
  have deliveries : SessionDeliveries { purchases := [processingPurchase] } "cs_1" expiredThenSettled :=
    ⟨by decide, by decide, by decide, by decide, by decide, by decide, by decide⟩
  have once := stripe_webhook_exactly_once (by decide) (by rfl) (by rfl) deliveries
  have completed := once.2.2.1.mpr (.inl (by decide))
  rcases once.1 with ⟨_, entry, grown, _, _, amount⟩ | ⟨pending, _⟩
  · exact ⟨deliveries, completed, entry, grown, amount⟩
  · exact absurd completed pending

end Jawnix
