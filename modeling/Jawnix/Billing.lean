import Jawnix.Clock
import Jawnix.LeadDatabases

/-!
# The Credit Wallet services of `billing.py`

Each service is a function of the database it runs on, under the Customer row lock,
to the database it leaves behind or to the exception it raises. Fresh identifiers
and clock readings are arguments. The activity log is left out.
-/
namespace Jawnix

def minLeadRateCentsPerThousand : Int := 100
def maxLeadRateCentsPerThousand : Int := 2000
def minPurchaseCents : Int := 100

structure SubmissionBilling where
  isBilled : Bool
  leadRateCentsPerThousand : Option Int := none
  amountCents : Option Int := none

structure CheckoutSession where
  id : String
  url : String

/-- Half-up rounding in whole cents, with a one-cent floor for a nonempty Batch. -/
def batchCostCents (leadCount leadRateCentsPerThousand : Int) : Int :=
  let rounded := (leadCount * leadRateCentsPerThousand + 500) / 1000
  if 0 < leadCount then max 1 rounded else 0

variable (db : Db) (customer : Customer) (request : LeadRequest) (customerId : Nat)

def balanceCents (customerId : Nat) : Int :=
  sumWhere (fun e => e.customerId = customerId) CreditLedgerEntry.amountCents db.ledger

def activeHoldsCents (customerId : Nat) : Int :=
  sumWhere (fun h => decide (h.customerId = customerId ∧ h.status = .active)) BatchHold.amountCents db.holds

def availableCents (customerId : Nat) : Int :=
  balanceCents db customerId - activeHoldsCents db customerId

def stripeBillingEnabled : Bool :=
  customer.billingEnabled && inventoryDatabase customer = .db1

/-! ## Insertions -/

def insertLedgerEntry (entry : CreditLedgerEntry) : Except Fault Db :=
  match lookup CreditLedgerEntry.id entry.id db.ledger with
  | some _ => .error (.integrity "credit_ledger_entries_pkey")
  | none => .ok { db with ledger := db.ledger ++ [entry] }

def insertPurchase (purchase : CreditPurchase) : Except Fault Db :=
  match lookup CreditPurchase.id purchase.id db.purchases,
      db.purchaseForSession? purchase.stripeCheckoutSessionId with
  | none, none => .ok { db with purchases := db.purchases ++ [purchase] }
  | some _, _ => .error (.integrity "credit_purchases_pkey")
  | none, some _ => .error (.integrity "credit_purchases_stripe_checkout_session_id_key")

def existingSubmission (userId : Uuid) (idempotencyKey : String) : Option LeadRequest :=
  lookup (fun r => (r.userId, r.idempotencyKey)) (userId, some idempotencyKey) db.requests

def insertRequest (hold : Option BatchHold) : Except Fault Db :=
  match db.request? request.id, request.idempotencyKey.bind (existingSubmission db request.userId) with
  | some _, _ => .error (.integrity "lead_requests_pkey")
  | none, some _ => .error (.integrity "uq_lead_request_idempotency")
  | none, none => .ok { db with requests := db.requests ++ [request], holds := db.holds ++ hold.toList }

/-! ## Credit Purchases -/

/-- The Stripe call is the argument `checkout`: a session, or the client's error text. -/
def startCreditPurchase (amountDollars : Int) (purchaseId : Uuid)
    (checkout : Except String CheckoutSession) (now : Instant) : Except Fault Db :=
  if stripeBillingEnabled customer = false then
    .error (.billing "Stripe payments require billing and a Lead Rate for Database A." 409)
  else if floor : amountDollars < 1 then
    .error (.billing "Credit Purchases must be whole dollars with a $1 floor." 422)
  else
    match checkout with
    | .error message => .error (.billing message 503)
    | .ok session =>
      insertPurchase db
        { id := purchaseId
          customerId := customer.id
          amountCents := amountDollars * 100
          stripeCheckoutSessionId := session.id
          createdAt := now
          wholeDollars := by omega }

def purchaseCredit (purchase : CreditPurchase) (entryId : Uuid) (now : Instant) : CreditLedgerEntry :=
  { id := entryId
    customerId := purchase.customerId
    kind := .purchase
    amountCents := purchase.amountCents
    reason := s!"Credit Purchase {uuidText purchase.id} completed via Stripe Checkout."
    actorUserId := "system:stripe"
    createdAt := now
    checks := by have := purchase.wholeDollars; simp only [LedgerChecks]; omega }

/-- Credits the wallet of a Checkout session. `settledLate` marks money that arrived after a delayed
method was closed. -/
def completeCreditPurchaseForSession (session : String) (settledLate : Bool) (entryId : Uuid)
    (now : Instant) : Except Fault (Db × Option CreditPurchase) :=
  match db.purchaseForSession? session with
  | none => .ok (db, none)
  | some purchase =>
    if purchase.status = .completed then .ok (db, some purchase)
    else if purchase.status ≠ .processing ∧
      ¬(settledLate ∧ (purchase.status = .failed ∨ purchase.status = .expired)) then
      .error (.billing
        s!"Credit Purchase {uuidText purchase.id} cannot be completed from status {purchase.status.value}." 409)
    else if purchase.amountCents < minPurchaseCents then
      .error (.billing "Credit Purchases must be whole dollars with a $1 floor." 422)
    else
      match insertLedgerEntry db (purchaseCredit purchase entryId now) with
      | .error fault => .error fault
      | .ok credited =>
        let settle := fun p : CreditPurchase =>
          { p with ledgerEntryId := some entryId, status := .completed, completedAt := some now }
        .ok (credited.setPurchase session settle, some (settle purchase))

/-- Closes an unpaid Checkout session without ever reversing a credit. -/
def closeCreditPurchaseForSession (session : String) (status : PurchaseStatus) :
    Except Fault (Db × Option CreditPurchase) :=
  if status ≠ .failed ∧ status ≠ .expired then
    .error (.value "Credit Purchase close status must be failed or expired.")
  else
    match db.purchaseForSession? session with
    | none => .ok (db, none)
    | some purchase =>
      if purchase.status = .processing then
        .ok (db.setPurchase session (fun p => { p with status }), some { purchase with status })
      else .ok (db, some purchase)

/-! ## Batch Holds -/

def currentRate : Option Int :=
  if stripeBillingEnabled customer then customer.leadRateCentsPerThousand else none

def prepareSubmission (leadCount : Nat) (expected : Option Int) : Except Fault SubmissionBilling :=
  match db.customer? customerId with
  | none => .error (.billing "Customer was not found." 404)
  | some customer =>
    if currentRate customer ≠ expected then
      .error (.billing
        "Your lead price changed. Refresh the page, review the updated price, and submit again." 409)
    else if stripeBillingEnabled customer = false then .ok { isBilled := false }
    else
      match customer.leadRateCentsPerThousand with
      | none => .error (.billing "Billing is enabled, but this Customer has no Lead Rate." 409)
      | some rate =>
        let amount := batchCostCents leadCount rate
        let available := availableCents db customer.id
        if available < amount then
          .error (.billing ("The Credit Wallet does not have enough available balance for " ++
            s!"this Batch Hold. Required {amount} cents; available {available} cents.") 409)
        else .ok { isBilled := true, leadRateCentsPerThousand := some rate, amountCents := some amount }

/-- Freezes the terms on the request and opens its hold; column checks refuse terms without a rate
or with a negative amount. -/
def placeBatchHold (billing : SubmissionBilling) (holdId : Uuid) (now : Instant) :
    Except Fault (LeadRequest × Option BatchHold) :=
  if billing.isBilled then
    match billing.amountCents with
    | none => .error (.runtime "A billed request must freeze its Batch cost.")
    | some amount =>
      if frozen : billing.leadRateCentsPerThousand.isSome ∧ 0 ≤ amount then
        .ok ({ request with
                isBilled := true
                leadRateCentsPerThousand := billing.leadRateCentsPerThousand
                billingAmountCents := some amount
                frozenBilling := fun _ => ⟨frozen.1, amount, rfl, frozen.2⟩ },
          some { id := holdId, requestId := request.id, customerId := request.customerId,
                 amountCents := amount, createdAt := now, nonnegative := frozen.2 })
      else .error (.integrity "ck_lead_request_frozen_billing")
  else
    .ok ({ request with
            isBilled := false
            leadRateCentsPerThousand := billing.leadRateCentsPerThousand
            billingAmountCents := billing.amountCents
            frozenBilling := by simp }, none)

/-- A new Batch Request under its billing terms: `prepare_submission`, then
`place_batch_hold` on the new row, flushed together. -/
def billedSubmission (expected : Option Int) (holdId : Uuid) (now : Instant) : Except Fault Db :=
  match prepareSubmission db request.customerId request.leadCount expected with
  | .error fault => .error fault
  | .ok billing =>
    match placeBatchHold request billing holdId now with
    | .error fault => .error fault
    | .ok (placed, hold) => insertRequest db placed hold

def batchCharge (hold : BatchHold) (request : LeadRequest) (entryId : Uuid) (now : Instant) :
    CreditLedgerEntry :=
  { id := entryId
    customerId := hold.customerId
    kind := .batchCharge
    amountCents := -hold.amountCents
    reason := s!"Batch Hold captured for Batch Request {uuidText request.id}."
    actorUserId := "system:allocation"
    batchRequestId := some request.id
    createdAt := now
    checks := ⟨by have := hold.nonnegative; omega, rfl⟩ }

def captureBatchHold (entryId : Uuid) (now : Instant) : Except Fault Db :=
  if request.isBilled = false then .ok db
  else
    match db.hold? request.id with
    | none => .error (.runtime "Billed Batch Request has no Batch Hold.")
    | some hold =>
      match hold.status with
      | .captured => .ok db
      | .released => .error (.runtime "Released Batch Hold cannot be captured.")
      | .active =>
        let capture := fun h : BatchHold => { h with status := .captured, capturedAt := some now }
        match db.charge? request.id with
        | some _ => .ok (db.setHold request.id capture)
        | none =>
          match insertLedgerEntry db (batchCharge hold request entryId now) with
          | .error fault => .error fault
          | .ok charged => .ok (charged.setHold request.id capture)

def releaseBatchHold (now : Instant) : Db :=
  if request.isBilled = false then db
  else
    match db.hold? request.id with
    | none => db
    | some hold =>
      if hold.status = .active then
        db.setHold request.id (fun h => { h with status := .released, releasedAt := some now })
      else db

def reinstateBatchHold : Except Fault Db :=
  if request.isBilled = false then .ok db
  else
    match db.customer? request.customerId with
    | none => .error (.billing "Customer was not found." 404)
    | some customer =>
      match db.hold? request.id with
      | none => .error (.billing "Billed Batch Request has no Batch Hold." 409)
      | some hold =>
        match hold.status with
        | .captured => .error (.billing "A captured Batch Hold cannot be reinstated." 409)
        | .active => .ok db
        | .released =>
          let available := availableCents db customer.id
          if available < hold.amountCents then
            .error (.billing ("The Credit Wallet does not have enough available balance to " ++
              s!"retry this Batch. Required {hold.amountCents} cents; available {available} cents.") 409)
          else
            .ok (db.setHold request.id fun h => { h with status := .active, releasedAt := none })

theorem releaseBatchHold_frame (now : Instant) :
    ∃ holds, releaseBatchHold db request now = { db with holds } := by
  unfold releaseBatchHold
  split
  · exact ⟨_, rfl⟩
  split
  · exact ⟨_, rfl⟩
  split <;> exact ⟨_, rfl⟩

theorem reinstateBatchHold_frame {db after : Db} {request : LeadRequest}
    (done : reinstateBatchHold db request = .ok after) : ∃ holds, after = { db with holds } := by
  unfold reinstateBatchHold at done
  split at done
  · cases done
    exact ⟨_, rfl⟩
  split at done
  · cases done
  split at done
  · cases done
  split at done
  · cases done
  · cases done
    exact ⟨_, rfl⟩
  simp only at done
  split at done
  · cases done
  cases done
  exact ⟨_, rfl⟩

/-! ## Administrator services -/

def configureCustomerBilling (billingEnabled : Bool) (rate : Option Int)
    (reason : String) : Except Fault Db :=
  match db.customer? customerId with
  | none => .error (.billing "Customer was not found." 404)
  | some customer =>
    if customer.deletedAt.isSome then .error (.billing "Customer was not found." 404)
    else if strip reason = "" then
      .error (.billing "A reason is required for a billing change." 422)
    else if billingEnabled ∧ inventoryDatabase customer ≠ .db1 then
      .error (.billing "Stripe billing can be enabled only for Database A." 422)
    else if required : billingEnabled ∧ rate = none then
      .error (.billing "A Lead Rate is required when billing is enabled." 422)
    else if range : ∀ r ∈ rate, minLeadRateCentsPerThousand ≤ r ∧ r ≤ maxLeadRateCentsPerThousand then
      .ok (db.setCustomer customerId (fun c =>
        { c with
          billingEnabled
          leadRateCentsPerThousand := rate
          rateRequired := fun enabled => Option.isSome_iff_ne_none.mpr fun absent =>
            required ⟨enabled, absent⟩
          rateRange := range }))
    else .error (.billing "Lead Rate must be between 100 and 2000 cents per 1,000 leads." 422)

def postAdminAdjustment (amountCents : Int) (actorId : String)
    (reason : String) (entryId : Uuid) (now : Instant) : Except Fault Db :=
  match db.customer? customerId with
  | none => .error (.billing "Customer was not found." 404)
  | some customer =>
    if customer.deletedAt.isSome then .error (.billing "Customer was not found." 404)
    else if nonzero : amountCents = 0 then
      .error (.billing "An adjustment must change the wallet balance." 422)
    else if blank : strip reason = "" then
      .error (.billing "A reason is required for an adjustment." 422)
    else
      insertLedgerEntry db
        { id := entryId
          customerId := customer.id
          kind := .adminAdjustment
          amountCents
          reason := strip reason
          actorUserId := actorId
          createdAt := now
          checks := ⟨nonzero, Text.sqlTrim_strip_ne_empty blank⟩ }

def billedCustomer : Customer := { id := 1, billingEnabled := true, leadRateCentsPerThousand := some 1000 }

def fiveDollars : CreditLedgerEntry :=
  { id := 3, customerId := 1, kind := .purchase, amountCents := 500, reason := "top-up"
    actorUserId := "system:stripe", createdAt := 0, checks := (by decide : (0 : Int) < 500) }

end Jawnix
