import Jawnix.Billing

/-!
# What a billing service can do to the wallet tables

`WalletChange db db'` lists every way the ledger, the holds and the purchases move
in one service call, with the guards the service checked. Only the administrator's
adjustment is not in it. Each service is inverted once; invariants are proved
against the relation and never unfold a service.
-/
namespace Jawnix

/-- A hold update that changes the status and nothing a wallet total reads. -/
structure MovesHold (f : BatchHold → BatchHold) (status : HoldStatus) : Prop where
  request : ∀ h, (f h).requestId = h.requestId
  customer : ∀ h, (f h).customerId = h.customerId
  amount : ∀ h, (f h).amountCents = h.amountCents
  status : ∀ h, (f h).status = status

structure MovesPurchase (f : CreditPurchase → CreditPurchase) (status : PurchaseStatus) : Prop where
  session : ∀ p, (f p).stripeCheckoutSessionId = p.stripeCheckoutSessionId
  customer : ∀ p, (f p).customerId = p.customerId
  amount : ∀ p, (f p).amountCents = p.amountCents
  status : ∀ p, (f p).status = status

/-- Batch Requests are never removed, and their Customer and frozen amount never change. -/
def RequestsKept (db db' : Db) : Prop :=
  ∀ id r, db.request? id = some r → ∃ r', db'.request? id = some r' ∧
    r'.customerId = r.customerId ∧ r'.billingAmountCents = r.billingAmountCents

variable {db db' : Db} {now : Instant} {request : LeadRequest} {entryId : Uuid}
  {hold : Option BatchHold} {customerId : Nat} {expected : Option Int} {billing : SubmissionBilling}
  {holdId : Uuid} {session : String}

theorem RequestsKept.refl (db : Db) : RequestsKept db db :=
  fun _ r found => ⟨r, found, rfl, rfl⟩

theorem RequestsKept.of_eq (same : db'.requests = db.requests) : RequestsKept db db' := by
  intro id r found
  refine ⟨r, ?_, rfl, rfl⟩
  simpa only [Db.request?, same] using found

/-- What `capture_batch_hold` does: nothing for an unbilled or captured request,
otherwise the active hold is captured, with a charge unless one is there. -/
inductive CaptureChange (db db' : Db) : Prop
  | same (ledger : db'.ledger = db.ledger) (holds : db'.holds = db.holds)
      (purchases : db'.purchases = db.purchases)
  | charge (hold : BatchHold) (entry : CreditLedgerEntry) (f : BatchHold → BatchHold)
      (found : db.hold? hold.requestId = some hold) (active : hold.status = .active)
      (uncharged : db.charge? hold.requestId = none) (moves : MovesHold f .captured)
      (request : entry.batchRequestId = some hold.requestId) (owner : entry.customerId = hold.customerId)
      (kind : entry.kind = .batchCharge) (amount : entry.amountCents = -hold.amountCents)
      (ledger : db'.ledger = db.ledger ++ [entry])
      (holds : db'.holds = adjust BatchHold.requestId hold.requestId f db.holds)
      (purchases : db'.purchases = db.purchases)
  | charged (hold : BatchHold) (entry : CreditLedgerEntry) (f : BatchHold → BatchHold)
      (found : db.hold? hold.requestId = some hold) (active : hold.status = .active)
      (charged : db.charge? hold.requestId = some entry) (moves : MovesHold f .captured)
      (ledger : db'.ledger = db.ledger)
      (holds : db'.holds = adjust BatchHold.requestId hold.requestId f db.holds)
      (purchases : db'.purchases = db.purchases)

inductive WalletChange (db db' : Db) : Prop
  | same (ledger : db'.ledger = db.ledger) (holds : db'.holds = db.holds)
      (purchases : db'.purchases = db.purchases)
  | place (hold : BatchHold) (row : LeadRequest) (fresh : db.request? hold.requestId = none)
      (placed : db'.request? hold.requestId = some row) (owner : row.customerId = hold.customerId)
      (frozen : row.billingAmountCents = some hold.amountCents) (active : hold.status = .active)
      (covered : hold.amountCents ≤ availableCents db hold.customerId)
      (ledger : db'.ledger = db.ledger) (holds : db'.holds = db.holds ++ [hold])
      (purchases : db'.purchases = db.purchases)
  | capture (captured : CaptureChange db db')
  | release (hold : BatchHold) (f : BatchHold → BatchHold)
      (found : db.hold? hold.requestId = some hold) (active : hold.status = .active)
      (moves : MovesHold f .released) (ledger : db'.ledger = db.ledger)
      (holds : db'.holds = adjust BatchHold.requestId hold.requestId f db.holds)
      (purchases : db'.purchases = db.purchases)
  | reinstate (hold : BatchHold) (row : LeadRequest) (f : BatchHold → BatchHold)
      (found : db.hold? hold.requestId = some hold) (released : hold.status = .released)
      (request : db.request? hold.requestId = some row)
      (covered : hold.amountCents ≤ availableCents db row.customerId)
      (moves : MovesHold f .active) (ledger : db'.ledger = db.ledger)
      (holds : db'.holds = adjust BatchHold.requestId hold.requestId f db.holds)
      (purchases : db'.purchases = db.purchases)
  | start (purchase : CreditPurchase) (status : purchase.status = .processing)
      (fresh : db.purchaseForSession? purchase.stripeCheckoutSessionId = none)
      (ledger : db'.ledger = db.ledger) (holds : db'.holds = db.holds)
      (purchases : db'.purchases = db.purchases ++ [purchase])
  | credit (purchase : CreditPurchase) (entry : CreditLedgerEntry) (f : CreditPurchase → CreditPurchase)
      (found : db.purchaseForSession? purchase.stripeCheckoutSessionId = some purchase)
      (unsettled : purchase.status ≠ .completed) (moves : MovesPurchase f .completed)
      (request : entry.batchRequestId = none) (owner : entry.customerId = purchase.customerId)
      (kind : entry.kind = .purchase) (amount : entry.amountCents = purchase.amountCents)
      (ledger : db'.ledger = db.ledger ++ [entry]) (holds : db'.holds = db.holds)
      (purchases :
        db'.purchases = adjust CreditPurchase.stripeCheckoutSessionId purchase.stripeCheckoutSessionId
        f db.purchases)
  | close (purchase : CreditPurchase) (status : PurchaseStatus) (f : CreditPurchase → CreditPurchase)
      (found : db.purchaseForSession? purchase.stripeCheckoutSessionId = some purchase)
      (processing : purchase.status = .processing) (unpaid : status ≠ .completed)
      (moves : MovesPurchase f status) (ledger : db'.ledger = db.ledger)
      (holds : db'.holds = db.holds)
      (purchases :
        db'.purchases = adjust CreditPurchase.stripeCheckoutSessionId purchase.stripeCheckoutSessionId
        f db.purchases)

theorem insertLedgerEntry_ok {entry : CreditLedgerEntry}
    (done : insertLedgerEntry db entry = .ok db') : db' = { db with ledger := db.ledger ++ [entry] } := by
  unfold insertLedgerEntry at done
  split at done
  · cases done
  exact (ok.inj done).symm

theorem insertRequest_ok (done : insertRequest db request hold = .ok db') : db.request? request.id = none ∧
      db' = { db with requests := db.requests ++ [request], holds := db.holds ++ hold.toList } := by
  unfold insertRequest at done
  split at done
  case h_1 => cases done
  case h_2 => cases done
  case h_3 fresh _ => exact ⟨fresh, (ok.inj done).symm⟩

theorem prepareSubmission_ok {leadCount : Nat}
    (done : prepareSubmission db customerId leadCount expected = .ok billing) :
    billing = { isBilled := false } ∨
      ∃ rate amount, billing =
      { isBilled := true, leadRateCentsPerThousand := some rate, amountCents := some amount } ∧
        amount ≤ availableCents db customerId := by
  unfold prepareSubmission at done
  split at done
  · cases done
  case h_2 customer found =>
  have named : customer.id = customerId := (lookup_some found).2
  split at done
  · cases done
  split at done
  · exact .inl (ok.inj done).symm
  split at done
  · cases done
  case h_2 rate _ =>
  simp only at done
  obtain ⟨covered, done⟩ := guard_ok done
  rw [named] at covered
  exact .inr ⟨rate, _, (ok.inj done).symm, Int.not_lt.mp covered⟩

theorem placeBatchHold_ok {placed : LeadRequest}
    (done : placeBatchHold request billing holdId now = .ok (placed, hold)) :
    placed.id = request.id ∧ placed.customerId = request.customerId ∧
    (billing.isBilled = false ∧ hold = none ∨
    ∃ h, hold = some h ∧ billing.amountCents = some h.amountCents ∧
    h.requestId = request.id ∧ h.customerId = request.customerId ∧ h.status = .active ∧
    placed.billingAmountCents = some h.amountCents) := by
  unfold placeBatchHold at done
  split at done
  case isTrue billed =>
    split at done
    · cases done
    case h_2 amount priced =>
    split at done
    · cases done
      exact ⟨rfl, rfl, .inr ⟨_, rfl, priced, rfl, rfl, rfl, rfl⟩⟩
    · cases done
  case isFalse unbilled =>
  cases done
  exact ⟨rfl, rfl, .inl ⟨by simpa using unbilled, rfl⟩⟩

theorem billedSubmission_change (done : billedSubmission db request expected holdId now = .ok db') :
    WalletChange db db' ∧ RequestsKept db db' := by
  unfold billedSubmission at done
  split at done
  · cases done
  case h_2 billing prepared =>
  split at done
  · cases done
  case h_2 placed hold placement =>
  obtain ⟨fresh, rfl⟩ := insertRequest_ok done
  obtain ⟨sameId, sameCustomer, outcome⟩ := placeBatchHold_ok placement
  refine ⟨?_, fun id r found => ⟨r, ?_, rfl, rfl⟩⟩
  · rcases outcome with ⟨_, rfl⟩ | ⟨h, rfl, priced, named, owner, active, frozen⟩
    · exact .same rfl (append_nil _) rfl
    have covered : h.amountCents ≤ availableCents db request.customerId := by
      rcases prepareSubmission_ok prepared with unbilled | ⟨rate, amount, rfl, covered⟩
      · rw [unbilled] at priced
        cases priced
      · cases priced
        exact covered
    rw [sameId] at fresh
    have lands : lookup LeadRequest.id h.requestId (db.requests ++ [placed]) = some placed := by
      rw [Rows.lookup_append_fresh (sameId ▸ fresh), if_pos (by rw [sameId, named])]
    exact .place h placed (named ▸ fresh) lands (by rw [sameCustomer, owner]) frozen active
      (owner ▸ covered) rfl rfl rfl
  · exact Rows.lookup_append_some found placed

def captured (now : Instant) (h : BatchHold) : BatchHold :=
  { h with status := .captured, capturedAt := some now }

section
variable (done : captureBatchHold db request entryId now = .ok db')
include done

theorem captureBatchHold_cases :
    (db' = db ∧ (request.isBilled → ∃ hold, db.hold? request.id = some hold ∧
      hold.status = .captured)) ∨ ∃ hold, db.hold? request.id = some hold ∧ hold.status = .active ∧
        ((∃ entry, db.charge? request.id = some entry ∧ db' = db.setHold request.id (captured now))
        ∨ (db.charge? request.id = none ∧
            db' = { db.setHold request.id (captured now) with
              ledger := db.ledger ++ [batchCharge hold request entryId now] })) := by
  unfold captureBatchHold at done
  split at done
  case isTrue unbilled =>
    cases done
    exact .inl ⟨rfl, fun billed => by simp [unbilled] at billed⟩
  case isFalse =>
  split at done
  · cases done
  case h_2 hold found =>
  split at done
  case h_1 status =>
    cases done
    exact .inl ⟨rfl, fun _ => ⟨hold, found, status⟩⟩
  · cases done
  case h_3 active =>
  simp only at done
  split at done
  case h_1 entry charged =>
    cases done
    exact .inr ⟨hold, found, active, .inl ⟨entry, charged, rfl⟩⟩
  case h_2 uncharged =>
  split at done
  · cases done
  case h_2 inserted =>
  cases insertLedgerEntry_ok inserted
  cases done
  exact .inr ⟨hold, found, active, .inr ⟨uncharged, rfl⟩⟩

theorem captureBatchHold_change : CaptureChange db db' ∧ db'.requests = db.requests := by
  have moves : MovesHold (captured now) .captured := ⟨fun _ => rfl, fun _ => rfl, fun _ => rfl, fun _ => rfl⟩
  rcases captureBatchHold_cases done with ⟨rfl, _⟩ | ⟨hold, found, active, settled⟩
  · exact ⟨.same rfl rfl rfl, rfl⟩
  have named : hold.requestId = request.id := (lookup_some found).2
  rw [← named] at found settled
  rcases settled with ⟨entry, charged, rfl⟩ | ⟨uncharged, rfl⟩
  · exact ⟨.charged hold entry _ found active charged moves rfl rfl rfl, rfl⟩
  exact ⟨.charge hold (batchCharge hold request entryId now) _ found active uncharged moves
    (by rw [named]; rfl) rfl rfl rfl rfl rfl rfl, rfl⟩

end

theorem releaseBatchHold_change (db : Db) (request : LeadRequest) (now : Instant) :
    WalletChange db (releaseBatchHold db request now) ∧
    (releaseBatchHold db request now).requests = db.requests := by
  unfold releaseBatchHold
  split
  · exact ⟨.same rfl rfl rfl, rfl⟩
  split
  · exact ⟨.same rfl rfl rfl, rfl⟩
  case h_2 hold found =>
  have named : hold.requestId = request.id := (lookup_some found).2
  split
  case isTrue active =>
    exact ⟨.release hold (fun h => { h with status := .released, releasedAt := some now })
      (named ▸ found) active ⟨fun _ => rfl, fun _ => rfl, fun _ => rfl, fun _ => rfl⟩ rfl
      (by rw [named]; rfl) rfl, rfl⟩
  case isFalse => exact ⟨.same rfl rfl rfl, rfl⟩

theorem reinstateBatchHold_change (stored : db.request? request.id = some request)
    (done : reinstateBatchHold db request = .ok db') :
    WalletChange db db' ∧ db'.requests = db.requests := by
  unfold reinstateBatchHold at done
  split at done
  · cases done
    exact ⟨.same rfl rfl rfl, rfl⟩
  split at done
  · cases done
  case h_2 customer known =>
  have owner : customer.id = request.customerId := (lookup_some known).2
  split at done
  · cases done
  case h_2 hold found =>
  have named : hold.requestId = request.id := (lookup_some found).2
  split at done
  · cases done
  · cases done
    exact ⟨.same rfl rfl rfl, rfl⟩
  case h_3 released =>
  simp only at done
  obtain ⟨covered, done⟩ := guard_ok done
  cases done
  rw [owner] at covered
  exact ⟨.reinstate hold request (fun h => { h with status := .active, releasedAt := none })
    (named ▸ found) released (named ▸ stored) (Int.not_lt.mp covered)
    ⟨fun _ => rfl, fun _ => rfl, fun _ => rfl, fun _ => rfl⟩ rfl (by rw [named]; rfl) rfl, rfl⟩

theorem completeCreditPurchaseForSession_change {settledLate : Bool} {result : Db × Option CreditPurchase}
    (done : completeCreditPurchaseForSession db session settledLate entryId now = .ok result) :
    WalletChange db result.1 ∧ result.1.requests = db.requests := by
  unfold completeCreditPurchaseForSession at done
  split at done
  · cases done
    exact ⟨.same rfl rfl rfl, rfl⟩
  case h_2 purchase found =>
  have named : purchase.stripeCheckoutSessionId = session := (lookup_some found).2
  split at done
  · cases done
    exact ⟨.same rfl rfl rfl, rfl⟩
  case isFalse unsettled =>
  split at done
  · cases done
  split at done
  · cases done
  split at done
  · cases done
  case h_2 credited inserted =>
  cases insertLedgerEntry_ok inserted
  cases done
  exact ⟨.credit purchase (purchaseCredit purchase entryId now)
    (fun p => { p with ledgerEntryId := some entryId, status := .completed, completedAt := some now })
    (named ▸ found) unsettled ⟨fun _ => rfl, fun _ => rfl, fun _ => rfl, fun _ => rfl⟩
    rfl rfl rfl rfl rfl rfl (by rw [named]; rfl), rfl⟩

theorem closeCreditPurchaseForSession_change {status : PurchaseStatus}
    {result : Db × Option CreditPurchase}
    (done : closeCreditPurchaseForSession db session status = .ok result) :
    WalletChange db result.1 ∧ result.1.requests = db.requests := by
  obtain ⟨allowed, done⟩ := guard_ok done
  have unpaid : status ≠ .completed := by
    rintro rfl
    exact allowed ⟨by decide, by decide⟩
  split at done
  · cases done
    exact ⟨.same rfl rfl rfl, rfl⟩
  case h_2 purchase found =>
  have named : purchase.stripeCheckoutSessionId = session := (lookup_some found).2
  split at done
  case isTrue processing =>
    cases done
    exact ⟨.close purchase status (fun p => { p with status }) (named ▸ found) processing unpaid
      ⟨fun _ => rfl, fun _ => rfl, fun _ => rfl, fun _ => rfl⟩ rfl rfl (by rw [named]; rfl), rfl⟩
  case isFalse =>
  cases done
  exact ⟨.same rfl rfl rfl, rfl⟩

end Jawnix
