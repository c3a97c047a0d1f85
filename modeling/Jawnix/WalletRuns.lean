import Jawnix.Wallet

/-!
# Runs of wallet operations

One operation per billing service, each committed atomically under the Customer
row lock; a service that raises is rolled back. Operations of any Customers,
Batch Requests and purchases interleave freely.
-/
namespace Jawnix

inductive WalletOp where
  | submit (request : LeadRequest) (expected : Option Int) (holdId : Uuid) (now : Instant)
  | capture (requestId entryId : Uuid) (now : Instant)
  | release (requestId : Uuid) (now : Instant)
  | reinstate (requestId : Uuid)
  | startPurchase (customerId : Nat) (amountDollars : Int) (purchaseId : Uuid)
      (checkout : Except String CheckoutSession) (now : Instant)
  | completePurchase (session : String) (settledLate : Bool) (entryId : Uuid) (now : Instant)
  | closePurchase (session : String) (status : PurchaseStatus)
  | adjust (customerId : Nat) (amountCents : Int) (actorId reason : String) (entryId : Uuid) (now : Instant)
  | configure (customerId : Nat) (billingEnabled : Bool) (rate : Option Int) (reason : String)

def withRequest (db : Db) (id : Uuid) (service : LeadRequest → Except Fault Db) : Except Fault Db :=
  match db.request? id with
  | none => .error (.lookup "Request was not found.")
  | some request => service request

def walletExec (db : Db) : WalletOp → Except Fault Db
  | .submit request expected holdId now => billedSubmission db request expected holdId now
  | .capture id entryId now => withRequest db id fun request => captureBatchHold db request entryId now
  | .release id now => withRequest db id fun request => .ok (releaseBatchHold db request now)
  | .reinstate id => withRequest db id fun request => reinstateBatchHold db request
  | .startPurchase customerId amountDollars purchaseId checkout now =>
    match db.customer? customerId with
    | none => .error (.lookup "Customer was not found.")
    | some customer => startCreditPurchase db customer amountDollars purchaseId checkout now
  | .completePurchase session settledLate entryId now =>
    (completeCreditPurchaseForSession db session settledLate entryId now).map Prod.fst
  | .closePurchase session status => (closeCreditPurchaseForSession db session status).map Prod.fst
  | .adjust customerId amountCents actorId reason entryId now =>
    postAdminAdjustment db customerId amountCents actorId reason entryId now
  | .configure customerId billingEnabled rate reason =>
    configureCustomerBilling db customerId billingEnabled rate reason

def walletStep (db : Db) (op : WalletOp) : Db := commit db (walletExec db op)

/-- The amount an operation adjusts the Customer's wallet by, if it is accepted. -/
def adjustedBy (c : Nat) (db : Db) (op : WalletOp) : Int :=
  match op, walletExec db op with
  | .adjust customerId amountCents _ _ _ _, .ok _ => if customerId = c then amountCents else 0
  | _, _ => 0

def adjustmentsCents (c : Nat) : Db → List WalletOp → Int
  | _, [] => 0
  | db, op :: ops => adjustedBy c db op + adjustmentsCents c (walletStep db op) ops

variable {db : Db} {c : Nat}

theorem withRequest_ok {db' : Db} {id : Uuid} {service : LeadRequest → Except Fault Db}
    (done : withRequest db id service = .ok db') :
    ∃ request, db.request? request.id = some request ∧ service request = .ok db' := by
  unfold withRequest at done
  split at done
  · cases done
  case h_2 request found =>
  have named : request.id = id := (lookup_some found).2
  exact ⟨request, named ▸ found, done⟩

theorem walletExec_ok {db' : Db} {op : WalletOp} (done : walletExec db op = .ok db') :
    (∃ customerId amount actor reason entryId now, op = .adjust customerId amount actor reason entryId now ∧
      ∃ entry : CreditLedgerEntry, db' = { db with ledger := db.ledger ++ [entry] } ∧
        entry.customerId = customerId ∧ entry.amountCents = amount ∧ entry.batchRequestId = none) ∨
    ((∀ c, adjustedBy c db op = 0) ∧ WalletChange db db' ∧ RequestsKept db db') := by
  cases op with
  | submit request expected holdId now => exact .inr ⟨fun _ => rfl, billedSubmission_change done⟩
  | capture id entryId now =>
    obtain ⟨request, _, served⟩ := withRequest_ok done
    obtain ⟨captured, same⟩ := captureBatchHold_change served
    exact .inr ⟨fun _ => rfl, .capture captured, .of_eq same⟩
  | release id now =>
    obtain ⟨request, _, served⟩ := withRequest_ok done
    cases served
    obtain ⟨change, same⟩ := releaseBatchHold_change db request now
    exact .inr ⟨fun _ => rfl, change, .of_eq same⟩
  | reinstate id =>
    obtain ⟨request, stored, served⟩ := withRequest_ok done
    obtain ⟨change, same⟩ := reinstateBatchHold_change stored served
    exact .inr ⟨fun _ => rfl, change, .of_eq same⟩
  | startPurchase customerId amountDollars purchaseId checkout now =>
    simp only [walletExec] at done
    split at done
    · cases done
    unfold startCreditPurchase at done
    split at done
    · cases done
    split at done
    · cases done
    split at done
    · cases done
    unfold insertPurchase at done
    split at done
    case h_1 _ fresh =>
      cases done
      exact .inr ⟨fun _ => rfl, .start _ rfl fresh rfl rfl rfl, .of_eq rfl⟩
    · cases done
    · cases done
  | completePurchase session settledLate entryId now =>
    obtain ⟨result, served⟩ := map_fst_ok done
    obtain ⟨change, same⟩ := completeCreditPurchaseForSession_change served
    exact .inr ⟨fun _ => rfl, change, .of_eq same⟩
  | closePurchase session status =>
    obtain ⟨result, served⟩ := map_fst_ok done
    obtain ⟨change, same⟩ := closeCreditPurchaseForSession_change served
    exact .inr ⟨fun _ => rfl, change, .of_eq same⟩
  | adjust customerId amount actor reason entryId now =>
    change postAdminAdjustment db customerId amount actor reason entryId now = _ at done
    unfold postAdminAdjustment at done
    split at done
    · cases done
    case h_2 customer known =>
    split at done
    · cases done
    split at done
    · cases done
    split at done
    · cases done
    exact .inl ⟨customerId, amount, actor, reason, entryId, now, rfl, _, insertLedgerEntry_ok done,
      (lookup_some known).2, rfl, rfl⟩
  | configure customerId billingEnabled rate reason =>
  change configureCustomerBilling db customerId billingEnabled rate reason = _ at done
  unfold configureCustomerBilling at done
  split at done
  · cases done
  split at done
  · cases done
  split at done
  · cases done
  split at done
  · cases done
  split at done
  · cases done
  split at done
  · cases done
    exact .inr ⟨fun _ => rfl, .same rfl rfl rfl, .of_eq rfl⟩
  · cases done

theorem walletSound_adjusted {entry : CreditLedgerEntry} (sound : WalletSound db c)
    (request : entry.batchRequestId = none) :
    WalletSound { db with ledger := db.ledger ++ [entry] } c := by
  have schema : WalletSchema { db with ledger := db.ledger ++ [entry] } := by
    refine { sound.toWalletSchema with chargesKnown := fun e member id named => ?_ }
    rcases mem_append.mp member with old | new
    · exact sound.chargesKnown e old id named
    rw [mem_singleton.mp new, request] at named
    cases named
  refine sound.keepsHolds schema (.refl db) rfl fun id => ?_
  rw [chargesFor_append db _ entry id rfl, request, if_neg (by simp), append_nil]

theorem walletStep_sound (db : Db) (op : WalletOp) (sound : WalletSound db c) :
    WalletSound (walletStep db op) c := by
  refine commit_cases (P := fun after => WalletSound after c) sound fun db' done => ?_
  rcases walletExec_ok done with ⟨_, _, _, _, _, _, _, entry, rfl, _, _, request⟩ | ⟨_, change, kept⟩
  · exact walletSound_adjusted sound request
  · exact change.sound kept sound

theorem walletStep_unexplained (db : Db) (op : WalletOp) (sound : WalletSound db c) :
    unexplainedCents (walletStep db op) c = unexplainedCents db c + adjustedBy c db op := by
  unfold walletStep
  cases outcome : walletExec db op with
  | error fault => cases op <;> simp [commit, adjustedBy, outcome]
  | ok db' =>
  rcases walletExec_ok outcome with
    ⟨customerId, amount, _, _, _, _, rfl, entry, rfl, owner, size, _⟩ | ⟨nothing, change, _⟩
  · simp only [commit, unexplainedCents, adjustedBy, outcome]
    rw [balanceCents_append c rfl, owner, size]
    simp only [completedPurchasesCents, holdsCents]
    omega
  · rw [nothing c, add_zero]
    exact change.unexplained sound

theorem walletRun_unexplained (ops : List WalletOp) (sound : WalletSound db c) :
    unexplainedCents (run walletStep db ops) c = unexplainedCents db c + adjustmentsCents c db ops := by
  induction ops generalizing db with
  | nil => simp [adjustmentsCents]
  | cons op ops ih =>
    rw [Runs.run_cons, ih (walletStep_sound db op sound), walletStep_unexplained db op sound,
      adjustmentsCents]
    omega

theorem unexplainedCents_empty (empty : EmptyWallet db c) : unexplainedCents db c = 0 := by
  have ledger : balanceCents db c = 0 := Rows.sumWhere_eq_zero fun e member =>
    by simp [empty.ledger e member]
  have purchases : completedPurchasesCents db c = 0 :=
    Rows.sumWhere_eq_zero fun p member => by simp [empty.purchases p member]
  have holds : holdsCents db c .captured = 0 :=
    Rows.sumWhere_eq_zero fun h member => by simp [empty.holds h member]
  simp only [unexplainedCents, ledger, purchases, holds, sub_zero, add_zero]

theorem walletStep_overdraws {op : WalletOp} (sound : WalletSound db c)
    (solvent : 0 ≤ availableCents db c) (overdrawn : availableCents (walletStep db op) c < 0) :
    ∃ amount actor reason entryId now, op = .adjust c amount actor reason entryId now ∧ amount < 0 := by
  unfold walletStep at overdrawn
  cases outcome : walletExec db op with
  | error fault =>
    rw [outcome] at overdrawn
    exact absurd solvent (Int.not_le.mpr overdrawn)
  | ok db' =>
  rw [outcome] at overdrawn
  rcases walletExec_ok outcome with
    ⟨customerId, amount, actor, reason, entryId, now, rfl, entry, rfl, owner, size, _⟩ | ⟨_, change, _⟩
  · have moved : balanceCents { db with ledger := db.ledger ++ [entry] } c = _ := balanceCents_append c rfl
    simp only [commit, availableCents, activeHoldsCents] at overdrawn solvent
    rw [moved, owner, size] at overdrawn
    by_cases owned : customerId = c
    · subst owned
      simp only [if_true] at overdrawn
      exact ⟨amount, actor, reason, entryId, now, rfl, by omega⟩
    · simp only [owned, if_false] at overdrawn
      omega
  · have kept := change.available_nonneg sound solvent
    exact absurd kept (Int.not_le.mpr overdrawn)

/-- The Credit Wallet contract, for one Customer whose wallet starts empty and
every run of wallet operations. -/
theorem wallet_run_accounts {db : Db} {c : Nat} (schema : WalletSchema db)
    (empty : EmptyWallet db c) (ops : List WalletOp) :
    let after := run walletStep db ops
    balanceCents after c = completedPurchasesCents after c +
    adjustmentsCents c db ops - holdsCents after c .captured ∧
    (∀ h ∈ after.holds, h.customerId = c → h.status = .captured →
      (∃ request, after.request? h.requestId = some request ∧
        request.billingAmountCents = some h.amountCents) ∧
      ∃ entry, after.ledger.filter (fun e => decide (e.batchRequestId = some h.requestId)) = [entry] ∧
        entry.kind = .batchCharge ∧ entry.customerId = c ∧ entry.amountCents = -h.amountCents) ∧
    (∀ requestId entryId now, availableCents (walletStep after (.capture requestId entryId now)) c =
      availableCents after c) ∧
    (∀ op, 0 ≤ availableCents after c → availableCents (walletStep after op) c < 0 →
      ∃ amount actor reason entryId now, op = .adjust c amount actor reason entryId now ∧ amount < 0) := by
  intro after
  have start := walletSound_of_empty schema empty
  have sound : WalletSound after c := run_invariant walletStep_sound start ops
  refine ⟨?_, ?_, fun requestId entryId now => ?_, fun op solvent overdrawn =>
    walletStep_overdraws sound solvent overdrawn⟩
  rotate_right
  · refine commit_cases (P := fun left => availableCents left c = availableCents after c) rfl
      fun db' done => ?_
    obtain ⟨request, _, served⟩ := withRequest_ok done
    exact ((captureBatchHold_change served).1.totals sound).1
  · have explained : unexplainedCents after c = _ := walletRun_unexplained ops start
    rw [unexplainedCents_empty empty] at explained
    simp only [unexplainedCents] at explained
    omega
  intro h member owned captured
  obtain ⟨request, found⟩ := sound.holdsKnown h member
  have matched := sound.charged h member owned
  simp only [ChargeMatches, captured, if_true, owned] at matched
  exact ⟨⟨request, found, (sound.frozen h member owned request found).2⟩, matched⟩

def billedCustomerDb : Db := { customers := [billedCustomer] }

def topUpThenCapture : List WalletOp :=
  [.startPurchase 1 20 7 (.ok ⟨"cs_1", "https"⟩) 10, .completePurchase "cs_1" false 8 11,
   .submit { id := 3, userId := 4, customerId := 1, leadCount := 500, rowsPerFile := 500,
             statesSnapshot := ["TX"], createdAt := 12 } (some 1000) 9 12,
   .capture 3 10 13,
   .adjust 1 (-500) "admin" "Correction" 11 14]

theorem wallet_run_accounts_topUpThenCapture :
    let after := run walletStep billedCustomerDb topUpThenCapture
    WalletSchema billedCustomerDb ∧ EmptyWallet billedCustomerDb 1 ∧
      holdsCents after 1 .captured = 500 ∧ balanceCents after 1 = 2000 + -500 - 500 := by
  intro after
  have schema : WalletSchema billedCustomerDb :=
    ⟨by decide, by decide, by simp [billedCustomerDb], by simp [billedCustomerDb]⟩
  have empty : EmptyWallet billedCustomerDb 1 :=
    ⟨by simp [billedCustomerDb], by simp [billedCustomerDb], by simp [billedCustomerDb]⟩
  have captured : holdsCents after 1 .captured = 500 := by decide +kernel
  have purchased : completedPurchasesCents after 1 = 2000 := by decide +kernel
  have adjusted : adjustmentsCents 1 billedCustomerDb topUpThenCapture = -500 := by decide +kernel
  have accounts := (wallet_run_accounts schema empty topUpThenCapture).1
  rw [captured, purchased, adjusted] at accounts
  exact ⟨schema, empty, captured, accounts⟩

variable {db db' : Db}

theorem WalletChange.ledger_grows (change : WalletChange db db') :
    ∃ new, db'.ledger = db.ledger ++ new ∧ new.length ≤ 1 := by
  rcases change with _ | _ | (_ | _ | _) | _ | _ | _ | _ | _
  all_goals first
    | exact ⟨[_], ‹_›, Nat.le_refl _⟩
    | exact ⟨[], by simpa, Nat.zero_le _⟩

theorem walletStep_grows (db : Db) (op : WalletOp) :
    ∃ new, (walletStep db op).ledger = db.ledger ++ new ∧ new.length ≤ 1 := by
  refine commit_cases (P := fun d : Db => ∃ new, d.ledger = db.ledger ++ new ∧ new.length ≤ 1)
    ⟨[], by simp⟩ fun after done => ?_
  rcases walletExec_ok done with ⟨_, _, _, _, _, _, _, entry, rfl, _⟩ | ⟨_, change, _⟩
  · exact ⟨[entry], rfl, Nat.le_refl _⟩
  · exact change.ledger_grows

/-- The ledger is append-only: no service changes or removes an entry, and no call adds more than
one. -/
theorem ledger_append_only (db : Db) (ops : List WalletOp) :
    ∃ new, (run walletStep db ops).ledger = db.ledger ++ new ∧ new.length ≤ ops.length := by
  induction ops generalizing db with
  | nil => exact ⟨[], by simp⟩
  | cons op rest ih =>
    obtain ⟨first, grown, one⟩ := walletStep_grows db op
    obtain ⟨later, grows, count⟩ := ih (walletStep db op)
    refine ⟨first ++ later, by simp [grows, grown], ?_⟩
    simp only [List.length_append, List.length_cons]
    omega

end Jawnix
