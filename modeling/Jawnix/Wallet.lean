import Jawnix.WalletChange

/-!
# The Credit Wallet over whole runs

The wallet of one Customer under arbitrary interleavings of the billing
services. The settled balance is explained by completed purchases, accepted
adjustments and captured holds; a hold and its charge move together.
-/
namespace Jawnix

variable (db : Db) (customerId : Nat)

def holdsCents (status : HoldStatus) : Int :=
  sumWhere (fun h => decide (h.customerId = customerId ∧ h.status = status)) BatchHold.amountCents db.holds

def completedPurchasesCents : Int :=
  sumWhere (fun p => decide (p.customerId = customerId ∧ p.status = .completed))
    CreditPurchase.amountCents db.purchases

def chargesFor (requestId : Uuid) : List CreditLedgerEntry :=
  db.ledger.filter fun e => e.batchRequestId = some requestId

/-- A captured hold has its one charge; any other hold has none. -/
def ChargeMatches (hold : BatchHold) : Prop :=
  if hold.status = .captured then
    ∃ entry, chargesFor db hold.requestId = [entry] ∧ entry.kind = .batchCharge ∧
      entry.customerId = hold.customerId ∧ entry.amountCents = -hold.amountCents
  else chargesFor db hold.requestId = []

structure WalletSchema : Prop where
  holdsKeyed : Keyed BatchHold.requestId db.holds
  purchasesKeyed : Keyed CreditPurchase.stripeCheckoutSessionId db.purchases
  holdsKnown : ∀ h ∈ db.holds, ∃ r, db.request? h.requestId = some r
  chargesKnown : ∀ e ∈ db.ledger, ∀ id ∈ e.batchRequestId, ∃ r, db.request? id = some r

structure EmptyWallet : Prop where
  ledger : ∀ e ∈ db.ledger, e.customerId ≠ customerId
  holds : ∀ h ∈ db.holds, h.customerId ≠ customerId
  purchases : ∀ p ∈ db.purchases, p.customerId ≠ customerId

structure WalletSound : Prop extends WalletSchema db where
  frozen : ∀ h ∈ db.holds, h.customerId = customerId → ∀ r, db.request? h.requestId = some r →
    r.customerId = customerId ∧ r.billingAmountCents = some h.amountCents
  charged : ∀ h ∈ db.holds, h.customerId = customerId → ChargeMatches db h

variable {hold : BatchHold} {db db' : Db} {c : Nat} {id : Uuid} {purchase : CreditPurchase}
  {h : BatchHold}

theorem walletSound_of_empty (schema : WalletSchema db) (empty : EmptyWallet db c) : WalletSound db c :=
  { schema with
    frozen := fun h member owned => False.elim (empty.holds h member owned)
    charged := fun h member owned => False.elim (empty.holds h member owned) }

/-! ## Charges and totals under one change -/

theorem chargesFor_append (db db' : Db) (entry : CreditLedgerEntry) (id : Uuid)
    (ledger : db'.ledger = db.ledger ++ [entry]) :
    chargesFor db' id = chargesFor db id ++ if entry.batchRequestId = some id then [entry] else [] := by
  simp only [chargesFor, ledger, filter_append, List.filter_cons, List.filter_nil, decide_eq_true_eq]

theorem chargesFor_congr (ledger : db'.ledger = db.ledger) (id : Uuid) :
    chargesFor db' id = chargesFor db id := by
  simp only [chargesFor, ledger]

theorem chargesFor_eq_nil : chargesFor db id = [] ↔ db.charge? id = none := by
  simp [chargesFor, Db.charge?, lookup_none, filter_eq_nil_iff]

theorem WalletSchema.chargesFor_fresh (schema : WalletSchema db) (fresh : db.request? id = none) :
    chargesFor db id = [] := by
  rw [chargesFor_eq_nil]
  refine lookup_none.mpr fun e member named => ?_
  obtain ⟨r, found⟩ := schema.chargesKnown e member id named
  rw [fresh] at found
  cases found

theorem WalletSchema.hold_fresh (schema : WalletSchema db) (fresh : db.request? id = none) :
    ∀ h ∈ db.holds, h.requestId ≠ id := by
  rintro h member rfl
  obtain ⟨r, found⟩ := schema.holdsKnown h member
  rw [fresh] at found
  cases found

theorem ChargeMatches.congr (same : chargesFor db' hold.requestId = chargesFor db hold.requestId)
    (matched : ChargeMatches db hold) : ChargeMatches db' hold := by
  simpa only [ChargeMatches, same] using matched

theorem balanceCents_append {entry : CreditLedgerEntry} (c : Nat)
    (ledger : db'.ledger = db.ledger ++ [entry]) :
    balanceCents db' c = balanceCents db c + if entry.customerId = c then entry.amountCents else 0 := by
  simp only [balanceCents, ledger, Rows.sumWhere_append_one, share, decide_eq_true_eq]

theorem holdsCents_move {f : BatchHold → BatchHold} {status : HoldStatus}
    (schema : WalletSchema db) (found : db.hold? hold.requestId = some hold) (moves : MovesHold f status)
    (holds : db'.holds = adjust BatchHold.requestId hold.requestId f db.holds) (c : Nat)
    (s : HoldStatus) :
    holdsCents db' c s = holdsCents db c s
    - (if hold.customerId = c ∧ hold.status = s then hold.amountCents else 0)
    + (if hold.customerId = c ∧ status = s then hold.amountCents else 0) := by
  simp only [holdsCents, holds]
  rw [Rows.sumWhere_adjust schema.holdsKeyed found]
  simp only [share, decide_eq_true_eq, moves.customer, moves.status, moves.amount]

theorem completedPurchasesCents_move {f : CreditPurchase → CreditPurchase} {status : PurchaseStatus}
    (schema : WalletSchema db)
    (found : db.purchaseForSession? purchase.stripeCheckoutSessionId = some purchase)
    (moves : MovesPurchase f status)
    (purchases :
      db'.purchases = adjust CreditPurchase.stripeCheckoutSessionId purchase.stripeCheckoutSessionId f
      db.purchases)
    (c : Nat) :
    completedPurchasesCents db' c = completedPurchasesCents db c
    - (if purchase.customerId = c ∧ purchase.status = .completed then purchase.amountCents else 0)
    + (if purchase.customerId = c ∧ status = .completed then purchase.amountCents else 0) := by
  simp only [completedPurchasesCents, purchases]
  rw [Rows.sumWhere_adjust schema.purchasesKeyed found]
  simp only [share, decide_eq_true_eq, moves.customer, moves.status, moves.amount]

theorem holdsCents_congr (holds : db'.holds = db.holds) (c : Nat) (s : HoldStatus) :
    holdsCents db' c s = holdsCents db c s := by
  simp only [holdsCents, holds]

theorem completedPurchasesCents_congr (purchases : db'.purchases = db.purchases) (c : Nat) :
    completedPurchasesCents db' c = completedPurchasesCents db c := by
  simp only [completedPurchasesCents, purchases]

theorem balanceCents_congr (ledger : db'.ledger = db.ledger) (c : Nat) :
    balanceCents db' c = balanceCents db c := by
  simp only [balanceCents, ledger]

theorem activeHoldsCents_eq (db : Db) (c : Nat) : activeHoldsCents db c = holdsCents db c .active := rfl

theorem holdsCents_append (holds : db'.holds = db.holds ++ [hold]) (c : Nat) (s : HoldStatus) :
    holdsCents db' c s = holdsCents db c s +
    if hold.customerId = c ∧ hold.status = s then hold.amountCents else 0 := by
  simp only [holdsCents, holds, Rows.sumWhere_append_one, share, decide_eq_true_eq]

/-! ## The invariant under one change -/

theorem RequestsKept.known (kept : RequestsKept db db') (known : ∃ r, db.request? id = some r) :
    ∃ r, db'.request? id = some r := by
  obtain ⟨r, found⟩ := known
  obtain ⟨r', found', _⟩ := kept id r found
  exact ⟨r', found'⟩

section
variable (schema : WalletSchema db)
include schema

theorem mem_moved {f : BatchHold → BatchHold} (found : db.hold? hold.requestId = some hold)
    (member : h ∈ adjust BatchHold.requestId hold.requestId f db.holds) :
    h = f hold ∨ (h ∈ db.holds ∧ h.requestId ≠ hold.requestId) :=
  (Rows.mem_adjust_of_lookup schema.holdsKeyed found).mp member

section
variable (kept : RequestsKept db db')
include kept

theorem WalletSchema.keepsRows (ledger : db'.ledger = db.ledger) (holds : db'.holds = db.holds)
    (purchases : db'.purchases = db.purchases) : WalletSchema db' where
  holdsKeyed := holds ▸ schema.holdsKeyed
  purchasesKeyed := purchases ▸ schema.purchasesKeyed
  holdsKnown h member := kept.known (schema.holdsKnown h (holds ▸ member))
  chargesKnown e member id named := kept.known (schema.chargesKnown e (ledger ▸ member) id named)

theorem WalletSchema.movesHold {f : BatchHold → BatchHold} {status : HoldStatus}
    (found : db.hold? hold.requestId = some hold) (moves : MovesHold f status)
    (holds : db'.holds = adjust BatchHold.requestId hold.requestId f db.holds)
    (purchases : db'.purchases = db.purchases)
    (entries : ∀ e ∈ db'.ledger, e ∈ db.ledger ∨ e.batchRequestId = some hold.requestId) :
    WalletSchema db' := by
  have stored : hold ∈ db.holds := (lookup_some found).1
  refine ⟨?_, purchases ▸ schema.purchasesKeyed, ?_, ?_⟩
  · rw [holds]
    exact keyed_adjust (fun h _ => moves.request h) schema.holdsKeyed
  · intro h member
    rw [holds] at member
    rcases mem_moved schema found member with rfl | ⟨old, _⟩
    · rw [moves.request]
      exact kept.known (schema.holdsKnown hold stored)
    · exact kept.known (schema.holdsKnown h old)
  intro e member id named
  rcases entries e member with old | charge
  · exact kept.known (schema.chargesKnown e old id named)
  rw [charge] at named
  cases named
  exact kept.known (schema.holdsKnown hold stored)

theorem WalletSchema.movesPurchase {f : CreditPurchase → CreditPurchase} {status : PurchaseStatus}
    (moves : MovesPurchase f status) (holds : db'.holds = db.holds)
    (purchases :
      db'.purchases = adjust CreditPurchase.stripeCheckoutSessionId purchase.stripeCheckoutSessionId f
      db.purchases)
    (entries : ∀ e ∈ db'.ledger, e ∈ db.ledger ∨ e.batchRequestId = none) : WalletSchema db' := by
  refine ⟨holds ▸ schema.holdsKeyed, ?_, fun h member =>
    kept.known (schema.holdsKnown h (holds ▸ member)), ?_⟩
  · rw [purchases]
    exact keyed_adjust (fun p _ => moves.session p) schema.purchasesKeyed
  intro e member id named
  rcases entries e member with old | credit
  · exact kept.known (schema.chargesKnown e old id named)
  rw [credit] at named
  cases named

end

end

theorem WalletChange.schema (change : WalletChange db db') (kept : RequestsKept db db')
    (schema : WalletSchema db) : WalletSchema db' := by
  cases change with
  | same ledger holds purchases => exact schema.keepsRows kept ledger holds purchases
  | place hold row fresh placed _ _ _ _ ledger holds purchases =>
    refine ⟨?_, purchases ▸ schema.purchasesKeyed, ?_, ?_⟩
    · rw [holds]
      exact keyed_append.mpr ⟨schema.holdsKeyed, schema.hold_fresh fresh⟩
    · intro h member
      rw [holds] at member
      rcases mem_append.mp member with old | new
      · exact kept.known (schema.holdsKnown h old)
      rw [mem_singleton.mp new]
      exact ⟨row, placed⟩
    · intro e member id named
      exact kept.known (schema.chargesKnown e (ledger ▸ member) id named)
  | capture captured =>
    cases captured with
    | same ledger holds purchases => exact schema.keepsRows kept ledger holds purchases
    | charge hold entry f found _ _ moves request _ _ _ ledger holds purchases =>
      refine schema.movesHold kept found moves holds purchases fun e member => ?_
      rw [ledger] at member
      rcases mem_append.mp member with old | new
      · exact .inl old
      rw [mem_singleton.mp new]
      exact .inr request
    | charged hold entry f found _ _ moves ledger holds purchases =>
      exact schema.movesHold kept found moves holds purchases fun e member => .inl (ledger ▸ member)
  | release hold f found _ moves ledger holds purchases =>
    exact schema.movesHold kept found moves holds purchases fun e member => .inl (ledger ▸ member)
  | reinstate hold row f found _ _ _ moves ledger holds purchases =>
    exact schema.movesHold kept found moves holds purchases fun e member => .inl (ledger ▸ member)
  | start purchase _ fresh ledger holds purchases =>
    refine ⟨holds ▸ schema.holdsKeyed, ?_, fun h member => kept.known (schema.holdsKnown h (holds ▸ member)),
      fun e member id named => kept.known (schema.chargesKnown e (ledger ▸ member) id named)⟩
    rw [purchases]
    exact keyed_append.mpr ⟨schema.purchasesKeyed, lookup_none.mp fresh⟩
  | credit purchase entry f _ _ moves request _ _ _ ledger holds purchases =>
    refine schema.movesPurchase kept moves holds purchases fun e member => ?_
    rw [ledger] at member
    rcases mem_append.mp member with old | new
    · exact .inl old
    rw [mem_singleton.mp new]
    exact .inr request
  | close purchase status f _ _ _ moves ledger holds purchases =>
    exact schema.movesPurchase kept moves holds purchases fun e member => .inl (ledger ▸ member)

section
variable (sound : WalletSound db c)
include sound

theorem WalletSound.frozen_kept (kept : RequestsKept db db') (member : h ∈ db.holds)
    (owned : h.customerId = c) {r : LeadRequest} (found : db'.request? h.requestId = some r) :
    r.customerId = c ∧ r.billingAmountCents = some h.amountCents := by
  obtain ⟨before, stored⟩ := sound.holdsKnown h member
  obtain ⟨after, found', customer, amount⟩ := kept _ _ stored
  rw [found] at found'
  cases found'
  rw [customer, amount]
  exact sound.frozen h member owned before stored

/-- Shared step of every status move of a hold: what remains is the charge of the moved hold. -/
theorem WalletSound.movesHold {f : BatchHold → BatchHold} {status : HoldStatus}
    (schema : WalletSchema db') (kept : RequestsKept db db')
    (found : db.hold? hold.requestId = some hold) (moves : MovesHold f status)
    (holds : db'.holds = adjust BatchHold.requestId hold.requestId f db.holds)
    (others : ∀ id, id ≠ hold.requestId → chargesFor db' id = chargesFor db id)
    (moved : hold.customerId = c → ChargeMatches db' (f hold)) : WalletSound db' c := by
  have stored : hold ∈ db.holds := (lookup_some found).1
  refine { schema with frozen := ?_, charged := ?_ }
  · intro h member owned r named
    rw [holds] at member
    rcases mem_moved sound.toWalletSchema found member with rfl | ⟨old, _⟩
    · rw [moves.request] at named
      rw [moves.customer] at owned
      rw [moves.amount]
      exact sound.frozen_kept kept stored owned named
    · exact sound.frozen_kept kept old owned named
  intro h member owned
  rw [holds] at member
  rcases mem_moved sound.toWalletSchema found member with rfl | ⟨old, other⟩
  · exact moved (by rw [← owned, moves.customer])
  · exact (sound.charged h old owned).congr (others _ other)

/-- A change that leaves the holds alone and adds no charge keeps every hold's charge. -/
theorem WalletSound.keepsHolds (schema : WalletSchema db') (kept : RequestsKept db db')
    (holds : db'.holds = db.holds) (charges : ∀ id, chargesFor db' id = chargesFor db id) :
    WalletSound db' c :=
  { schema with
    frozen := fun _ member owned _ named => sound.frozen_kept kept (holds ▸ member) owned named
    charged := fun h member owned => (sound.charged h (holds ▸ member) owned).congr (charges _) }

theorem WalletSound.uncharged (found : db.hold? hold.requestId = some hold) (owned : hold.customerId = c)
    (pending : hold.status ≠ .captured) : chargesFor db hold.requestId = [] := by
  have matched := sound.charged hold (lookup_some found).1 owned
  simpa only [ChargeMatches, if_neg pending] using matched

end

theorem WalletChange.sound (change : WalletChange db db')
    (kept : RequestsKept db db') (sound : WalletSound db c) : WalletSound db' c := by
  have schema := change.schema kept sound.toWalletSchema
  cases change with
  | same ledger holds purchases => exact sound.keepsHolds schema kept holds (chargesFor_congr ledger)
  | place hold row fresh placed owner frozen active _ ledger holds _ =>
    refine { schema with frozen := ?_, charged := ?_ }
    · intro h member owned r named
      rw [holds] at member
      rcases mem_append.mp member with old | new
      · exact sound.frozen_kept kept old owned named
      cases mem_singleton.mp new
      rw [placed] at named
      cases named
      exact ⟨owner.trans owned, frozen⟩
    intro h member owned
    rw [holds] at member
    rcases mem_append.mp member with old | new
    · exact (sound.charged h old owned).congr (chargesFor_congr ledger _)
    cases mem_singleton.mp new
    have none : chargesFor db' hold.requestId = [] := by
      rw [chargesFor_congr ledger, sound.chargesFor_fresh fresh]
    simpa only [ChargeMatches, active, reduceCtorEq, if_false] using none
  | capture captured =>
    cases captured with
    | same ledger holds purchases => exact sound.keepsHolds schema kept holds (chargesFor_congr ledger)
    | charge hold entry f found active uncharged moves request owner kind amount ledger holds _ =>
      refine sound.movesHold schema kept found moves holds (fun id other => ?_) fun _ => ?_
      · rw [chargesFor_append db db' entry id ledger, request, if_neg (by simpa using other.symm),
          append_nil]
      have charge : chargesFor db' hold.requestId = [entry] := by
        rw [chargesFor_append db db' entry _ ledger, chargesFor_eq_nil.mpr uncharged,
          if_pos request, List.nil_append]
      simp only [ChargeMatches, moves.status, if_true, moves.request, moves.customer, moves.amount]
      exact ⟨entry, charge, kind, owner, amount⟩
    | charged hold entry f found active charged moves ledger holds _ =>
    refine sound.movesHold schema kept found moves holds (fun id _ => chargesFor_congr ledger id)
      fun owned => ?_
    -- an active hold of this Customer has no charge yet
    have none := chargesFor_eq_nil.mp (sound.uncharged found owned (by rw [active]; decide))
    rw [charged] at none
    cases none
  | release hold f found active moves ledger holds _ =>
    refine sound.movesHold schema kept found moves holds (fun id _ => chargesFor_congr ledger id)
      fun owned => ?_
    have none := sound.uncharged found owned (by rw [active]; decide)
    simpa only [ChargeMatches, moves.status, moves.request, reduceCtorEq, if_false,
      chargesFor_congr ledger] using none
  | reinstate hold row f found released _ _ moves ledger holds _ =>
    refine sound.movesHold schema kept found moves holds (fun id _ => chargesFor_congr ledger id)
      fun owned => ?_
    have none := sound.uncharged found owned (by rw [released]; decide)
    simpa only [ChargeMatches, moves.status, moves.request, reduceCtorEq, if_false,
      chargesFor_congr ledger] using none
  | start purchase _ _ ledger holds _ => exact sound.keepsHolds schema kept holds (chargesFor_congr ledger)
  | credit purchase entry f _ _ _ request _ _ _ ledger holds _ =>
    refine sound.keepsHolds schema kept holds fun id => ?_
    rw [chargesFor_append db db' entry id ledger, request, if_neg (by simp), append_nil]
  | close purchase status f _ _ _ _ ledger holds _ =>
    exact sound.keepsHolds schema kept holds (chargesFor_congr ledger)

/-! ## Totals under one change -/

/-- The part of the settled balance that no purchase and no captured hold accounts for. -/
def unexplainedCents (db : Db) (c : Nat) : Int :=
  balanceCents db c - completedPurchasesCents db c + holdsCents db c .captured

theorem CaptureChange.totals (captured : CaptureChange db db') (sound : WalletSound db c) :
    availableCents db' c = availableCents db c ∧ unexplainedCents db' c = unexplainedCents db c := by
  cases captured with
  | same ledger holds purchases =>
    simp only [availableCents, unexplainedCents, activeHoldsCents_eq, balanceCents_congr ledger,
      holdsCents_congr holds, completedPurchasesCents_congr purchases, and_self]
  | charge hold entry f found active _ moves _ owner _ amount ledger holds purchases =>
    have move := holdsCents_move sound.toWalletSchema found moves holds c
    have paid := balanceCents_append c ledger
    rw [owner, amount] at paid
    simp only [availableCents, unexplainedCents, activeHoldsCents_eq, move, paid, active,
      completedPurchasesCents_congr purchases, reduceCtorEq, and_false, and_true, if_false]
    by_cases owned : hold.customerId = c
    · simp only [owned, if_true]
      omega
    · simp only [owned, if_false]
      omega
  | charged hold entry f found active charged moves ledger holds purchases =>
  have move := holdsCents_move sound.toWalletSchema found moves holds c
  have other : hold.customerId ≠ c := by
    intro owned
    have none := chargesFor_eq_nil.mp (sound.uncharged found owned (by rw [active]; decide))
    rw [charged] at none
    cases none
  simp only [availableCents, unexplainedCents, activeHoldsCents_eq, move, balanceCents_congr ledger,
    completedPurchasesCents_congr purchases, other, false_and, if_false]
  omega

theorem WalletChange.unexplained (change : WalletChange db db')
    (sound : WalletSound db c) : unexplainedCents db' c = unexplainedCents db c := by
  cases change with
  | same ledger holds purchases =>
    simp only [unexplainedCents, balanceCents_congr ledger, holdsCents_congr holds,
      completedPurchasesCents_congr purchases]
  | place hold row _ _ _ _ active _ ledger holds purchases =>
    simp only [unexplainedCents, balanceCents_congr ledger, holdsCents_append holds, active,
      reduceCtorEq, and_false, if_false, completedPurchasesCents_congr purchases, add_zero]
  | capture captured => exact (captured.totals sound).2
  | release hold f found active moves ledger holds purchases =>
    simp only [unexplainedCents, balanceCents_congr ledger, completedPurchasesCents_congr purchases,
      holdsCents_move sound.toWalletSchema found moves holds, active, reduceCtorEq, and_false, if_false]
    omega
  | reinstate hold row f found released _ _ moves ledger holds purchases =>
    simp only [unexplainedCents, balanceCents_congr ledger, completedPurchasesCents_congr purchases,
      holdsCents_move sound.toWalletSchema found moves holds, released, reduceCtorEq, and_false, if_false]
    omega
  | start purchase processing _ ledger holds purchases =>
    have grown : completedPurchasesCents db' c = completedPurchasesCents db c := by
      simp [completedPurchasesCents, purchases, share, processing]
    simp only [unexplainedCents, balanceCents_congr ledger, holdsCents_congr holds, grown]
  | credit purchase entry f found unsettled moves _ owner _ amount ledger holds purchases =>
    simp only [unexplainedCents, balanceCents_append c ledger, owner, amount, holdsCents_congr holds,
      completedPurchasesCents_move sound.toWalletSchema found moves purchases, unsettled, and_false,
        if_false,
      and_true]
    omega
  | close purchase status f found processing unpaid moves ledger holds purchases =>
    simp only [unexplainedCents, balanceCents_congr ledger, holdsCents_congr holds,
      completedPurchasesCents_move sound.toWalletSchema found moves purchases, processing, unpaid,
        reduceCtorEq,
      and_false, if_false]
    omega

theorem WalletChange.available_nonneg (change : WalletChange db db')
    (sound : WalletSound db c) (solvent : 0 ≤ availableCents db c) : 0 ≤ availableCents db' c := by
  cases change with
  | same ledger holds _ =>
    simpa only [availableCents, activeHoldsCents_eq, balanceCents_congr ledger,
      holdsCents_congr holds] using solvent
  | place hold row _ _ _ _ active covered ledger holds _ =>
    simp only [availableCents, activeHoldsCents_eq, balanceCents_congr ledger,
      holdsCents_append holds, active, and_true] at solvent covered ⊢
    by_cases owned : hold.customerId = c
    · simp only [owned, if_true] at covered ⊢
      omega
    · simp only [owned, if_false]
      omega
  | capture captured =>
    rw [(captured.totals sound).1]
    exact solvent
  | release hold f found active moves ledger holds _ =>
    have amount := hold.nonnegative
    simp only [availableCents, activeHoldsCents_eq, balanceCents_congr ledger,
      holdsCents_move sound.toWalletSchema found moves holds, active, reduceCtorEq, and_true,
      and_false, if_false] at solvent ⊢
    split <;> omega
  | reinstate hold row f found released request covered moves ledger holds _ =>
    simp only [availableCents, activeHoldsCents_eq, balanceCents_congr ledger,
      holdsCents_move sound.toWalletSchema found moves holds, released, reduceCtorEq, and_true,
      and_false, if_false] at solvent covered ⊢
    by_cases owned : hold.customerId = c
    · -- the wallet that was checked is the wallet of the hold
      rw [(sound.frozen hold (lookup_some found).1 owned row request).1] at covered
      simp only [owned, if_true]
      omega
    · simp only [owned, if_false]
      omega
  | start purchase _ _ ledger holds _ =>
    simpa only [availableCents, activeHoldsCents_eq, balanceCents_congr ledger,
      holdsCents_congr holds] using solvent
  | credit purchase entry f _ _ _ _ owner _ amount ledger holds _ =>
    have positive := purchase.wholeDollars
    simp only [availableCents, activeHoldsCents_eq, balanceCents_append c ledger, owner, amount,
      holdsCents_congr holds] at solvent ⊢
    split <;> omega
  | close purchase status f _ _ _ _ ledger holds _ =>
    simpa only [availableCents, activeHoldsCents_eq, balanceCents_congr ledger,
      holdsCents_congr holds] using solvent

end Jawnix
