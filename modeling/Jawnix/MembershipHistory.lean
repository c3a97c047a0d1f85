import Mathlib.Data.List.Pairwise
import Jawnix.CustomerLinks
import Jawnix.HistoryRuns

/-!
# Membership periods

The Agency of a Customer is stored on its row and as the open period of its
membership history. `assign_customer` writes both. Archiving and the deletion of
an Agency write neither, and the two restorations take a Customer out of a
closed Agency on its row alone.
-/
namespace Jawnix

def Db.IsOpen (db : Db) (customerId : Nat) (m : AgencyMembershipHistory) : Prop :=
  m ∈ db.agencyMemberships ∧ m.customerId = customerId ∧ m.endedAt = none

/-- Of two periods of one Customer, one has ended when the other starts. -/
def AgencyMembershipHistory.Apart (p q : AgencyMembershipHistory) : Prop :=
  p.customerId = q.customerId → (∃ e, p.endedAt = some e ∧ e ≤ q.startedAt) ∨
    ∃ e, q.endedAt = some e ∧ e ≤ p.startedAt

structure Mirrors (db : Db) : Prop where
  ids : Keyed AgencyMembershipHistory.id db.agencyMemberships
  numbered : ∀ m ∈ db.agencyMemberships, m.id ≤ db.agencyMembershipSeq
  apart : db.agencyMemberships.Pairwise AgencyMembershipHistory.Apart
  mirrored : ∀ c ∈ db.customers, ∀ a, c.agencyId = some a ↔ ∃ m, db.IsOpen c.id m ∧ m.agencyId = a

theorem Mirrors.open_unique {db : Db} (mirrors : Mirrors db) {c : Nat}
    {p q : AgencyMembershipHistory} (first : db.IsOpen c p) (second : db.IsOpen c q) : p = q := by
  by_contra differ
  have : Std.Symm AgencyMembershipHistory.Apart := ⟨fun _ _ apart same => (apart same.symm).symm⟩
  rcases mirrors.apart.forall first.1 second.1 differ (first.2.1.trans second.2.1.symm) with
    ⟨e, ended, _⟩ | ⟨e, ended, _⟩
  · cases first.2.2.symm.trans ended
  · cases second.2.2.symm.trans ended

inductive MembershipOp where
  | assign (customerId : Nat) (agencyId : Option Nat) (actorId reason : String) (confirmed : Bool)
      (now : Instant)
  | party (op : PartyOp)

def MembershipOp.run (env : PartyEnv) (db : Db) : MembershipOp → Except Fault Db
  | .assign customerId agencyId actorId reason confirmed now =>
    assignLoaded db customerId agencyId actorId reason confirmed now
  | .party op => op.run env db

def membershipStep (env : PartyEnv) (db : Db) (op : MembershipOp) : Db := commit db (op.run env db)

/-- An assignment finds the clock not behind the periods, and the Agency of a Customer to be
restored stands. -/
def MembershipGuard (db : Db) : MembershipOp → Prop
  | .assign _ _ _ _ _ now => ∀ m ∈ db.agencyMemberships, ∀ e ∈ m.endedAt, e ≤ now
  | .party (.deleteCustomer ..) | .party (.deleteAgent ..) | .party (.deleteAgency ..) => True
  | .party (.create payload ..) =>
    payload.restoreCustomerId.isSome ∧ ∀ id ∈ payload.restoreCustomerId,
    ∀ customer ∈ db.customer? id, db.agencyStands customer
  | .party (.decide _ (.restore id) ..) => ∀ customer ∈ db.customer? id, db.agencyStands customer
  | _ => False

def Db.periods (db : Db) : List AgencyMembershipHistory × Nat :=
  (db.agencyMemberships, db.agencyMembershipSeq)

section
variable {env : PartyEnv} {casing : Casing} {db after : Db} {customer : Customer} {now : Instant}

/-- No Customer is in another Agency, and no period is written. -/
structure Rests (db after : Db) : Prop where
  periods : after.periods = db.periods
  customers : ∀ c ∈ after.customers, ∃ b ∈ db.customers, b.id = c.id ∧ b.agencyId = c.agencyId

theorem Rests.mirrors (rests : Rests db after) (mirrors : Mirrors db) : Mirrors after := by
  obtain ⟨same, seq⟩ := Prod.mk.inj rests.periods
  refine ⟨same ▸ mirrors.ids, seq ▸ same ▸ mirrors.numbered, same ▸ mirrors.apart, fun c member => ?_⟩
  obtain ⟨b, stored, named, joined⟩ := rests.customers c member
  simp only [Db.IsOpen, same, ← named, ← joined]
  exact mirrors.mirrored b stored

theorem Rests.adjusted {f : Customer → Customer} {id : Nat} (periods : after.periods = db.periods)
    (customers : after.customers = adjust Customer.id id f db.customers)
    (kept : ∀ c ∈ db.customers, c.id = id → ∃ b ∈ db.customers, b.id = (f c).id ∧
      b.agencyId = (f c).agencyId) :
    Rests db after := by
  refine ⟨periods, fun c member => ?_⟩
  rw [customers] at member
  rcases mem_adjust.mp member with ⟨b, stored, here, rfl⟩ | ⟨stored, _⟩
  · exact kept b stored here
  · exact ⟨c, stored, rfl, rfl⟩

theorem Rests.restored {states : List String} (found : db.customer? customer.id = some customer)
    (stands : db.agencyStands customer) (periods : after.periods = db.periods)
    (customers :
      after.customers = (db.setCustomer customer.id fun _ => customer.restored db states).customers) :
    Rests db after :=
  .adjusted periods customers fun _ _ _ => ⟨customer, (lookup_some found).1, rfl, (if_pos stands).symm⟩

theorem archiveCustomer_rests (updatedAt : Uuid → Instant) :
    Rests db (archiveCustomer db customer updatedAt now) := by
  refine @Rests.adjusted db _ (fun c => { c with deletedAt := some now }) customer.id ?_ ?_ fun c stored _ =>
    ⟨c, stored, rfl, rfl⟩ <;>
  · unfold archiveCustomer rememberCustomerName cancelUserAccountInvitation
    dsimp only
    split <;> split <;> rfl

theorem activate_periods {x : Uuid} {email : String}
    (done : activate casing db customer x email now = .ok after) : after.periods = db.periods := by
  obtain ⟨profiles, rfl⟩ := confirmProfile_frame done
  rfl

theorem inviteUserAccount_periods {offer : Invite} {id : Uuid} {result : ProvisionResult}
    (done : inviteUserAccount casing db customer offer id now = .ok (after, result)) :
    after.periods = db.periods := by
  unfold inviteUserAccount at done
  split at done
  · cases done
  obtain ⟨_, _, rest⟩ := bind_ok done
  split at rest
  · split at rest
    · obtain ⟨confirmed, confirms, last⟩ := bind_ok rest
      cases last
      obtain ⟨profiles, rfl⟩ := confirmProfile_frame confirms
      rfl
    split at rest
    · rw [repeatInvitation_same rest]
    split at rest
    · cases rest
    cases rest
    rfl
  split at rest
  · rw [repeatInvitation_same rest]
  obtain ⟨granted, grants, last⟩ := bind_ok rest
  cases last
  exact activate_periods grants

theorem activateRegistration_rests {registration : CustomerRegistration} {fresh : NewIdentity}
    {actor : String} (found : db.customer? customer.id = some customer)
    (stands : db.agencyStands customer)
    (done : activateRegistration env db registration (some customer) fresh actor now = .ok after) :
    Rests db after := by
  unfold activateRegistration at done
  split at done
  · cases done
  obtain ⟨⟨mid, restored⟩, prepared, rest⟩ := bind_ok done
  obtain ⟨granted, grants, last⟩ := bind_ok rest
  cases last
  dsimp only [registrationCustomer] at prepared
  split at prepared
  · cases prepared
  cases prepared
  refine .restored found stands ?_ (activateRegistered_relinks grants).customers
  obtain ⟨_, _, activated⟩ := bind_ok grants
  split at activated
  · cases activated
  exact (activate_periods activated :)

theorem party_rests {op : PartyOp} (guard : MembershipGuard db (.party op))
    (done : op.run env db = .ok after) : Rests db after := by
  cases op with
  | deleteCustomer =>
    obtain ⟨customer, _, rfl | rfl⟩ := deleteCustomer_ok done
    · exact ⟨rfl, fun c member => ⟨c, (mem_filter.mp member).1, rfl, rfl⟩⟩
    · exact archiveCustomer_rests _
  | deleteAgent =>
    cases deleteAgent_ok done
    exact .adjusted rfl rfl fun c stored _ => ⟨c, stored, rfl, rfl⟩
  | deleteAgency =>
    rcases deleteAgency_ok done with rfl | rfl
    · exact ⟨rfl, fun c member => ⟨c, member, rfl, rfl⟩⟩
    refine ⟨rfl, fun c member => ?_⟩
    obtain ⟨b, stored, rfl⟩ := mem_map.mp member
    refine ⟨b, stored, ?_⟩
    unfold Customer.deletedWith
    split <;> exact ⟨rfl, rfl⟩
  | create payload fresh offer invitationId now =>
    obtain ⟨restores, stands⟩ := guard
    dsimp only [PartyOp.run, createCustomer] at done
    split at done
    · cases done
    split at done
    · cases done
    split at done
    case h_1 customerId chosen =>
      split at done
      · cases done
      obtain ⟨archived, finds, rest⟩ := bind_ok done
      obtain ⟨rfl, found, _⟩ := restorable_ok finds
      obtain ⟨stored, stores, invites⟩ := bind_ok rest
      obtain ⟨result, invited⟩ := map_fst_ok invites
      refine .restored found (stands _ chosen _ found) ?_ (provisionCustomer_relinks rest).customers
      refine (inviteUserAccount_periods invited).trans ?_
      unfold storeProfile at stores
      split at stores
      · cases stores
      cases stores
      rfl
    case h_2 absent => cases absent ▸ restores
  | decide userId decision =>
    cases decision with
    | restore id =>
      dsimp only [PartyOp.run, decideRegistration] at done
      split at done
      · cases done
      split at done
      · cases done
      split at done
      · cases done
      obtain ⟨archived, finds, activates⟩ := bind_ok done
      obtain ⟨rfl, found, _⟩ := restorable_ok finds
      exact activateRegistration_rests found (guard _ found) activates
    | _ => cases guard
  | _ => cases guard

end

section
variable {db after : Db} {customer : Customer} {now : Instant}

def closed (customerId : Nat) (now : Instant) (m : AgencyMembershipHistory) : AgencyMembershipHistory :=
  if m.customerId = customerId ∧ m.endedAt = none then { m with endedAt := some now } else m

theorem closed_cases (customerId : Nat) (now : Instant) (m : AgencyMembershipHistory) :
    (m.customerId = customerId ∧ m.endedAt = none ∧ closed customerId now m =
      { m with endedAt := some now }) ∨
      (¬(m.customerId = customerId ∧ m.endedAt = none) ∧ closed customerId now m = m) := by
  unfold closed
  split
  case isTrue here => exact .inl ⟨here.1, here.2, rfl⟩
  case isFalse other => exact .inr ⟨other, rfl⟩

/-- An assignment ends the open period, of which there is at most one. -/
theorem Mirrors.ended (mirrors : Mirrors db) (stored : customer ∈ db.customers) {merged : Db}
    (same : merged.periods = db.periods) (now : Instant) :
    (endMembership merged customer (customer.agencyId.bind db.agency?) now).periods =
    (db.agencyMemberships.map (closed customer.id now), db.agencyMembershipSeq) := by
  obtain ⟨rows, seq⟩ := Prod.mk.inj same
  unfold endMembership
  rw [rows]
  cases found : db.agencyMemberships.find? (fun m => m.customerId = customer.id && m.endedAt.isNone) with
  | none =>
    have ended : ∀ m ∈ db.agencyMemberships, ¬(m.customerId = customer.id ∧ m.endedAt = none) := by
      simpa using found
    have left : customer.agencyId = none := by
      refine Option.eq_none_iff_forall_ne_some.mpr fun a joined => ?_
      obtain ⟨m, ⟨inside, isOpen⟩, _⟩ := (mirrors.mirrored customer stored a).mp joined
      exact ended m inside isOpen
    rw [left]
    refine Prod.ext (rows.trans ((map_id _).symm.trans (map_congr_left fun m member => ?_))) seq
    exact (if_neg (ended m member)).symm
  | some current =>
  have inside := mem_of_find?_eq_some found
  have isOpen : current.customerId = customer.id ∧ current.endedAt = none := by simpa using find?_some found
  refine Prod.ext (map_congr_left fun m member => ?_) seq
  rcases closed_cases customer.id now m with ⟨owned, isOpen', ended⟩ | ⟨other, kept⟩
  · rw [ended, mirrors.open_unique ⟨member, owned, isOpen'⟩ ⟨inside, isOpen⟩, if_pos rfl]
  rw [kept, if_neg fun named => other ?_]
  exact eq_of_mem_of_key mirrors.ids member inside named ▸ isOpen

theorem open_closed {periods : List AgencyMembershipHistory} {customerId c : Nat}
    {m : AgencyMembershipHistory} :
    (m ∈ periods.map (closed customerId now) ∧ m.customerId = c ∧ m.endedAt = none) ↔
    c ≠ customerId ∧ m ∈ periods ∧ m.customerId = c ∧ m.endedAt = none := by
  constructor
  · rintro ⟨member, owned, isOpen⟩
    obtain ⟨old, inside, rfl⟩ := mem_map.mp member
    rcases closed_cases customerId now old with ⟨_, _, ended⟩ | ⟨other, kept⟩
    · cases (ended ▸ isOpen :)
    rw [kept] at owned isOpen ⊢
    exact ⟨fun here => other ⟨owned.trans here, isOpen⟩, inside, owned, isOpen⟩
  · rintro ⟨differ, inside, owned, isOpen⟩
    exact ⟨mem_map.mpr ⟨m, inside, if_neg fun here => differ (owned.symm.trans here.1)⟩, owned, isOpen⟩

theorem Mirrors.apart_closed (mirrors : Mirrors db) (customerId : Nat) (now : Instant) :
    (db.agencyMemberships.map (closed customerId now)).Pairwise AgencyMembershipHistory.Apart := by
  refine pairwise_map.mpr (mirrors.apart.imp fun {p q} apart same => ?_)
  have kept : ∀ m, (closed customerId now m).customerId = m.customerId ∧
    (closed customerId now m).startedAt = m.startedAt ∧
      ∀ e, m.endedAt = some e → (closed customerId now m).endedAt = some e := by
    intro m
    rcases closed_cases customerId now m with ⟨_, isOpen, ended⟩ | ⟨_, unchanged⟩
    · exact ended ▸ ⟨rfl, rfl, fun e stored => nomatch isOpen.symm.trans stored⟩
    · exact unchanged.symm ▸ ⟨rfl, rfl, fun _ stored => stored⟩
  rw [(kept p).1, (kept q).1] at same
  rcases apart same with ⟨e, ended, before⟩ | ⟨e, ended, before⟩
  · exact .inl ⟨e, (kept p).2.2 e ended, (kept q).2.1.symm ▸ before⟩
  · exact .inr ⟨e, (kept q).2.2 e ended, (kept p).2.1.symm ▸ before⟩

theorem mergedInto_frame (db : Db) (customer : Customer) (destination : Option Agency) :
    ∃ f agencies, (∀ c, (f c).id = c.id ∧ (f c).agencyId = c.agencyId) ∧
      mergedInto db customer destination = { db with customers := db.customers.map f, agencies } := by
  cases destination with
  | none => exact ⟨id, db.agencies, fun _ => ⟨rfl, rfl⟩, by rw [map_id]; rfl⟩
  | some agency =>
    refine ⟨_, _, ?_, rfl⟩
    exact fun _ => ⟨rfl, rfl⟩

theorem Mirrors.assigned (mirrors : Mirrors db) (stored : customer ∈ db.customers)
    {destination : Option Agency} {actorId reason : String} {confirmed : Bool}
    (clock : ∀ m ∈ db.agencyMemberships, ∀ e ∈ m.endedAt, e ≤ now)
    (done : assignCustomer db customer destination actorId reason confirmed now = .ok after) :
    Mirrors after := by
  rcases assignCustomer_ok done with ⟨_, rfl⟩ | rfl
  · exact mirrors
  obtain ⟨f, agencies, named, merged⟩ := mergedInto_frame db customer destination
  obtain ⟨rows, seq, ended⟩ := endMembership_frame (mergedInto db customer destination) customer
    (customer.agencyId.bind db.agency?) now
  have periods :=
    mirrors.ended stored (show (mergedInto db customer destination).periods =
    db.periods by rw [merged]; rfl) now
  rw [ended] at periods
  obtain ⟨rfl, rfl⟩ := Prod.mk.inj periods
  rw [ended, merged]
  have joined : ∀ c ∈ adjust Customer.id customer.id (movedTo destination) (db.customers.map f),
      (c.id = customer.id ∧ c.agencyId = destination.map Agency.id) ∨
        (c.id ≠ customer.id ∧ ∃ b ∈ db.customers, b.id = c.id ∧ b.agencyId = c.agencyId) := by
    intro c member
    rcases mem_adjust.mp member with ⟨_, _, here, rfl⟩ | ⟨inside, other⟩
    · exact .inl ⟨here, rfl⟩
    obtain ⟨b, inDb, rfl⟩ := mem_map.mp inside
    exact .inr ⟨other, b, inDb, (named b).1.symm, (named b).2.symm⟩
  have sameIds : ∀ m, (closed customer.id now m).id = m.id := fun m => by unfold closed; split <;> rfl
  have ids : Keyed AgencyMembershipHistory.id (db.agencyMemberships.map (closed customer.id now)) := by
    have same : (db.agencyMemberships.map (closed customer.id now)).map AgencyMembershipHistory.id = _ :=
      List.map_map.trans (map_congr_left fun m _ => sameIds m)
    rw [Keyed, same]
    exact mirrors.ids
  have numbered : ∀ m ∈ db.agencyMemberships.map (closed customer.id now),
    m.id ≤ db.agencyMembershipSeq := by
    intro m member
    obtain ⟨old, inside, rfl⟩ := mem_map.mp member
    exact (sameIds old).symm ▸ mirrors.numbered old inside
  have apart := mirrors.apart_closed customer.id now
  cases destination with
  | none =>
    refine ⟨ids, numbered, apart, fun c member a => ?_⟩
    rcases joined c member with ⟨here, left⟩ | ⟨other, b, inDb, same, kept⟩
    · simp only [left, Db.IsOpen, Option.map_none, reduceCtorEq, false_iff]
      rintro ⟨m, isOpen, _⟩
      exact (open_closed.mp isOpen).1 here
    · rw [← kept, mirrors.mirrored b inDb a, same]
      exact exists_congr fun m => and_congr_left fun _ => (open_closed.trans (and_iff_right other)).symm
  | some agency =>
  refine ⟨keyed_append.mpr ⟨ids, fun m member => ?_⟩, fun m member => ?_, pairwise_append.mpr ⟨apart,
    List.pairwise_singleton _ _, fun p inside q new same => ?_⟩, fun c member a => ?_⟩
  · exact Nat.ne_of_lt (Nat.lt_succ_of_le (numbered m member))
  · rcases mem_append.mp member with old | new
    · exact Nat.le_succ_of_le (numbered m old)
    rw [mem_singleton.mp new]
    exact Nat.le_refl _
  · -- the new period starts when the last one ends, at the latest
    rw [mem_singleton.mp new] at same ⊢
    obtain ⟨old, inDb, rfl⟩ := mem_map.mp inside
    rcases closed_cases customer.id now old with ⟨_, _, ended⟩ | ⟨other, kept⟩
    · exact .inl ⟨now, by rw [ended], Int.le_refl _⟩
    rw [kept] at same ⊢
    obtain ⟨e, ended⟩ := Option.ne_none_iff_exists'.mp fun isOpen => other ⟨same, isOpen⟩
    exact .inl ⟨e, ended, clock old inDb e ended⟩
  rcases joined c member with ⟨here, left⟩ | ⟨other, b, inDb, same, kept⟩
  · rw [left]
    refine ⟨fun joins => ⟨_, ⟨mem_append_right _ mem_cons_self, here.symm, rfl⟩, some.inj joins⟩, ?_⟩
    rintro ⟨m, ⟨inside, isOpen⟩, rfl⟩
    rcases mem_append.mp inside with old | new
    · exact absurd here (open_closed.mp ⟨old, isOpen⟩).1
    rw [mem_singleton.mp new]
    rfl
  rw [← kept, mirrors.mirrored b inDb a, same]
  refine exists_congr fun m => and_congr_left fun _ => ⟨fun isOpen => ?_, ?_⟩
  · obtain ⟨inside, rest⟩ := open_closed.mpr ⟨other, isOpen⟩
    exact ⟨mem_append_left _ inside, rest⟩
  rintro ⟨inside, isOpen⟩
  rcases mem_append.mp inside with old | new
  · exact (open_closed.mp ⟨old, isOpen⟩).2
  rw [mem_singleton.mp new] at isOpen
  exact absurd isOpen.1.symm other

end

theorem membershipStep_mirrors {env : PartyEnv} {db : Db} {op : MembershipOp} (guard : MembershipGuard db op)
    (mirrors : Mirrors db) : Mirrors (membershipStep env db op) := by
  refine commit_cases mirrors fun after done => ?_
  cases op with
  | assign customerId agencyId actorId reason confirmed now =>
    obtain ⟨customer, destination, found, _, assigns⟩ := assignLoaded_cases done
    exact mirrors.assigned (lookup_some found).1 guard assigns
  | party op => exact (party_rests guard done).mirrors mirrors

/-- Along a run that restores no Customer of a closed Agency, a Customer is in an Agency exactly if
its one open period is in it, and the periods of a Customer lie apart. -/
theorem membership_mirrored {env : PartyEnv} {db : Db} {ops : List MembershipOp}
    (mirrors : Mirrors db) (meets : Meets (membershipStep env) MembershipGuard db ops) :
    let after := run (membershipStep env) db ops
    (∀ c ∈ after.customers, (∀ a, c.agencyId = some a ↔ ∃ m, (∀ p, after.IsOpen c.id p ↔ p = m) ∧
      m.agencyId = a) ∧
        (c.agencyId = none → ∀ m, ¬after.IsOpen c.id m)) ∧
      after.agencyMemberships.Pairwise AgencyMembershipHistory.Apart := by
  intro after
  have kept : Mirrors after :=
    run_invariant_of_meets (I := Mirrors) (fun _ _ guard mirrors =>
      membershipStep_mirrors guard mirrors) mirrors meets
  refine ⟨fun c member => ⟨fun a => (kept.mirrored c member a).trans ⟨?_, ?_⟩, fun left m isOpen =>
    ?_⟩, kept.apart⟩
  · rintro ⟨m, isOpen, joined⟩
    exact ⟨m, fun p => ⟨fun other => kept.open_unique other isOpen, fun same => same ▸ isOpen⟩, joined⟩
  · rintro ⟨m, only, joined⟩
    exact ⟨m, (only m).mpr rfl, joined⟩
  · cases left.symm.trans ((kept.mirrored c member m.agencyId).mpr ⟨m, isOpen, rfl⟩)

def agencyShop (active : Bool) : Db :=
  { customers := [{ id := 1, slug := "ann", active := false, agencyId := some 5 }]
    agencies := [{ id := 5, slug := "north", active }, { id := 6, slug := "south" }]
    historyIdentities := [{ customerId := 1, firstName := "Ann", lastName := "Lee" }]
    agencyMemberships :=
      [{ id := 1, customerId := 1, agencyId := 5, startedAt := 3, assignedBy := "7", reason := "joins" }]
    agencyMembershipSeq := 1 }

theorem agencyShop_mirrors (active : Bool) : Mirrors (agencyShop active) := by
  refine ⟨by decide +revert, by decide +revert, List.pairwise_singleton _ _, fun c member a => ?_⟩
  cases mem_singleton.mp member
  simp [Db.IsOpen, agencyShop]

/-- The Customer is restored under number 1. -/
def restoreAnn : MembershipOp :=
  .party (.create
    { name := "Ann Lee", email := "ann@x.io", firstName := "Ann", lastName := "Lee",
      restoreCustomerId := some 1 }
    { id := 2 } { authUserId := 8, email := "", actorId := "7", reason := "" } 3 12)

theorem membership_mirrored_moved :
    let run := run (membershipStep { casing := plainCasing }) (agencyShop true)
      [.assign 1 (some 6) "7" "moves" true 9, .assign 1 none "7" "leaves" true 12, restoreAnn]
    run.agencyMemberships.map (fun m => (m.agencyId, m.startedAt, m.endedAt)) =
    [(5, 3, some 9), (6, 9, some 12)] ∧
      ∀ c ∈ run.customers, c.agencyId = none → ∀ m, ¬run.IsOpen c.id m := by
  have meets : Meets (membershipStep { casing := plainCasing }) MembershipGuard (agencyShop true)
      [.assign 1 (some 6) "7" "moves" true 9, .assign 1 none "7" "leaves" true 12, restoreAnn] :=
    ⟨by unfold MembershipGuard; decide +kernel, by unfold MembershipGuard; decide +kernel,
      by unfold MembershipGuard restoreAnn; decide +kernel, trivial⟩
  exact ⟨by decide +kernel, fun c member =>
    ((membership_mirrored (agencyShop_mirrors true) meets).1 c member).2⟩

/-- Its Agency is deleted and the Customer restored: it is in no Agency, with its period open. -/
theorem restored_membership_stays_open :
    let run := run (membershipStep { casing := plainCasing }) (agencyShop false)
      [.party (.deleteAgency 5 "north" false 9), restoreAnn]
    Mirrors (agencyShop false) ∧ run.customers.map (fun c => (c.id, c.agencyId, c.deletedAt)) =
    [(1, none, none)] ∧
      run.agencyMemberships.map (fun m => (m.customerId, m.agencyId, m.endedAt)) = [(1, 5, none)] :=
  ⟨agencyShop_mirrors false, by decide +kernel, by decide +kernel⟩

end Jawnix
