import Jawnix.Models

/-!
# The registry of Leads

A Lead has an identity drawn from a sequence and a phone, and each names the
other. Leads are added and changed; none is removed, none gets another identity
or phone, and no importer moves the last distribution of one back.
-/
namespace Jawnix

section
variable {leads leads' : List Lead}

def HasLead (leads : List Lead) (id : Nat) (phone : String) : Prop :=
    ∃ lead ∈ leads, lead.id = id ∧ lead.phone = phone
  deriving Decidable

def LeadsKept (leads leads' : List Lead) : Prop := ∀ lead ∈ leads, HasLead leads' lead.id lead.phone
  deriving Decidable

theorem HasLead.kept {id : Nat} {phone : String} (kept : LeadsKept leads leads')
    (has : HasLead leads id phone) : HasLead leads' id phone := by
  obtain ⟨lead, member, rfl, rfl⟩ := has
  exact kept lead member

@[mk_iff]
structure LeadSchema (db : Db) : Prop where
  ids : Keyed Lead.id db.leads
  phones : Keyed Lead.phone db.leads
  drawn : ∀ lead ∈ db.leads, lead.id ≤ db.leadSeq

instance (db : Db) : Decidable (LeadSchema db) := decidable_of_iff' _ (leadSchema_iff ..)

theorem HasLead.phone_iff {db : Db} (schema : LeadSchema db) {i j : Nat} {p q : String}
    (first : HasLead db.leads i p) (second : HasLead db.leads j q) : i = j ↔ p = q := by
  obtain ⟨a, inA, rfl, rfl⟩ := first
  obtain ⟨b, inB, rfl, rfl⟩ := second
  constructor
  · exact fun same => congrArg Lead.phone (eq_of_mem_of_key schema.ids inA inB same)
  · exact fun same => congrArg Lead.id (eq_of_mem_of_key schema.phones inA inB same)

end

def Lead.Reached (lead : Lead) (at_ : Instant) : Prop := ∃ last ∈ lead.lastDistributedAt, at_ ≤ last
  deriving Decidable

structure Lead.Revises (old new : Lead) : Prop where
  id : new.id = old.id
  phone : new.phone = old.phone
  reached : ∀ at_, old.Reached at_ → new.Reached at_

/-- A property of the registry that its three kinds of change keep: none at all, a new Lead under a
new phone, and a revision of a Lead. -/
structure RegistryClosed (P : Db → Prop) : Prop where
  congr : ∀ {db db' : Db}, P db → db'.leads = db.leads → db.leadSeq ≤ db'.leadSeq → P db'
  append : ∀ {db : Db} {lead : Lead}, lead.id = db.leadSeq + 1 → db.leadOfPhone? lead.phone = none →
    P db → P { db with leads := db.leads ++ [lead], leadSeq := db.leadSeq + 1 }
  edit : ∀ {db : Db} {f : Lead → Lead} (phone : String), (∀ lead : Lead, lead.Revises (f lead)) →
    P db → P (db.editLead phone f)

theorem RegistryClosed.upsert {P : Db → Prop} (closed : RegistryClosed P) {db : Db} {lead : Lead}
    {merge : Lead → Lead} (fresh : lead.id = db.leadSeq + 1)
    (revises : ∀ old : Lead, old.Revises (merge old)) (holds : P db) :
    P { db with
      leads := Rows.upsert Lead.phone (fun old _ => merge old) db.leads lead
      leadSeq := db.leadSeq + 1 } := by
  unfold Rows.upsert
  split
  case h_1 absent => exact closed.append fresh absent holds
  · exact closed.congr (closed.edit lead.phone revises holds) rfl (Nat.le_succ _)

theorem phones_closed : RegistryClosed (fun db => Keyed Lead.phone db.leads) where
  congr := fun phones leads _ => leads ▸ phones
  append := fun _ absent phones => keyed_append.mpr ⟨phones, lookup_none.mp absent⟩
  edit := fun _ revises phones => keyed_adjust (fun lead _ => (revises lead).phone) phones

theorem LeadSchema.edit {db : Db} {f : Lead → Lead} (phone : String)
    (ids : ∀ lead, (f lead).id = lead.id) (named : ∀ lead, (f lead).phone = lead.phone)
    (schema : LeadSchema db) : LeadSchema (db.editLead phone f) where
  ids := by
    have same : (db.editLead phone f).leads.map Lead.id = db.leads.map Lead.id :=
      map_adjust_of_preserves Lead.id fun lead _ => ids lead
    rw [Keyed, same]
    exact schema.ids
  phones := keyed_adjust (fun lead _ => named lead) schema.phones
  drawn := fun lead member => by
    rcases mem_adjust.mp member with ⟨old, stored, _, rfl⟩ | ⟨stored, _⟩
    · exact ids old ▸ schema.drawn old stored
    · exact schema.drawn lead stored

theorem schema_closed : RegistryClosed LeadSchema where
  congr := fun schema leads drawn =>
    ⟨leads ▸ schema.ids, leads ▸ schema.phones, fun lead member =>
      Nat.le_trans (schema.drawn lead (leads ▸ member)) drawn⟩
  append := fun fresh absent schema =>
    { ids := keyed_append.mpr ⟨schema.ids, fun old member same =>
        Nat.not_succ_le_self _ (fresh ▸ same ▸ schema.drawn old member)⟩
      phones := phones_closed.append fresh absent schema.phones
      drawn := fun old member => by
        rcases mem_append.mp member with before | new
        · exact Nat.le_succ_of_le (schema.drawn old before)
        · rw [mem_singleton.mp new, fresh] }
  edit := fun phone revises schema => schema.edit phone (fun lead => (revises lead).id)
    (fun lead => (revises lead).phone)

theorem LeadSchema.lead?_of_found {db : Db} (schema : LeadSchema db) {phone : String} {lead : Lead}
    (found : db.leadOfPhone? phone = some lead) : db.lead? lead.id = some lead :=
  lookup_of_mem schema.ids (lookup_some found).1

end Jawnix
