import Jawnix.Worker

/-!
# What the services do to the queue

Jobs are numbered by an identity column. The services add jobs and leave those
that are there alone; only a claim, the worker's own commit and its failure
handler write the row of an existing job.
-/
namespace Jawnix

variable (db : Db)

@[mk_iff]
structure QueueSchema : Prop where
  keyed : Keyed Job.id db.jobs
  numbered : ∀ j ∈ db.jobs, j.id ≤ db.jobSeq

instance (db : Db) : Decidable (QueueSchema db) := decidable_of_iff' _ (queueSchema_iff ..)

def Enqueues (after : Db) : Prop :=
  ∃ new, after.jobs = db.jobs ++ new ∧ after.jobSeq = db.jobSeq + new.length ∧
    new.map Job.id = List.range' (db.jobSeq + 1) new.length

section
variable {a b c db after : Db}

theorem Enqueues.of_tables (jobs : after.jobs = db.jobs) (jobSeq : after.jobSeq = db.jobSeq) :
    Enqueues db after :=
  ⟨[], by simp [jobs], by simp [jobSeq], rfl⟩

theorem Enqueues.refl (db : Db) : Enqueues db db := .of_tables rfl rfl

theorem Enqueues.trans (first : Enqueues a b) (second : Enqueues b c) : Enqueues a c := by
  obtain ⟨xs, jobs, jobSeq, ids⟩ := first
  obtain ⟨ys, jobs', jobSeq', ids'⟩ := second
  refine ⟨xs ++ ys, by rw [jobs', jobs, append_assoc], ?_, ?_⟩
  · rw [jobSeq', jobSeq, length_append, Nat.add_assoc]
  rw [map_append, ids, ids', jobSeq, length_append, ← List.range'_append_1]
  congr 2
  omega

theorem enqueueJob_enqueues (db : Db) (kind : JobKind) (requestId : Option Uuid)
    (payload : JobPayload) (now : Instant) :
    Enqueues db (enqueueJob db kind requestId payload now) := ⟨[_], rfl, rfl, rfl⟩

theorem Enqueues.schema (enqueues : Enqueues db after) (schema : QueueSchema db) : QueueSchema after := by
  obtain ⟨new, jobs, jobSeq, ids⟩ := enqueues
  have fresh : ∀ i ∈ new.map Job.id, db.jobSeq < i ∧ i ≤ after.jobSeq := by
    intro i member
    rw [ids, List.mem_range'_1] at member
    omega
  refine ⟨?_, fun j member => ?_⟩
  · have distinct : (new.map Job.id).Nodup := ids ▸ List.nodup_range'
    rw [Keyed, jobs, map_append]
    refine schema.keyed.append distinct fun i old later => ?_
    obtain ⟨j, stored, rfl⟩ := mem_map.mp old
    exact absurd (schema.numbered j stored) (Nat.not_le.mpr (fresh _ later).1)
  rw [jobs, mem_append] at member
  rcases member with old | added
  · exact Nat.le_trans (schema.numbered j old) (by omega)
  · exact (fresh j.id (mem_map_of_mem added)).2

theorem Enqueues.job? {id : Nat} {job : Job} (enqueues : Enqueues db after)
    (found : db.job? id = some job) : after.job? id = some job := by
  obtain ⟨new, jobs, _, _⟩ := enqueues
  unfold Db.job? lookup at found ⊢
  rw [jobs, List.find?_append, found, Option.some_or]

theorem setJob_schema {f : Job → Job} (same : ∀ j, (f j).id = j.id) (id : Nat)
    (schema : QueueSchema db) : QueueSchema (db.setJob id f) := by
  refine ⟨keyed_adjust (fun j _ => same j) schema.keyed, fun j member => ?_⟩
  rcases mem_adjust.mp member with ⟨x, stored, _, rfl⟩ | ⟨stored, _⟩
  · rw [same]
    exact schema.numbered x stored
  · exact schema.numbered j stored

theorem setJob_job? {f : Job → Job} (same : ∀ j, (f j).id = j.id) (db : Db) (id : Nat) :
    (db.setJob id f).job? id = (db.job? id).map f := by
  have looked : lookup Job.id id (adjust Job.id id f db.jobs) = _ := lookup_adjust fun j _ => same j
  rw [if_pos rfl] at looked
  exact looked

theorem completed_id (j : Job) : (completed j).id = j.id := rfl

theorem setJob_completed {id : Nat} {job : Job} (found : db.job? id = some job) :
    (db.setJob id completed).job? id = some (completed job) := by
  rw [setJob_job? completed_id, found, map_some]

end

end Jawnix
