import Mathlib.Order.Bounds.Basic
import Jawnix.Recommendations

/-!
# Keyword history

`keyword_history.py`. Observations of a keyword are merged within a call by their
normalised term and origin, and then upserted in batches into the stored intervals.
Both merges widen an interval, so neither order nor batching shows in the table.
-/
namespace Jawnix

structure KeywordObservation where
  term : String
  origin : String
  firstSeenAt : Instant
  lastSeenAt : Instant

def keywordHistoryOrigins : List String :=
  ["legacy_enqueue_log", "legacy_keyword_history", "legacy_businesses", "active_list", "winner",
    "accepted_save"]

def normalizeKeywordTerm (casefold : String → String) (value : String) : String :=
  casefold (ofList (collapseSpaces (strip value).toList))

namespace KeywordObservation

def key (o : KeywordObservation) : String × String := (o.term, o.origin)

def join (old new : KeywordObservation) : KeywordObservation :=
  { old with
    firstSeenAt := min old.firstSeenAt new.firstSeenAt
    lastSeenAt := max old.lastSeenAt new.lastSeenAt }

@[simp] theorem key_join (old new : KeywordObservation) : (old.join new).key = old.key := rfl

def normalized (casefold : String → String) (o : KeywordObservation) : KeywordObservation :=
  { o with term := normalizeKeywordTerm casefold o.term }

def exceeds (o r : KeywordObservation) : Bool :=
  decide (o.firstSeenAt < r.firstSeenAt) || decide (r.lastSeenAt < o.lastSeenAt)

end KeywordObservation

open KeywordObservation

def mergeObservation (casefold : String → String) (merged : List KeywordObservation)
    (o : KeywordObservation) : Except Fault (List KeywordObservation) :=
  let term := normalizeKeywordTerm casefold o.term
  if term = "" then .ok merged
  else if 320 < term.length then .error (.value "Normalized keyword term exceeds 320 characters")
  else if o.origin ∉ keywordHistoryOrigins then
    .error (.value ("Unknown keyword history origin: " ++ o.origin))
  else if o.lastSeenAt < o.firstSeenAt then .error (.value "Keyword first-seen timestamp is after last-seen")
  else .ok (upsert key join merged (o.normalized casefold))

/-- The table after the call, and how many rows it inserted and updated. -/
def upsertKeywordHistory (casefold : String → String) (table observations : List KeywordObservation) :
    Except Fault (List KeywordObservation × Nat × Nat) := do
  let merged ← observations.foldlM (mergeObservation casefold) []
  let existing := table.filter (fun r => r.term ∈ merged.map KeywordObservation.term &&
    r.origin ∈ merged.map KeywordObservation.origin)
  let inserted := merged.countP (fun o => (lookup key o.key existing).isNone)
  let updated := merged.countP (fun o => (lookup key o.key existing).any o.exceeds)
  .ok ((chunks 500 merged).foldl (fun table batch => batch.foldl (upsert key join) table) table,
    inserted, updated)

def keywordHistoryStep (casefold : String → String) (table observations : List KeywordObservation) :
    List KeywordObservation :=
  commit table ((upsertKeywordHistory casefold table observations).map Prod.fst)

def admitted (casefold : String → String) (observations : List KeywordObservation) :
    List KeywordObservation :=
  match observations.foldlM (mergeObservation casefold) [] with
  | .error _ => []
  | .ok _ => (observations.map (normalized casefold)).filter fun o => o.term ≠ ""

def widen (held : Option KeywordObservation) (o : KeywordObservation) : Option KeywordObservation :=
  some (held.elim o fun old => old.join o)

def ofKey (k : String × String) (xs : List KeywordObservation) : List KeywordObservation :=
  xs.filter fun o => o.key = k

section
variable {casefold : String → String} {k : String × String}
  {xs table merged observations after : List KeywordObservation} {inserted updated : Nat}

theorem merged_eq {start : List KeywordObservation}
    (done : observations.foldlM (mergeObservation casefold) start = .ok merged) :
    merged = ((observations.map (normalized casefold)).filter fun o => o.term ≠ "").foldl
    (upsert key join) start := by
  induction observations generalizing start with
  | nil => cases done; rfl
  | cons o rest ih =>
  rw [List.foldlM_cons] at done
  obtain ⟨next, step, rest'⟩ := bind_ok done
  rw [ih rest', map_cons]
  unfold mergeObservation at step
  extract_lets term at step
  split_ifs at step with blank
  · cases step
    rw [List.filter_cons_of_neg (by rw [decide_eq_true_eq, not_not]; exact blank)]
  · cases step
    rw [List.filter_cons_of_pos (by exact decide_eq_true blank), foldl_cons]

theorem lookup_foldl_upsert (xs table : List KeywordObservation) :
    lookup key k (xs.foldl (upsert key join) table) = (ofKey k xs).foldl widen (lookup key k table) := by
  induction xs generalizing table with
  | nil => rfl
  | cons x rest ih =>
    rw [foldl_cons, ih, Rows.lookup_upsert fun _ _ => rfl]
    by_cases here : x.key = k <;> simp [ofKey, here, widen]

theorem keyed_foldl_upsert (keyed : Keyed key table) (xs : List KeywordObservation) :
    Keyed key (xs.foldl (upsert key join) table) := by
  induction xs generalizing table with
  | nil => exact keyed
  | cons x rest ih => exact ih (Rows.keyed_upsert (fun _ _ => rfl) keyed)

theorem foldl_widen (xs : List KeywordObservation) (held : Option KeywordObservation) :
    xs.foldl widen held = (xs.foldl widen none).elim held (widen held) := by
  induction xs using reverseRecOn with
  | nil => rfl
  | append_singleton xs x ih =>
    rw [foldl_append, foldl_append, ih]
    cases xs.foldl widen none with
    | none => rfl
    | some y => cases held <;> simp [widen, join, min_assoc, max_assoc]

theorem ofKey_merged (xs : List KeywordObservation) (held : Option KeywordObservation) :
    (ofKey k (xs.foldl (upsert key join) [])).foldl widen held = (ofKey k xs).foldl widen held := by
  have found := lookup_foldl_upsert (k := k) xs []
  have keyed := keyed_foldl_upsert (keyed_nil key) xs
  rw [foldl_widen (ofKey k xs)]
  change _ = (ofKey k xs).foldl widen none at found
  rw [← found]
  cases hull : lookup key k (xs.foldl (upsert key join) []) with
  | none =>
    have nothing : ofKey k (xs.foldl (upsert key join) []) = [] :=
      filter_eq_nil_iff.mpr fun y member => by simpa using lookup_none.mp hull y member
    rw [nothing]
    rfl
  | some y =>
    rw [ofKey, Rows.filter_key keyed hull]
    rfl

theorem upsertKeywordHistory_ok
    (done : upsertKeywordHistory casefold table observations = .ok (after, inserted, updated)) :
    ∃ merged, merged = (admitted casefold observations).foldl (upsert key join) [] ∧
    after = merged.foldl (upsert key join) table ∧
    inserted = merged.countP (fun o => (lookup key o.key table).isNone) ∧
    updated = merged.countP fun o => (lookup key o.key table).any o.exceeds := by
  obtain ⟨merged, merges, rest⟩ := bind_ok done
  -- every row under the key of a merged observation is among those that were read
  have read : ∀ o ∈ merged, lookup key o.key (table.filter (fun r =>
      r.term ∈ merged.map KeywordObservation.term && r.origin ∈ merged.map KeywordObservation.origin)) =
        lookup key o.key table := by
    intro o member
    rw [lookup, List.find?_filter]
    refine congrArg (List.find? · table) (funext fun r => ?_)
    by_cases here : r.key = o.key
    · obtain ⟨sameTerm, sameOrigin⟩ := Prod.mk.injEq _ _ _ _ ▸ here
      simp [here, sameTerm, sameOrigin, mem_map_of_mem member]
    · simp [here]
  cases rest
  refine ⟨merged, by rw [merged_eq merges, admitted, merges], ?_, ?_, ?_⟩
  · rw [← List.foldl_flatten, flatten_chunks (by decide)]
  · exact List.countP_congr fun o member => by rw [read o member]
  · exact List.countP_congr fun o member => by rw [read o member]

/-- The table holds at each key the hull of the observations of that key. -/
structure Hulls (table seen : List KeywordObservation) : Prop where
  keyed : Keyed key table
  hull : ∀ k, lookup key k table = (ofKey k seen).foldl widen none

theorem Hulls.step {seen : List KeywordObservation} (hulls : Hulls table seen)
    (observations : List KeywordObservation) :
    Hulls (keywordHistoryStep casefold table observations) (seen ++ admitted casefold observations) := by
  cases done : upsertKeywordHistory casefold table observations with
  | error fault =>
    have nothing : admitted casefold observations = [] := by
      unfold admitted
      split
      · rfl
      case h_2 merged merges =>
      rw [upsertKeywordHistory, merges] at done
      cases done
    rw [nothing, append_nil, keywordHistoryStep, done]
    exact hulls
  | ok result =>
  obtain ⟨after, inserted, updated⟩ := result
  obtain ⟨merged, rfl, isAfter, -, -⟩ := upsertKeywordHistory_ok done
  rw [keywordHistoryStep, done]
  refine ⟨isAfter ▸ keyed_foldl_upsert hulls.keyed _, fun k => ?_⟩
  change lookup key k after = _
  rw [isAfter, lookup_foldl_upsert, ofKey_merged, hulls.hull, ofKey, ofKey, ofKey, filter_append,
    foldl_append]

theorem Hulls.run (casefold : String → String) (calls : List (List KeywordObservation)) :
    Hulls (run (keywordHistoryStep casefold) [] calls) (calls.flatMap (admitted casefold)) := by
  induction calls using reverseRecOn with
  | nil => exact ⟨keyed_nil key, fun k => rfl⟩
  | append_singleton calls call ih =>
    rw [run_concat, List.flatMap_append, List.flatMap_singleton]
    exact ih.step call

end

end Jawnix
