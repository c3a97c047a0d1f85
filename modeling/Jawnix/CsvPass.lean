import Jawnix.LeadUploads

/-!
# One pass over an uploaded file

Where `csv_chunks` cuts depends on rows, octets and a modulus. What it yields does
not: the chunks in a row are the valid rows of the file, in file order. Within a
chunk the last row of a phone is the one that is kept.
-/
namespace Jawnix

section
variable (platform : ImportPlatform)

def readRows (columns : CsvColumns) (records : List (List String × Nat)) : List ImportRow :=
  records.filterMap fun record => (readRecord platform columns record).toOption

def validRows (reading : CsvReading) : List ImportRow :=
  match reading.header.bind (csvColumns platform.casing) with
  | none => []
  | some columns => readRows platform columns (numberedRecords reading)

structure CountsFile (reading : CsvReading) (p : Progress) : Prop where
  processed : p.processed = (numberedRecords reading).length
  valid : p.valid = (validRows platform reading).length
  split : p.processed = p.valid + p.rejected

/-- Where the generator stands after some records: nothing read is lost between what it has yielded
and what it holds. -/
structure Cutting.After (columns : CsvColumns) (records : List (List String × Nat)) (s : Cutting) :
    Prop where
  rows : s.chunks.flatMap Chunk.rows ++ s.rows = readRows platform columns records
  processed : s.progress.processed = records.length
  valid : s.progress.valid = (readRows platform columns records).length
  split : s.progress.processed = s.progress.valid + s.progress.rejected

variable {platform} {columns : CsvColumns} {records : List (List String × Nat)} {s : Cutting}

section
variable (after : s.After platform columns records)
include after

theorem Cutting.After.cut : s.cut.After platform columns records :=
  { after with rows := by simpa [Cutting.cut] using after.rows }

theorem Cutting.After.read (record : List String × Nat) :
    (s.read platform columns record).After platform columns (records ++ [record]) := by
  have split := after.split
  unfold Cutting.read
  cases outcome : readRecord platform columns record with
  | error reason =>
    have same : readRows platform columns (records ++ [record]) = readRows platform columns records := by
      simp [readRows, outcome, Except.toOption]
    refine ⟨?_, ?_, ?_, ?_⟩
    · rw [same]
      exact after.rows
    · simp [after.processed]
    · rw [same]
      exact after.valid
    · simp only
      omega
  | ok row =>
  have more : readRows platform columns (records ++ [record]) = readRows platform columns records ++
    [row] := by
    simp [readRows, outcome, Except.toOption]
  refine ⟨?_, ?_, ?_, ?_⟩
  · rw [more, ← after.rows, append_assoc]
  · simp [after.processed]
  · simp [more, after.valid]
  · simp only
    omega

theorem Cutting.After.next (record : List String × Nat) :
    (s.next platform columns record).After platform columns (records ++ [record]) := by
  unfold Cutting.next
  simp only
  split
  · exact (after.read record).cut
  · exact after.read record

end

theorem cutting_after (platform : ImportPlatform) (columns : CsvColumns)
    (records : List (List String × Nat)) :
    (records.foldl (Cutting.next platform columns) {}).After platform columns records := by
  induction records using reverseRecOn with
  | nil => exact ⟨rfl, rfl, rfl, rfl⟩
  | append_singleton records record ih =>
    rw [foldl_append, foldl_cons, foldl_nil]
    exact ih.next record

variable {reading : CsvReading}

theorem csvChunks_complete (ended : (csvChunks platform reading).failure = none) :
    (csvChunks platform reading).chunks.flatMap Chunk.rows = validRows platform reading ∧
    CountsFile platform reading (csvChunks platform reading).progress := by
  unfold csvChunks at ended ⊢
  cases header : reading.header with
  | none => simp [header] at ended
  | some fields =>
  simp only [header] at ended ⊢
  cases named : csvColumns platform.casing fields with
  | none => simp [named] at ended
  | some columns =>
  simp only [named] at ended ⊢
  have valid : validRows platform reading = readRows platform columns (numberedRecords reading) := by
    simp [validRows, header, named]
  have after := cutting_after platform columns (numberedRecords reading)
  split at ended
  · cases ended
  case isFalse whole =>
  rw [if_neg whole]
  split
  · refine ⟨?_, after.cut.processed, valid ▸ after.cut.valid, after.cut.split⟩
    rw [valid, ← after.cut.rows]
    simp [Cutting.cut]
  case isFalse flushed =>
  refine ⟨?_, after.processed, valid ▸ after.valid, after.split⟩
  rw [not_or, not_not] at flushed
  rw [valid, ← after.rows, flushed.1, append_nil]

theorem csvChunks_valid {chunk : Chunk} (yielded : chunk ∈ (csvChunks platform reading).chunks)
    {row : ImportRow} (member : row ∈ chunk.rows) : row ∈ validRows platform reading := by
  unfold csvChunks at yielded
  cases header : reading.header with
  | none => simp [header] at yielded
  | some fields =>
  simp only [header] at yielded
  cases named : csvColumns platform.casing fields with
  | none => simp [named] at yielded
  | some columns =>
  simp only [named] at yielded
  have valid : validRows platform reading = readRows platform columns (numberedRecords reading) := by
    simp [validRows, header, named]
  have after := cutting_after platform columns (numberedRecords reading)
  have within : ∀ t : Cutting, t.After platform columns (numberedRecords reading) →
      chunk ∈ t.chunks → row ∈ validRows platform reading := by
    intro t holds inChunks
    rw [valid, ← holds.rows]
    exact mem_append_left _ (List.mem_flatMap.mpr ⟨chunk, inChunks, member⟩)
  split at yielded
  · exact within _ after yielded
  split at yielded
  · exact within _ after.cut yielded
  · exact within _ after yielded

theorem get?_uniqueRows (rows : List ImportRow) (phone : String) :
    get? phone (uniqueRows rows) = latest ImportRow.phone phone rows := by
  simp [uniqueRows, Dict.get?_update_latest, get?]

theorem get?_of_mem_uniqueRows {rows : List ImportRow} {entry : String × ImportRow}
    (member : entry ∈ uniqueRows rows) : get? entry.1 (uniqueRows rows) = some entry.2 :=
  Dict.get?_of_mem (Dict.keys_update_nodup (d := []) nodup_nil rows) member

theorem mem_uniqueRows {rows : List ImportRow} {entry : String × ImportRow}
    (member : entry ∈ uniqueRows rows) : entry.2 ∈ rows ∧ entry.2.phone = entry.1 :=
  Rows.latest_some ((get?_uniqueRows rows entry.1).symm.trans (get?_of_mem_uniqueRows member))

theorem latest_uniqueRows (rows : List ImportRow) (phone : String) :
    latest ImportRow.phone phone ((uniqueRows rows).map Prod.snd) = latest ImportRow.phone phone rows := by
  rw [← get?_uniqueRows rows]
  cases kept : latest ImportRow.phone phone ((uniqueRows rows).map Prod.snd) with
  | some row =>
    obtain ⟨member, same⟩ := Rows.latest_some kept
    obtain ⟨entry, inDict, rfl⟩ := mem_map.mp member
    rw [← same, (mem_uniqueRows inDict).2, get?_of_mem_uniqueRows inDict]
  | none =>
    cases found : get? phone (uniqueRows rows) with
    | none => rfl
    | some row =>
      have member := mem_of_get? found
      exact absurd (mem_uniqueRows member).2 (Rows.latest_none.mp kept row (mem_map.mpr ⟨_, member, rfl⟩))

end

end Jawnix
