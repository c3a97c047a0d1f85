import Jawnix.Clock
import Jawnix.States

/-!
# Batch Artifacts

`generate_artifact` of `allocation.py`: the delivered rows are cut into parts,
written to one archive and recorded in one row per Batch Request. A second call for
the same request rebuilds the file under its recorded name.
-/
namespace Jawnix

structure Platform where
  casing : Casing
  digest : StoredFile → String
  byteCount : StoredFile → Nat
  /-- SHA-256 of a conflict snapshot's canonical JSON. -/
  checksum : InventorySnapshot → String
  batchDir : String
  batchRetentionDays : Int

variable (platform : Platform) (db : Db) (request : LeadRequest) (customer : Customer)

def artifactPath (request : LeadRequest) (customer : Customer) : String × String :=
  let dateText := isoDate request.createdAt
  let filename := s!"{customer.slug}_batch_{uuidText request.id}_{dateText}.zip"
  (platform.batchDir ++ "/" ++ dateText ++ "/" ++ filename, filename)

def csvRows (rows : List (String × String)) : List (String × String) :=
  rows.map fun row => (row.1, truncateUtf8 row.2)

def partRows (rows : List (String × String)) (rowsPerFile : Nat) :
    Except Fault (List (List (String × String))) :=
  if rowsPerFile = 0 then .error (.value "range() arg 3 must not be zero")
  else .ok (chunks rowsPerFile rows)

/-- `Path(filename).stem`: the last path component without its suffix. -/
def pathStem (filename : String) : String :=
  let name := (filename.toList.reverse.takeWhile fun c => c != '/').reverse
  let suffix := (name.reverse.takeWhile fun c => c != '.').length
  -- a leading dot or a trailing one starts no suffix
  if suffix + 1 < name.length ∧ 0 < suffix then ofList (name.take (name.length - suffix - 1))
  else ofList name

def freshPartNames (filename : String) (count : Nat) : List String :=
  (List.range count).map fun index => pathStem filename ++ "_part_" ++ padded 3 (index + 1) ++ ".csv"

def endsWith (s suffix : String) : Bool := suffix.toList.isSuffixOf s.toList

/-- A recorded artifact keeps its part names while the number of parts is the same. -/
def partNames (artifact : Option BatchArtifact) (filename : String) (legacyCsv : Bool)
    (count : Nat) : List String :=
  match artifact with
  | some a =>
    if a.parts.length = count then a.parts.map ArtifactPart.filename
    else if legacyCsv then [filename] else freshPartNames filename count
  | none => freshPartNames filename count

def writeFile (files : List StoredFile) (file : StoredFile) : List StoredFile :=
  files.filter (fun f => f.path ≠ file.path) ++ [file]

def fileParts (names : List String) (parts : List (List (String × String))) :
    List (String × List (String × String)) :=
  names.zip (parts.map csvRows)

def newArtifact (filename : String) (file : StoredFile)
    (rowCount : Nat) (metadata : List ArtifactPart) (now : Instant) : BatchArtifact :=
  { id := db.artifactSeq + 1
    requestId := request.id
    path := file.path
    filename
    rowCount
    parts := metadata
    byteCount := platform.byteCount file
    sha256 := platform.digest file
    createdAt := now
    expiresAt := some (now + days platform.batchRetentionDays) }

def rebuiltArtifact (file : StoredFile) (rowCount : Nat) (metadata : List ArtifactPart)
    (now : Instant) (a : BatchArtifact) : BatchArtifact :=
  { a with
    path := file.path
    rowCount
    parts := metadata
    byteCount := platform.byteCount file
    sha256 := platform.digest file
    createdAt := now
    expiresAt := some (now + days platform.batchRetentionDays) }

def artifactPlace : String × String :=
  match db.artifact? request.id with
  | none => artifactPath platform request customer
  | some a => (a.path, a.filename)

def legacyCsv : Bool :=
  (db.artifact? request.id).isSome && endsWith
    (platform.casing.lower (artifactPlace platform db request customer).2) ".csv"

def artifactParts (rows : List (String × String)) : Except Fault (List (List (String × String))) :=
  if legacyCsv platform db request customer then .ok [rows] else partRows rows request.rowsPerFile

def generateArtifact
    (rows : List (String × String)) (now : Instant) : Except Fault (Db × BatchArtifact) :=
  match artifactParts platform db request customer rows with
  | .error fault => .error fault
  | .ok parts =>
    let (path, filename) := artifactPlace platform db request customer
    let names := partNames (db.artifact? request.id) filename
      (legacyCsv platform db request customer) parts.length
    let metadata :=
      (names.zip parts).map (fun p => ({ filename := p.1, rowCount := p.2.length } : ArtifactPart))
    let file : StoredFile := { path, parts := fileParts names parts }
    let files := writeFile db.files file
    match db.artifact? request.id with
    | none =>
      let a := newArtifact platform db request filename file rows.length metadata now
      .ok ({ db with files, artifacts := db.artifacts ++ [a], artifactSeq := db.artifactSeq + 1 }, a)
    | some a =>
      let rebuild := rebuiltArtifact platform file rows.length metadata now
      .ok ({ db with files, artifacts := adjust BatchArtifact.requestId request.id rebuild db.artifacts },
        rebuild a)

/-- One artifact over exactly `rows` is on record for the request, with its file on disk; nothing
else has changed. -/
structure Filed (after : Db) (requestId : Uuid) (rows : List (String × String))
    (artifact : BatchArtifact) : Prop where
  frame : ∃ artifacts artifactSeq files, after = { db with artifacts, artifactSeq, files }
  recorded : after.artifact? requestId = some artifact
  others : ∀ other, other ≠ requestId → after.artifact? other = db.artifact? other
  keyed : Keyed BatchArtifact.requestId db.artifacts → Keyed BatchArtifact.requestId after.artifacts
  rowCount : artifact.rowCount = rows.length
  stored : ∃ file ∈ after.files, file.path = artifact.path ∧ (file.parts.map Prod.snd).flatten = csvRows rows

variable {platform : Platform} {db : Db} {request : LeadRequest} {customer : Customer}

theorem artifactParts_flatten {rows : List (String × String)} {parts : List (List (String × String))}
    (cut : artifactParts platform db request customer rows = .ok parts) :
    parts.flatten = rows ∧ (legacyCsv platform db request customer → parts.length = 1) := by
  unfold artifactParts at cut
  split at cut
  · cases cut
    simp
  case isFalse modern =>
  obtain ⟨positive, cut⟩ := guard_ok cut
  cases cut
  exact ⟨flatten_chunks (Nat.pos_of_ne_zero positive) rows, fun legacy => absurd legacy modern⟩

theorem partNames_length (artifact : Option BatchArtifact) (filename : String) {legacy : Bool} {count : Nat}
    (single : legacy → count = 1) : (partNames artifact filename legacy count).length = count := by
  unfold partNames
  split
  · split
    · simpa using ‹_›
    split
    · simp [single ‹_›]
    · simp [freshPartNames]
  · simp [freshPartNames]

theorem fileParts_rows {names : List String} {parts : List (List (String × String))}
    (lengths : names.length = parts.length) :
    ((fileParts names parts).map Prod.snd).flatten = csvRows parts.flatten := by
  have columns : (fileParts names parts).map Prod.snd = parts.map csvRows :=
    List.map_snd_zip (by simp [lengths])
  rw [columns]
  unfold csvRows
  exact List.map_flatten.symm

theorem generateArtifact_filed {after : Db} {rows : List (String × String)} {now : Instant}
    {artifact : BatchArtifact}
    (done : generateArtifact platform db request customer rows now = .ok (after, artifact)) :
    Filed db after request.id rows artifact := by
  unfold generateArtifact at done
  split at done
  · cases done
  case h_2 parts cut =>
  obtain ⟨whole, single⟩ := artifactParts_flatten cut
  have contents := fileParts_rows (partNames_length (db.artifact? request.id)
    (artifactPlace platform db request customer).2 single)
  rw [whole] at contents
  simp only at done
  split at done
  case h_1 absent =>
    cases done
    exact
      { frame := ⟨_, _, _, rfl⟩
        recorded := (lookup_append_new absent rfl request.id).trans (if_pos rfl)
        others := fun other differs => (lookup_append_new absent rfl other).trans (if_neg (Ne.symm differs))
        keyed := fun keyed => keyed_append.mpr ⟨keyed, lookup_none.mp absent⟩
        rowCount := rfl
        stored := ⟨_, mem_append_right _ (mem_singleton.mpr rfl), rfl, contents⟩ }
  case h_2 a found =>
  cases done
  have same : ∀ r : BatchArtifact, r.requestId = request.id → _ = r.requestId := fun r _ => rfl
  exact
    { frame := ⟨_, _, _, rfl⟩
      recorded := lookup_adjust_self same found
      others := fun other differs => lookup_adjust_of_ne same differs
      keyed := fun keyed => keyed_adjust same keyed
      rowCount := rfl
      stored := ⟨_, mem_append_right _ (mem_singleton.mpr rfl), rfl, contents⟩ }

end Jawnix
