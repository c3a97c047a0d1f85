import Mathlib.Data.List.Dedup
import Mathlib.Data.List.Sort
import Jawnix.Library.Utf8
import Jawnix.Models

/-!
# Licensed state codes and title texts

`states.py`: the accepted state codes, their normal form as a sorted list without
repetition, the normal form of a phone number, and the byte-bounded title written to
a Batch file. Case mapping and decimal digits are parameters.
-/
namespace Jawnix

def usStates : List String :=
  ["AL", "AK", "AZ", "AR", "CA", "CO", "CT", "DE", "DC", "FL", "GA", "HI", "ID", "IL", "IN", "IA", "KS",
   "KY", "LA", "ME", "MD", "MA", "MI", "MN", "MS", "MO", "MT", "NE", "NV", "NH", "NJ", "NM", "NY", "NC",
   "ND", "OH", "OK", "OR", "PA", "RI", "SC", "SD", "TN", "TX", "UT", "VT", "VA", "WA", "WV", "WI", "WY"]

/-- `sorted(values)`, by code points. -/
def sortedTexts (values : List String) : List String :=
  values.insertionSort fun a b => decide (List.le a.toList b.toList)

def sortedSet (values : List String) : List String := sortedTexts values.dedup

def normalizeStates (casing : Casing) (values : List String) : Except Fault (List String) :=
  let normalized := sortedSet
    ((values.filter fun v => strip v ≠ "").map fun v => casing.upper (strip v))
  let invalid := normalized.filter (fun s => s ∉ usStates)
  if invalid = [] then .ok normalized
  else .error (.value ("Unsupported state code(s): " ++ String.intercalate ", " invalid))

theorem mem_sortedSet {s : String} {values : List String} : s ∈ sortedSet values ↔ s ∈ values := by
  simp [sortedSet, sortedTexts, List.mem_insertionSort]

theorem code_normal : ∀ s ∈ usStates, strip s = s ∧ s ≠ "" ∧ s.toList.all Char.isUpper := by
  decide +kernel

section
variable {casing : Casing} {values normal : List String}

section
variable (done : normalizeStates casing values = .ok normal)
include done

theorem normalizeStates_codes : ∀ s ∈ normal, s ∈ usStates := by
  rw [normalizeStates] at done
  split at done
  case isTrue valid =>
    cases done
    intro s member
    simpa using filter_eq_nil_iff.mp valid s member
  · cases done

theorem normalizeStates_keeps {s : String} (member : s ∈ values) (code : s ∈ usStates) : s ∈ normal := by
  obtain ⟨stripped, visible, capitals⟩ := code_normal s code
  rw [normalizeStates] at done
  split at done
  · cases done
    refine mem_sortedSet.mpr (mem_map.mpr ⟨s, mem_filter.mpr ⟨member, ?_⟩, ?_⟩)
    · simpa [stripped] using visible
    · rw [stripped, casing.upperFixed s capitals]
  · cases done

theorem mem_of_normalizeStates (codes : ∀ v ∈ values, v ∈ usStates) {s : String}
    (member : s ∈ normal) : s ∈ values := by
  rw [normalizeStates] at done
  split at done
  · cases done
    obtain ⟨v, kept, rfl⟩ := mem_map.mp (mem_sortedSet.mp member)
    have inValues := (mem_filter.mp kept).1
    obtain ⟨stripped, _, capitals⟩ := code_normal v (codes v inValues)
    rw [stripped, casing.upperFixed v capitals]
    exact inValues
  · cases done

end

end

/-- Ten digits, after an optional leading `1`. `digit` are the characters `\d` matches. -/
def normalizePhone (digit : Char → Bool) (value : String) : Option String :=
  let digits := value.toList.filter digit
  let national := if digits.length = 11 ∧ digits.head? = some '1' then digits.drop 1 else digits
  if national.length = 10 then some (ofList national) else none

example : normalizePhone Char.isDigit "+1 (555) 123-4567" = some "5551234567" := by decide +kernel

variable (value : String)

/-- `truncate_utf8`, whose callers keep the default bound. -/
def truncateUtf8 (maxBytes : Nat := 180) : String :=
  let cleaned := value.toList.map (fun c => if c = '\r' ∨ c = '\n' then ' ' else c)
  let encoded := Utf8.encode cleaned
  if encoded.length ≤ maxBytes then ofList (Utf8.decodeIgnore encoded)
  else ofList (Utf8.decodeIgnore (encoded.take maxBytes))

def cleanTitle : List Char := value.toList.map (fun c => if c = '\r' ∨ c = '\n' then ' ' else c)

theorem toList_truncateUtf8 (n : Nat) : (truncateUtf8 value n).toList = Utf8.fit (cleanTitle value) n := by
  rw [← Utf8.decodeIgnore_take, cleanTitle]
  unfold truncateUtf8
  simp only
  split
  case isTrue fits => rw [String.toList_ofList, List.take_of_length_le fits]
  case isFalse => rw [String.toList_ofList]

theorem cleanTitle_eq_self {value title : String} (starts : title.toList <+: cleanTitle value) :
    cleanTitle title = title.toList := by
  refine List.map_congr_left (g := id) (fun c member => if_neg ?_) |>.trans (map_id _)
  obtain ⟨d, _, rfl⟩ := mem_map.mp (starts.subset member)
  split
  case isTrue => decide
  case isFalse other => exact other

/-- A title is cut to the longest prefix of its characters, as one line, whose
octets the limit holds, and a cut title is not cut again. -/
theorem truncateUtf8_longest (n : Nat) :
    (truncateUtf8 value n).toList <+: cleanTitle value ∧
    (Utf8.encode (truncateUtf8 value n).toList).length ≤ n ∧
      (∀ title, title <+: cleanTitle value → (Utf8.encode title).length ≤ n →
        title <+: (truncateUtf8 value n).toList) ∧
      truncateUtf8 (truncateUtf8 value n) n = truncateUtf8 value n := by
  have cut := toList_truncateUtf8 value n
  have starts : (truncateUtf8 value n).toList <+: cleanTitle value := cut ▸ Utf8.fit_prefix
  have short : (Utf8.encode (truncateUtf8 value n).toList).length ≤ n := cut ▸ Utf8.length_encode_fit
  refine ⟨starts, short, fun title within fits => cut ▸ Utf8.prefix_fit within fits,
    String.toList_injective ?_⟩
  rw [toList_truncateUtf8, cleanTitle_eq_self starts, Utf8.fit_eq_self short]

example : sortedSet ["TX", "CA", "TX"] = ["CA", "TX"] := by decide +kernel
example : truncateUtf8 "Caf\né €" 8 = "Caf é " := by decide +kernel

end Jawnix
