import Mathlib.Data.List.TakeWhile

/-!
# Text handling

Python's `str.strip` and SQL's `trim`, on the characters of a string. Both cut a
maximal run of unwanted characters from either end; they differ in what they cut,
and a column check written with `trim` is met by a value stripped in Python.
-/
namespace Jawnix.Text

/-- Case mappings of the interpreter (`upper`, `lower`) and of the database (`sqlLower`),
which depend on Unicode tables and locale. -/
structure Casing where
  upper : String → String
  lower : String → String
  sqlLower : String → String
  /-- Latin capitals are their own upper case. -/
  upperFixed : ∀ s : String, s.toList.all Char.isUpper → upper s = s

variable (s : String)

theorem id_upperFixed (_ : s.toList.all Char.isUpper) : id s = s := rfl

def plainCasing : Casing := ⟨id, id, id, id_upperFixed⟩

def isSpace (c : Char) : Bool :=
  let n := c.toNat
  (9 ≤ n && n ≤ 13) || (28 ≤ n && n ≤ 32) || n == 0x85 || n == 0xA0 || n == 0x1680 ||
    (0x2000 ≤ n && n ≤ 0x200A) || n == 0x2028 || n == 0x2029 || n == 0x202F || n == 0x205F ||
    n == 0x3000

def trimList (cut : Char → Bool) (cs : List Char) : List Char :=
  ((cs.dropWhile cut).reverse.dropWhile cut).reverse

def trimBy (cut : Char → Bool) (s : String) : String := String.ofList (trimList cut s.toList)

def strip : String := trimBy isSpace s

/-- `trim(s)` in SQL, which removes the space character only. -/
def sqlTrim : String := trimBy (· == ' ') s

/-- `f"{n:,}"`: a comma before every third digit from the right. -/
def thousands (n : Nat) : String :=
  let rec commas : List Char → List Char
    | a :: b :: c :: d :: rest => a :: b :: c :: ',' :: commas (d :: rest)
    | short => short
  String.ofList (commas (toString n).toList.reverse).reverse

example : thousands 1234567 = "1,234,567" := by decide +kernel

variable {cs : List Char} {s : String}
variable {cut : Char → Bool}

theorem all_of_all_dropWhile (rest : ∀ c ∈ cs.dropWhile cut, cut c) : ∀ c ∈ cs, cut c := by
  intro c member
  rw [← List.takeWhile_append_dropWhile (p := cut) (l := cs), List.mem_append] at member
  rcases member with taken | dropped
  · exact List.mem_takeWhile_imp taken
  · exact rest c dropped

theorem trimList_eq_nil : trimList cut cs = [] ↔ ∀ c ∈ cs, cut c := by
  constructor
  · intro empty
    apply all_of_all_dropWhile
    have front : (cs.dropWhile cut).reverse.dropWhile cut = [] := by simpa [trimList] using empty
    simpa [List.dropWhile_eq_nil_iff] using front
  intro blank
  have front : cs.dropWhile cut = [] := List.dropWhile_eq_nil_iff.mpr blank
  simp [trimList, front]

theorem all_of_all_trimList (rest : ∀ c ∈ trimList cut cs, cut c) : ∀ c ∈ cs, cut c := by
  apply all_of_all_dropWhile
  have back : ∀ c ∈ (cs.dropWhile cut).reverse, cut c := by
    apply all_of_all_dropWhile
    intro c member
    exact rest c (by simpa [trimList] using member)
  intro c member
  exact back c (List.mem_reverse.mpr member)

theorem trimBy_eq_empty : trimBy cut s = "" ↔ ∀ c ∈ s.toList, cut c := by
  rw [← trimList_eq_nil, trimBy, ← String.toList_inj]
  simp

/-- A reason that survives `strip` also passes a column check on `trim(reason)`. -/
theorem sqlTrim_strip_ne_empty (kept : strip s ≠ "") : sqlTrim (strip s) ≠ "" := by
  intro blank
  apply kept
  have spaces : ∀ c ∈ trimList isSpace s.toList, (c == ' ') := by
    simpa [strip, trimBy] using trimBy_eq_empty.mp blank
  rw [strip, trimBy_eq_empty]
  apply all_of_all_trimList
  intro c member
  rw [beq_iff_eq.mp (spaces c member)]
  decide

end Jawnix.Text

namespace Jawnix

def clipped (n : Nat) (s : String) : String := String.ofList (s.toList.take n)

end Jawnix
