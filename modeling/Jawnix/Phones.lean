import Jawnix.States

/-!
# The identity of a phone number

`normalize_phone` drops what `\D` matches, and `\d` matches the decimal digits
of every script. Those that are left are kept as they are written, so the
spellings of one number agree as long as its digits are ASCII.
-/
namespace Jawnix

/-- The decimal digits of the interpreter's Unicode tables, with their values. -/
structure DecimalDigits where
  value : Char → Option Nat
  below : ∀ {c n}, value c = some n → n < 10
  ascii : ∀ n < 10, value (Nat.digitChar n) = some n

namespace DecimalDigits

variable (digits : DecimalDigits)

def digit (c : Char) : Bool := (digits.value c).isSome
def values (text : String) : List Nat := text.toList.filterMap digits.value

def Ascii (text : String) : Prop :=
  ∀ c ∈ text.toList, digits.digit c → c.isDigit

end DecimalDigits

/-- The digit values of a number without its country code. -/
def nationalValues (values : List Nat) : List Nat :=
  if values.length = 11 ∧ values.head? = some 1 then values.drop 1 else values

/-- The same digit values in any script, with or without a leading 1. -/
def SameNumber (digits : DecimalDigits) (v w : String) : Prop :=
  nationalValues (digits.values v) = nationalValues (digits.values w)

/-- What is returned is ten ASCII digits and its own normal form. -/
def CanonicalPhone (digits : DecimalDigits) (v : String) : Prop :=
  ∀ phone, normalizePhone digits.digit v = some phone →
    phone.toList.length = 10 ∧ phone.toList.all Char.isDigit ∧ normalizePhone digits.digit phone = some phone

/-- The digits are ASCII, or they are no phone number in any script. -/
def PlainPhone (digits : DecimalDigits) (v : String) : Prop :=
  digits.Ascii v ∨ (nationalValues (digits.values v)).length ≠ 10

def spelledPhone (values : List Nat) : Option String :=
  if (nationalValues values).length = 10 then
    some (ofList ((nationalValues values).map Nat.digitChar)) else none

section
variable {digits : DecimalDigits} {c : Char} {n : Nat} {chars : List Char} {values : List Nat} {v w : String}

theorem isDigit_bounds (plain : c.isDigit) : 48 ≤ c.toNat ∧ c.toNat ≤ 57 := by
  simpa [Char.isDigit, UInt32.le_iff_toNat_le] using plain

theorem exists_digitChar (plain : c.isDigit) : ∃ n < 10, c = Nat.digitChar n := by
  obtain ⟨low, high⟩ := isDigit_bounds plain
  refine ⟨c.toNat - 48, by omega, Char.toNat_inj.mp ?_⟩
  rw [Nat.toNat_digitChar_of_lt_ten (by omega)]
  omega

theorem isDigit_digitChar : ∀ n < 10, (Nat.digitChar n).isDigit := by decide
theorem digitChar_eq_one : ∀ n < 10, Nat.digitChar n = '1' ↔ n = 1 := by decide

theorem kept_values (digits : DecimalDigits) (text : List Char) :
    List.Forall₂ (fun c n => digits.value c = some n) (text.filter digits.digit)
    (text.filterMap digits.value) := by
  induction text with
  | nil => exact .nil
  | cons c rest ih =>
    cases known : digits.value c with
    | none => simpa [DecimalDigits.digit, known] using ih
    | some n => simpa [DecimalDigits.digit, known] using ih

theorem values_below (digits : DecimalDigits) (v : String) : ∀ n ∈ digits.values v, n < 10 := by
  intro n member
  obtain ⟨c, _, known⟩ := mem_filterMap.mp member
  exact digits.below known

theorem chars_of_ascii (corresponds : List.Forall₂ (fun c n => digits.value c = some n) chars values)
    (plain : ∀ c ∈ chars, c.isDigit) : chars = values.map Nat.digitChar := by
  induction corresponds with
  | nil => rfl
  | @cons c n chars values known _ ih =>
    obtain ⟨m, small, same⟩ := exists_digitChar (plain c mem_cons_self)
    rw [same, digits.ascii m small] at known
    cases known
    rw [map_cons, ← same, ← ih fun x member => plain x (mem_cons_of_mem c member)]

theorem values_spelled (digits : DecimalDigits) (small : ∀ n ∈ values, n < 10) :
    digits.values (ofList (values.map Nat.digitChar)) = values := by
  unfold DecimalDigits.values
  rw [String.toList_ofList, List.filterMap_map]
  induction values with
  | nil => rfl
  | cons n rest ih =>
    have head : (digits.value ∘ Nat.digitChar) n = some n := digits.ascii n (small n mem_cons_self)
    rw [List.filterMap_cons_some head, ih fun m member => small m (mem_cons_of_mem n member)]

theorem ascii_spelled (digits : DecimalDigits) (small : ∀ n ∈ values, n < 10) :
    digits.Ascii (ofList (values.map Nat.digitChar)) := by
  intro c member _
  rw [String.toList_ofList] at member
  obtain ⟨n, inValues, rfl⟩ := mem_map.mp member
  exact isDigit_digitChar n (small n inValues)

theorem nationalValues_ten (ten : values.length = 10) : nationalValues values = values := by
  unfold nationalValues
  rw [if_neg fun eleven => by omega]

theorem nationalValues_below (small : ∀ n ∈ values, n < 10) : ∀ n ∈ nationalValues values, n < 10 := by
  intro n member
  unfold nationalValues at member
  split at member
  · exact small n (List.mem_of_mem_drop member)
  · exact small n member

/-- The national digits the code keeps correspond to the national values, except behind a country
code in another script. -/
theorem national_chars (corresponds : List.Forall₂ (fun c n => digits.value c = some n) chars values)
    (length : (if chars.length = 11 ∧ chars.head? = some '1' then chars.drop 1 else chars).length = 10) :
    (nationalValues values).length = 10 := by
  have one : digits.value '1' = some 1 := digits.ascii 1 (by decide)
  have same := corresponds.length_eq
  unfold nationalValues
  split at length
  case isTrue code =>
    cases corresponds with
    | nil => cases code.1
    | @cons c n chars values known _ =>
      have head : c = '1' := by simpa using code.2
      rw [head, one] at known
      cases known
      rw [if_pos ⟨same.symm.trans code.1, rfl⟩, List.length_drop, ← same, code.1]
  case isFalse =>
  rw [if_neg fun eleven => by omega]
  omega

theorem normalizePhone_plain (plain : PlainPhone digits v) :
    normalizePhone digits.digit v = spelledPhone (digits.values v) := by
  have corresponds : List.Forall₂ _ (v.toList.filter digits.digit) (digits.values v) :=
    kept_values digits v.toList
  unfold normalizePhone spelledPhone
  simp only
  rcases plain with ascii | short
  · have chars := chars_of_ascii corresponds fun c member => by
      obtain ⟨inText, matched⟩ := mem_filter.mp member
      exact ascii c inText matched
    have head : (digits.values v).head?.map Nat.digitChar = some '1' ↔ (digits.values v).head? = some 1 := by
      cases known : (digits.values v).head? with
      | none => simp
      | some n => simp [digitChar_eq_one n (values_below digits v n (List.mem_of_mem_head? known))]
    rw [chars, length_map, List.head?_map, nationalValues, ← List.map_drop]
    simp only [head]
    split <;> simp
  · rw [if_neg short, if_neg fun ten => short (national_chars corresponds ten)]

theorem canonical_of_plain (plain : PlainPhone digits v) : CanonicalPhone digits v := by
  intro phone normal
  rw [normalizePhone_plain plain, spelledPhone] at normal
  split at normal
  case isTrue ten =>
    cases normal
    have small := nationalValues_below (values_below digits v)
    refine ⟨by simpa using ten, ?_, ?_⟩
    · simp only [String.toList_ofList, List.all_map, List.all_eq_true]
      exact fun n member => isDigit_digitChar n (small n member)
    · rw [normalizePhone_plain (.inl (ascii_spelled digits small)), values_spelled digits small,
        spelledPhone, nationalValues_ten ten, if_pos ten]
  case isFalse => cases normal

/-- Against its ASCII spelling, a number in another script shows that it is not canonical. -/
theorem plain_of_agrees (agrees : ∀ w, digits.Ascii w → SameNumber digits v w →
    normalizePhone digits.digit v = normalizePhone digits.digit w) : PlainPhone digits v := by
  by_cases ten : (nationalValues (digits.values v)).length = 10
  case neg => exact .inr ten
  case pos =>
  have small := nationalValues_below (values_below digits v)
  have ascii := ascii_spelled digits small
  have spelled := values_spelled digits small
  have same := agrees _ ascii (by rw [SameNumber, spelled, nationalValues_ten ten])
  rw [normalizePhone_plain (.inl ascii), spelled, spelledPhone, nationalValues_ten ten, if_pos ten] at same
  refine .inl fun c member matched => ?_
  have kept := mem_filter.mpr ⟨member, matched⟩
  have national : ∀ x ∈ (nationalValues (digits.values v)).map Nat.digitChar, x.isDigit := by
    intro x inside
    obtain ⟨n, inValues, rfl⟩ := mem_map.mp inside
    exact isDigit_digitChar n (small n inValues)
  simp only [normalizePhone, Option.ite_none_right_eq_some, some.injEq] at same
  rw [← String.ofList_injective same.2] at national
  split at national
  case isTrue code =>
    -- the digit that was dropped is an ASCII one
    cases digitsOf : v.toList.filter digits.digit with
    | nil =>
      rw [digitsOf] at kept
      cases kept
    | cons first rest =>
    rw [digitsOf] at kept code national
    rcases mem_cons.mp kept with rfl | later
    · have one : c = '1' := by simpa using code.2
      rw [one]
      rfl
    · exact national c later
  case isFalse => exact national c kept

end

/-- A phone number is canonical, and agrees with its ASCII spellings, exactly when its digits are
ASCII; all numbers whose digits are ASCII then have one normal form for each sequence of values. -/
theorem phone_canonical_iff (digits : DecimalDigits) :
    (∀ v, (CanonicalPhone digits v ∧ ∀ w, digits.Ascii w → SameNumber digits v w →
      normalizePhone digits.digit v = normalizePhone digits.digit w) ↔ PlainPhone digits v) ∧
    ∀ v w, PlainPhone digits v → PlainPhone digits w → SameNumber digits v w →
      normalizePhone digits.digit v = normalizePhone digits.digit w := by
  have one : ∀ v w, PlainPhone digits v → PlainPhone digits w → SameNumber digits v w →
      normalizePhone digits.digit v = normalizePhone digits.digit w := by
    intro v w plainV plainW same
    rw [normalizePhone_plain plainV, normalizePhone_plain plainW, spelledPhone, spelledPhone, same]
  refine ⟨fun v => ⟨fun agrees => plain_of_agrees agrees.2, fun plain => ?_⟩, one⟩
  exact ⟨canonical_of_plain plain, fun w ascii same => one v w plain (.inl ascii) same⟩

def wideValue (c : Char) : Option Nat :=
  if c.isDigit then some (c.toNat - 48)
  else if 0xFF10 ≤ c.toNat ∧ c.toNat ≤ 0xFF19 then some (c.toNat - 0xFF10) else none

theorem wideValue_below {c : Char} {n : Nat} (known : wideValue c = some n) : n < 10 := by
  unfold wideValue at known
  split at known
  case isTrue plain =>
    cases known
    have bounds := isDigit_bounds plain
    omega
  case isFalse =>
  split at known
  case isTrue wide =>
    have same := some.inj known
    omega
  case isFalse => cases known

def wideDigits : DecimalDigits := ⟨wideValue, wideValue_below, by decide⟩

/-- A number that begins with a fullwidth digit is returned as it is written, and is another Lead
than the same number in ASCII. -/
theorem phone_fullwidth : SameNumber wideDigits "５55-123-4567" "(555) 123-4567" ∧
      normalizePhone wideDigits.digit "５55-123-4567" = some "５551234567" ∧
      normalizePhone wideDigits.digit "(555) 123-4567" = some "5551234567" ∧
      ¬CanonicalPhone wideDigits "５55-123-4567" := by
  refine ⟨by unfold SameNumber; decide +kernel, by decide +kernel, by decide +kernel, fun canonical => ?_⟩
  have ascii := (canonical "５551234567" (by decide +kernel)).2.1
  revert ascii
  decide +kernel

end Jawnix
