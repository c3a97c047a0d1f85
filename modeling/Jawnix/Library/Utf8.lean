import Mathlib.Data.List.Basic

/-!
# UTF-8 octets

Encoding of characters into octets, and decoding that leaves malformed octets
out as Python's `errors="ignore"` does: a sequence that stops being well formed
is dropped up to the octet that breaks it, and one cut off by the end of the
input is dropped whole.
-/
namespace Utf8

open List
  (cons_prefix_cons drop_left flatMap_cons length_append length_cons nil_prefix prefix_rfl
    singleton_append take_append take_append_of_le_length take_of_length_le)

def encodeChar (c : Char) : List Nat :=
  let n := c.toNat
  if n < 0x80 then [n]
  else if n < 0x800 then [0xC0 + n / 64, 0x80 + n % 64]
  else if n < 0x10000 then [0xE0 + n / 4096, 0x80 + n / 64 % 64, 0x80 + n % 64]
  else [0xF0 + n / 262144, 0x80 + n / 4096 % 64, 0x80 + n / 64 % 64, 0x80 + n % 64]

def encode (cs : List Char) : List Nat := cs.flatMap encodeChar

def isTail (b : Nat) : Bool := decide (0x80 ≤ b ∧ b < 0xC0)

/-- The second octet excludes overlong forms, surrogates and what lies past U+10FFFF. -/
def isSecond (lead b : Nat) : Bool :=
  isTail b && decide ((lead = 0xE0 → 0xA0 ≤ b) ∧ (lead = 0xED → b < 0xA0) ∧
    (lead = 0xF0 → 0x90 ≤ b) ∧ (lead = 0xF4 → b < 0x90))

/-- The item that starts with octet `a`: its character, when it is well formed,
and how many of the octets after `a` it spans. -/
def item (a : Nat) (rest : List Nat) : Option Char × Nat :=
  if a < 0x80 then (some (Char.ofNat a), 0)
  else if 0xC2 ≤ a ∧ a < 0xE0 then
    match rest with
    | b :: _ => if isTail b then (some (Char.ofNat ((a - 0xC0) * 64 + (b - 0x80))), 1) else (none, 0)
    | [] => (none, 0)
  else if 0xE0 ≤ a ∧ a < 0xF0 then
    match rest with
    | b :: c :: _ =>
      if isSecond a b = false then (none, 0)
      else if isTail c then (some (Char.ofNat ((a - 0xE0) * 4096 + (b - 0x80) * 64 + (c - 0x80))), 2)
      else (none, 1)
    | b :: [] => (none, if isSecond a b then 1 else 0)
    | [] => (none, 0)
  else if 0xF0 ≤ a ∧ a < 0xF5 then
    match rest with
    | b :: c :: d :: _ =>
      if isSecond a b = false then (none, 0)
      else if isTail c = false then (none, 1)
      else if isTail d then
        (some (Char.ofNat ((a - 0xF0) * 262144 + (b - 0x80) * 4096 + (c - 0x80) * 64 + (d - 0x80))), 3)
      else (none, 2)
    | b :: c :: [] => (none, if isSecond a b = false then 0 else if isTail c then 2 else 1)
    | b :: [] => (none, if isSecond a b then 1 else 0)
    | [] => (none, 0)
  else (none, 0)

def decodeFrom : Nat → List Nat → List Char
  | 0, _ => []
  | _ + 1, [] => []
  | fuel + 1, a :: rest =>
    let (c, span) := item a rest
    c.toList ++ decodeFrom fuel (rest.drop span)

/-- Every item spans an octet, so the number of octets is enough fuel. -/
def decodeIgnore (octets : List Nat) : List Char := decodeFrom octets.length octets

theorem isTail_add (m : Nat) : isTail (0x80 + m % 64) := by
  unfold isTail
  exact decide_eq_true (by omega)

/-- A character is read back from its octets, and of octets cut off before the
last one nothing is read. -/
theorem item_encodeChar (c : Char) : ∃ a tail, encodeChar c = a :: tail ∧
    (∀ after, item a (tail ++ after) = (some c, tail.length)) ∧ ∀ n < tail.length,
    item a (tail.take n) = (none, n) := by
  have valid : c.toNat < 0xD800 ∨ 0xDFFF < c.toNat ∧ c.toNat < 0x110000 := c.valid
  have back := Char.ofNat_toNat c
  unfold encodeChar
  simp only
  generalize c.toNat = m at valid back
  -- one case for each length of the code
  split
  case isTrue one => exact ⟨_, _, rfl, fun _ => by simp [item, one, back], by simp⟩
  case isFalse one =>
  split
  case isTrue two =>
    have joined : m / 64 * 64 + m % 64 = m := by omega
    refine ⟨_, _, rfl, fun after => ?_, fun n cut => ?_⟩ <;> unfold item <;> rw [if_neg (by omega),
      if_pos (by omega)]
    · simp [isTail_add, joined, back]
    · obtain rfl : n = 0 := by simpa using cut
      rfl
  case isFalse two =>
  split
  case isTrue three =>
    have joined : m / 4096 * 4096 + m / 64 % 64 * 64 + m % 64 = m := by omega
    have second : isSecond (0xE0 + m / 4096) (0x80 + m / 64 % 64) := by
      simp only [isSecond, isTail_add, Bool.true_and, decide_eq_true_eq]
      omega
    refine ⟨_, _, rfl, fun after => ?_, fun n cut => ?_⟩ <;> unfold item <;>
      rw [if_neg (by omega), if_neg (by omega), if_pos (by omega)]
    · simp [second, isTail_add, joined, back]
    obtain rfl | rfl : n = 0 ∨ n = 1 := by simp at cut; omega
    · rfl
    · simp [second]
  case isFalse three =>
  have joined : m / 262144 * 262144 + m / 4096 % 64 * 4096 + m / 64 % 64 * 64 + m % 64 = m := by omega
  have second : isSecond (0xF0 + m / 262144) (0x80 + m / 4096 % 64) := by
    simp only [isSecond, isTail_add, Bool.true_and, decide_eq_true_eq]
    omega
  refine ⟨_, _, rfl, fun after => ?_, fun n cut => ?_⟩ <;> unfold item <;>
    rw [if_neg (by omega), if_neg (by omega), if_neg (by omega), if_pos (by omega)]
  · simp [second, isTail_add, joined, back]
  obtain rfl | rfl | rfl : n = 0 ∨ n = 1 ∨ n = 2 := by simp at cut; omega
  · rfl
  · simp [second]
  · simp [second, isTail_add]

/-- The longest prefix of the characters whose octets fit in the limit. -/
def fit : List Char → Nat → List Char
  | [], _ => []
  | c :: cs, limit => if (encodeChar c).length ≤ limit then c :: fit cs
      (limit - (encodeChar c).length) else []

variable {cs p : List Char} {n : Nat}

theorem fit_prefix : fit cs n <+: cs := by
  fun_induction fit cs n with
  | case1 => exact prefix_rfl
  | case2 n c cs fits ih => exact cons_prefix_cons.mpr ⟨rfl, ih⟩
  | case3 n c cs fits => exact nil_prefix

theorem length_encode_fit : (encode (fit cs n)).length ≤ n := by
  fun_induction fit cs n with
  | case1 => exact Nat.zero_le _
  | case2 n c cs fits ih =>
    simp only [encode, flatMap_cons, length_append] at ih ⊢
    omega
  | case3 => exact Nat.zero_le _

theorem prefix_fit (starts : p <+: cs) (fits : (encode p).length ≤ n) : p <+: fit cs n := by
  induction cs generalizing p n with
  | nil => exact starts
  | cons c cs ih =>
  cases p with
  | nil => exact nil_prefix
  | cons d p =>
    obtain ⟨rfl, within⟩ := cons_prefix_cons.mp starts
    simp only [encode, flatMap_cons, length_append] at fits
    rw [fit, if_pos (by omega)]
    exact cons_prefix_cons.mpr ⟨rfl, ih within (Nat.le_sub_of_add_le' fits)⟩

theorem fit_eq_self (fits : (encode cs).length ≤ n) : fit cs n = cs :=
  List.IsPrefix.eq_of_length_le fit_prefix (prefix_fit prefix_rfl fits).length_le

/-- Decoding leaves out of the octets of a text, cut anywhere, the character that was cut. -/
theorem decodeIgnore_take (cs : List Char) (n : Nat) : decodeIgnore ((encode cs).take n) = fit cs n := by
  have decodes : ∀ fuel, ((encode cs).take n).length ≤ fuel →
    decodeFrom fuel ((encode cs).take n) = fit cs n := by
    induction cs generalizing n with
    | nil => rintro (_ | fuel) _ <;> simp [encode, decodeFrom, fit]
    | cons c cs ih =>
    intro fuel enough
    obtain ⟨a, tail, octets, whole, cut⟩ := item_encodeChar c
    cases n with
    | zero => cases fuel <;> simp [decodeFrom, fit, octets]
    | succ n =>
    simp only [encode, flatMap_cons, octets, List.cons_append, List.take_succ_cons, length_cons] at enough ⊢
    obtain ⟨fuel, rfl⟩ : ∃ k, fuel = k + 1 := ⟨fuel - 1, by omega⟩
    rw [fit, octets, length_cons, decodeFrom]
    -- what is left after a whole character is again the cut text of characters
    by_cases fits : tail.length ≤ n
    · rw [take_append, take_of_length_le fits] at enough ⊢
      rw [whole, if_pos (by omega), Nat.add_sub_add_right]
      simp only [Option.toList_some, singleton_append, drop_left]
      rw [← encode, ih _ fuel (by simp only [encode, length_append] at enough ⊢; omega)]
    · rw [take_append_of_le_length (by omega), cut n (by omega), if_neg (by omega)]
      cases fuel <;> simp [decodeFrom]
  exact decodes _ Nat.le.refl

example : decodeIgnore (encode "a£€😀z".toList) = "a£€😀z".toList := by decide +kernel
example : decodeIgnore ((encode "a€".toList).take 3) = ['a'] := by decide +kernel

end Utf8
