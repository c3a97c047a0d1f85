import Jawnix.Models

/-!
# Instants and identifiers as text

Day arithmetic on instants, the proleptic Gregorian date of a UTC instant, and
the canonical text of a UUID, as `timedelta`, `isoformat`, `strftime` and `str`
give them.
-/
namespace Jawnix

def microsecondsPerDay : Int := 86400000000
def days (n : Int) : Int := n * microsecondsPerDay
def seconds (n : Int) : Int := n * 1000000

structure CivilDate where
  year : Int
  month : Int
  day : Int
  deriving DecidableEq

variable (t : Instant)

/-- Years are counted from March, so that the leap day ends its year. -/
def civilDate : CivilDate :=
  let z := t / microsecondsPerDay + 719468
  let era := z / 146097
  let doe := z - era * 146097
  let yoe := (doe - doe / 1460 + doe / 36524 - doe / 146096) / 365
  let doy := doe - (365 * yoe + yoe / 4 - yoe / 100)
  let mp := (5 * doy + 2) / 153
  let month := if mp < 10 then mp + 3 else mp - 9
  { year := yoe + era * 400 + (if month ≤ 2 then 1 else 0)
    month
    day := doy - (153 * mp + 2) / 5 + 1 }

def padded (width : Nat) (n : Nat) : String :=
  let digits := toString n
  ofList (List.replicate (width - digits.length) '0') ++ digits

/-- `strftime("%Y-%m")` -/
def yearMonth : String :=
  let date := civilDate t
  padded 4 date.year.toNat ++ "-" ++ padded 2 date.month.toNat

/-- `date().isoformat()` -/
def isoDate : String := yearMonth t ++ "-" ++ padded 2 (civilDate t).day.toNat

def hexDigit (n : Nat) : Char := if n < 10 then Char.ofNat (48 + n) else Char.ofNat (87 + n)

/-- The low `width` hexadecimal digits, most significant first. -/
def hexDigits : Nat → Nat → List Char
  | 0, _ => []
  | width + 1, n => hexDigits width (n / 16) ++ [hexDigit (n % 16)]

/-- `str(uuid)`: 32 digits in groups of 8, 4, 4, 4 and 12. -/
def uuidText (id : Uuid) : String :=
  let cs := hexDigits 32 id
  ofList (cs.take 8 ++ ['-'] ++ (cs.drop 8).take 4 ++ ['-'] ++ (cs.drop 12).take 4 ++ ['-'] ++
    (cs.drop 16).take 4 ++ ['-'] ++ cs.drop 20)

example : isoDate 1700000000000000 = "2023-11-14" := by decide +kernel
example : uuidText 255 = "00000000-0000-0000-0000-0000000000ff" := by decide +kernel

end Jawnix
