import ScopedAnalytics.Text.Blank
import ScopedAnalytics.Text.DecimalDigit

/-! Runs of digits, in which single underscores may separate digit from digit. -/
namespace ScopedAnalytics.Numeral

/-- The value of a digit in base sixteen or below: decimal digits of every script, then letters. -/
def digitValue? (c : Char) : Option Nat :=
  match Text.decimalValue? c with
  | some value => some value
  | none =>
    if 'a' ≤ c && c ≤ 'f' then some (c.toNat - 'a'.toNat + 10)
    else if 'A' ≤ c && c ≤ 'F' then some (c.toNat - 'A'.toNat + 10)
    else none

/-- The digits of the rest of a run. `resting` says that the character before was a digit: only
then may an underscore follow or the run end. -/
def digitsFrom? (base : Nat) (resting : Bool) : List Char → Option (List Nat)
  | [] => if resting then some [] else none
  | c :: rest =>
    if c = '_' then if resting then digitsFrom? base false rest else none
    else
      match (digitValue? c).filter (· < base) with
      | some digit => (digitsFrom? base true rest).map (digit :: ·)
      | none => none

/-- The digits of a run in the given base, most significant first. The run holds digits and
underscores only, begins and ends with a digit and has no two underscores side by side. -/
def readDigits? (base : Nat) (cs : List Char) : Option (List Nat) := digitsFrom? base false cs

def ofDigits (base : Nat) (digits : List Nat) : Nat :=
  digits.foldl (fun value digit => value * base + digit) 0

/-- A sign and what follows it. A missing sign is a plus. -/
def splitSign : List Char → Bool × List Char
  | '-' :: rest => (true,rest)
  | '+' :: rest => (false,rest)
  | rest => (false,rest)

end ScopedAnalytics.Numeral
