import ScopedAnalytics.Numeral.Digits

/-! Integers as text: blanks around an optional sign and a run of decimal digits of any script.
A run of more than `digitLimit` digits is refused, and an integer that takes more has no text. -/
namespace ScopedAnalytics.Numeral

/-- The most decimal digits that an integer may be read from or written with. -/
def digitLimit : Nat := 4300

def overlong (digits : Nat) : String :=
  "Exceeds the limit (" ++ toString digitLimit ++
    " digits) for integer string conversion: value has " ++ toString digits ++
    " digits; use sys.set_int_max_str_digits() to increase the limit"

/-- Why an integer of too many digits has no text. -/
def unwritable : String :=
  "Exceeds the limit (" ++ toString digitLimit ++
    " digits) for integer string conversion; use sys.set_int_max_str_digits() to increase the limit"

def isWritable (n : Int) : Bool := (Nat.toDigits 10 n.natAbs).length ≤ digitLimit

/-- The text of an integer, if it has one. -/
def written? (n : Int) : Option String := if isWritable n then some (toString n) else none

def signed (negative : Bool) (magnitude : Nat) : Int :=
  if negative then -(magnitude : Int) else magnitude

def readInteger? (cs : List Char) : Option Int :=
  let (negative,run) := splitSign (Text.trimBlanks cs)
  match readDigits? 10 run with
  | none => none
  | some digits =>
    if digits.length ≤ digitLimit then some (signed negative (ofDigits 10 digits)) else none

/-- What follows a base mark, a zero of any script with an `x`, after which one underscore may
stand. -/
def skipBaseMark (cs : List Char) : List Char :=
  match cs with
  | zero :: mark :: rest =>
    if Text.decimalValue? zero = some 0 ∧ (mark = 'x' ∨ mark = 'X') then
      match rest with
      | '_' :: digits => digits
      | digits => digits
    else cs
  | _ => cs

def readHexInteger? (cs : List Char) : Option Int :=
  let (negative,run) := splitSign (Text.trimBlanks cs)
  (readDigits? 16 (skipBaseMark run)).map fun digits => signed negative (ofDigits 16 digits)

end ScopedAnalytics.Numeral
