import ScopedAnalytics.Calendar.DateTime
import ScopedAnalytics.Text.DecimalDigit

/-! Timestamps read from text: `YYYY-MM-DDTHH:MM:SS` with an optional fraction of one to six ASCII
digits and an optional final `Z`. Letters stand in either case, month to second may have one digit,
a day of one digit may follow a space, and where a field's range allows every digit, a digit of any
script is taken. -/
namespace ScopedAnalytics.DateTime

/-- A field of a timestamp: the two-character forms it takes and the single ones. -/
structure Field where
  pair : Char → Char → Bool
  single : Char → Bool

def between (low high c : Char) : Bool := low ≤ c && c ≤ high

def monthField : Field where
  pair a b := (a == '1' && between '0' '2' b) || (a == '0' && between '1' '9' b)
  single := between '1' '9'

/-- Days are `1` to `31`; a space may stand before a single digit. -/
def dayField : Field where
  pair a b := (a == '3' && between '0' '1' b) || (between '1' '2' a && Text.isDecimal b) ||
    ((a == '0' || a == ' ') && between '1' '9' b)
  single := between '1' '9'

def hourField : Field where
  pair a b := (a == '2' && between '0' '3' b) || (between '0' '1' a && Text.isDecimal b)
  single := Text.isDecimal

def minuteField : Field where
  pair a b := between '0' '5' a && Text.isDecimal b
  single := Text.isDecimal

def secondField : Field where
  pair a b := (a == '6' && between '0' '1' b) || (between '0' '5' a && Text.isDecimal b)
  single := Text.isDecimal

/-- The value of a character in a number; a space counts nothing. -/
def place (c : Char) : Nat := (Text.decimalValue? c).getD 0

/-- The value of a field at the start of a text and the text after it, two characters if they
have the field's form and else one. -/
def Field.read? (field : Field) : List Char → Option (Nat × List Char)
  | a :: b :: rest =>
    if field.pair a b then some (place a * 10 + place b,rest)
    else if field.single a then some (place a,b :: rest) else none
  | [a] => if field.single a then some (place a,[]) else none
  | [] => none

/-- The text after a mark, which is one of the given characters. -/
def skip? (marks : List Char) : List Char → Option (List Char)
  | c :: rest => if marks.contains c then some rest else none
  | [] => none

/-- The year, which has four digits of any script. -/
def readYear? : List Char → Option (Nat × List Char)
  | a :: b :: c :: d :: rest =>
    if [a,b,c,d].all Text.isDecimal then
      some (((place a * 10 + place b) * 10 + place c) * 10 + place d,rest)
    else none
  | _ => none

def fractionMicros? (digits : List Char) : Option Nat :=
  if digits.isEmpty ∨ 6 < digits.length ∨ !digits.all (between '0' '9') then none
  else some (digits.foldl (fun value c => value * 10 + place c) 0 * Nat.pow 10 (6 - digits.length))

def dropZone (cs : List Char) : List Char :=
  if cs.getLast? = some 'Z' ∨ cs.getLast? = some 'z' then cs.dropLast else cs

def readTail? (cs : List Char) : Option Nat :=
  match dropZone cs with
  | [] => some 0
  | '.' :: digits => fractionMicros? digits
  | _ => none

def read? (cs : List Char) : Option DateTime := do
  let (year,cs) ← readYear? cs
  let (month,cs) ← skip? ['-'] cs >>= monthField.read?
  let (day,cs) ← skip? ['-'] cs >>= dayField.read?
  let (hour,cs) ← skip? ['T','t'] cs >>= hourField.read?
  let (minute,cs) ← skip? [':'] cs >>= minuteField.read?
  let (second,cs) ← skip? [':'] cs >>= secondField.read?
  let micro ← readTail? cs
  let date ← Date.ofParts? year month day
  let time ← TimeOfDay.ofParts? hour minute second micro
  return ⟨date,time⟩

end ScopedAnalytics.DateTime
