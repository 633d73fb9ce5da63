import ScopedAnalytics.Calendar.Date
import ScopedAnalytics.Text.Quoted

/-! Dates read from text: calendar dates `YYYY-MM-DD` or `YYYYMMDD` and week dates `YYYY-Www-D`,
`YYYYWwwD` or without the day, which then is Monday. The length is counted in bytes of UTF-8 and
has to be 7, 8 or 10; a compact form of ten bytes leaves its last bytes unread. -/
namespace ScopedAnalytics.Date

inductive Unreadable where
  | form (text : String)
  | year (year : Nat)
  | month
  | day
deriving DecidableEq, Repr

def Unreadable.message : Unreadable → String
  | form text => "Invalid isoformat string: " ++ quoted text
  | year n => "year " ++ toString n ++ " is out of range"
  | month => "month must be in 1..12"
  | day => "day is out of range for month"

def ofNumbers (year month day : Nat) : Except Unreadable Date :=
  if valid : Valid year month day then .ok ⟨year,month,day,valid⟩
  else if year < 1 ∨ 9999 < year then .error (.year year)
  else if month < 1 ∨ 12 < month then .error .month
  else .error .day

/-- The value of the first `count` bytes if they are ASCII digits, and the bytes after them. -/
def readDigitBytes? (count : Nat) (bytes : List UInt8) : Option (Nat × List UInt8) :=
  let digits := bytes.take count
  if digits.length = count ∧ digits.all (fun b => 48 ≤ b && b ≤ 57) then
    some (digits.foldl (fun value b => value * 10 + (b.toNat - 48)) 0,bytes.drop count)
  else none

/-- The month and day on the `dayOfYear`-th day of a year, counted from zero. -/
def monthAndDay (year dayOfYear : Nat) : Nat × Nat :=
  let rec walk (month rest : Nat) : Nat → Nat × Nat
    | 0 => (month,rest + 1)
    | months + 1 =>
      let days := Calendar.daysInMonth year month
      if rest < days then (month,rest + 1) else walk (month + 1) (rest - days) months
  walk 1 dayOfYear 11

/-- The weekday of the first of January, Monday being zero. -/
def firstWeekday (year : Nat) : Nat := Calendar.daysBeforeYear year % 7

/-- Whether a year has 53 weeks: it begins on a Thursday, or on a Wednesday in a leap year. -/
def hasLongWeeks (year : Nat) : Bool :=
  firstWeekday year == 3 || (firstWeekday year == 2 && Calendar.isLeap year)

/-- The date of a weekday, Monday being one, in a week. The first week is the one that holds the
first Thursday of the year, so its dates can lie in the years around. -/
def ofWeek (text : String) (year week weekday : Nat) : Except Unreadable Date :=
  let first := firstWeekday year
  if week < 1 ∨ 53 < week ∨ (week = 53 ∧ !hasLongWeeks year) ∨ weekday < 1 ∨ 7 < weekday then
    .error (.form text)
  else if year = 0 then .error .month
  else
    let start : Int := if first > 3 then 7 - first else -(first : Int)
    let offset := start + ((week - 1) * 7 + (weekday - 1) : Nat)
    let (year,dayOfYear) :=
      if offset < 0 then (year - 1,(offset + Calendar.daysInYear (year - 1)).toNat)
      else if offset < Calendar.daysInYear year then (year,offset.toNat)
      else (year + 1,(offset - Calendar.daysInYear year).toNat)
    let (month,day) := monthAndDay year dayOfYear
    ofNumbers year month day

/-- The week and weekday after the mark `W`. -/
def readWeek? (separated : Bool) (bytes : List UInt8) : Option (Nat × Nat) := do
  let (week,rest) ← readDigitBytes? 2 bytes
  match separated, rest with
  | _, [] => some (week,1)
  | true, mark :: rest => if mark = 45 then (readDigitBytes? 1 rest).map (week,·.1) else none
  | false, _ => (readDigitBytes? 1 rest).map (week,·.1)

def readMonthDay? (separated : Bool) (bytes : List UInt8) : Option (Nat × Nat) := do
  let (month,rest) ← readDigitBytes? 2 bytes
  match separated, rest with
  | true, mark :: rest => if mark = 45 then (readDigitBytes? 2 rest).map (month,·.1) else none
  | true, [] => none
  | false, _ => (readDigitBytes? 2 rest).map (month,·.1)

def read (text : String) : Except Unreadable Date :=
  let bytes := text.toUTF8.toList
  let unreadable := Except.error (.form text)
  if bytes.length = 7 ∨ bytes.length = 8 ∨ bytes.length = 10 then
    match readDigitBytes? 4 bytes with
    | none => unreadable
    | some (year,rest) =>
      let separated := rest.head? == some 45
      let rest := if separated then rest.drop 1 else rest
      if rest.head? = some 87 then
        match readWeek? separated (rest.drop 1) with
        | some (week,weekday) => ofWeek text year week weekday
        | none => unreadable
      else
        match readMonthDay? separated rest with
        | some (month,day) => ofNumbers year month day
        | none => unreadable
  else unreadable

end ScopedAnalytics.Date
