/-! Dates of the proleptic Gregorian calendar in the years 1 to 9999. -/
namespace ScopedAnalytics

namespace Calendar

/-- Leap years: every fourth, but of the centuries only every fourth. -/
def isLeap (year : Nat) : Bool :=
  year % 4 == 0 && (year % 100 != 0 || year % 400 == 0)

def daysInMonth (year month : Nat) : Nat :=
  if month = 2 then if isLeap year then 29 else 28
  else if month = 4 ∨ month = 6 ∨ month = 9 ∨ month = 11 then 30
  else 31

def daysInYear (year : Nat) : Nat := if isLeap year then 366 else 365

/-- The number of days of the years before the given one, from year 1 on. -/
def daysBeforeYear (year : Nat) : Nat :=
  let past := year - 1
  past * 365 + past / 4 - past / 100 + past / 400

/-- A number with at least `width` decimal digits. -/
def padded (width n : Nat) : List Char :=
  let digits := Nat.toDigits 10 n
  List.replicate (width - digits.length) '0' ++ digits

end Calendar

/-- Whether three numbers name a date. -/
def Date.Valid (year month day : Nat) : Prop :=
  (1 ≤ year ∧ year ≤ 9999) ∧ (1 ≤ month ∧ month ≤ 12) ∧
    (1 ≤ day ∧ day ≤ Calendar.daysInMonth year month)

instance (year month day : Nat) : Decidable (Date.Valid year month day) :=
  inferInstanceAs (Decidable (_ ∧ _ ∧ _))

structure Date where
  year : Nat
  month : Nat
  day : Nat
  valid : Date.Valid year month day
deriving DecidableEq, Repr

namespace Date

def ofParts? (year month day : Nat) : Option Date :=
  if valid : Valid year month day then some ⟨year,month,day,valid⟩ else none

def rank (d : Date) : Nat := (d.year * 13 + d.month) * 32 + d.day

instance : LT Date := ⟨fun a b => a.rank < b.rank⟩
instance : LE Date := ⟨fun a b => a.rank ≤ b.rank⟩
instance (a b : Date) : Decidable (a < b) := inferInstanceAs (Decidable (a.rank < b.rank))
instance (a b : Date) : Decidable (a ≤ b) := inferInstanceAs (Decidable (a.rank ≤ b.rank))

def isoChars (d : Date) : List Char :=
  Calendar.padded 4 d.year ++ '-' :: Calendar.padded 2 d.month ++ '-' :: Calendar.padded 2 d.day

def iso (d : Date) : String := String.ofList d.isoChars

end Date
end ScopedAnalytics
