import ScopedAnalytics.Calendar.Date

/-! Points in time to the microsecond, without a time zone. -/
namespace ScopedAnalytics

def TimeOfDay.Valid (hour minute second micro : Nat) : Prop :=
  hour < 24 ∧ minute < 60 ∧ second < 60 ∧ micro < 1000000

instance (hour minute second micro : Nat) : Decidable (TimeOfDay.Valid hour minute second micro) :=
  inferInstanceAs (Decidable (_ ∧ _ ∧ _ ∧ _))

structure TimeOfDay where
  hour : Nat
  minute : Nat
  second : Nat
  micro : Nat
  valid : TimeOfDay.Valid hour minute second micro
deriving DecidableEq, Repr

namespace TimeOfDay

def ofParts? (hour minute second micro : Nat) : Option TimeOfDay :=
  if valid : Valid hour minute second micro then some ⟨hour,minute,second,micro,valid⟩ else none

def rank (t : TimeOfDay) : Nat := ((t.hour * 60 + t.minute) * 60 + t.second) * 1000000 + t.micro

/-- The characters of a time's text; a fraction of six digits appears unless it is zero. -/
def isoChars (t : TimeOfDay) : List Char :=
  Calendar.padded 2 t.hour ++ ':' :: Calendar.padded 2 t.minute ++ ':' ::
    Calendar.padded 2 t.second ++
    (if t.micro = 0 then [] else '.' :: Calendar.padded 6 t.micro)

end TimeOfDay

structure DateTime where
  date : Date
  time : TimeOfDay
deriving DecidableEq, Repr

namespace DateTime

def rank (t : DateTime) : Nat := t.date.rank * 86400000000 + t.time.rank

instance : LT DateTime := ⟨fun a b => a.rank < b.rank⟩
instance : LE DateTime := ⟨fun a b => a.rank ≤ b.rank⟩
instance (a b : DateTime) : Decidable (a < b) := inferInstanceAs (Decidable (a.rank < b.rank))
instance (a b : DateTime) : Decidable (a ≤ b) := inferInstanceAs (Decidable (a.rank ≤ b.rank))

def textWith (separator : Char) (t : DateTime) : String :=
  String.ofList (t.date.isoChars ++ separator :: t.time.isoChars)

/-- The text `YYYY-MM-DDTHH:MM:SS`, with a fraction unless that is zero. -/
def iso (t : DateTime) : String := t.textWith 'T'

def spaced (t : DateTime) : String := t.textWith ' '

end DateTime
end ScopedAnalytics
