import ScopedAnalytics.Proofs.Calendar.Ordering
import ScopedAnalytics.Proofs.Numeral.Places

/-! The texts of dates and of points in time, in the order of their characters. Numbers filled up to one
count of digits are ordered as their texts are, and the fields of a time stand in its text from the
longest to the shortest. Where one text has a fraction and the other none, the shorter one comes first. -/
namespace ScopedAnalytics

section Characters

theorem append_lt_append {front front' : List Char} (even : front.length = front'.length)
    (before : front < front') (rest rest' : List Char) : front ++ rest < front' ++ rest' := by
  induction front generalizing front' with
  | nil =>
    obtain rfl := List.length_eq_zero_iff.mp even.symm
    exact absurd before (List.lt_irrefl [])
  | cons c front ih =>
    cases front' with
    | nil => cases even
    | cons c' front' =>
      rw [List.cons_append,List.cons_append,List.cons_lt_cons_iff]
      rcases List.cons_lt_cons_iff.mp before with first | ⟨same,later⟩
      · exact .inl first
      · exact .inr ⟨same,ih (Nat.succ.inj even) later⟩

theorem digitChar_lt : ∀ n < 10, ∀ m < n, m.digitChar < n.digitChar := by decide

namespace Numeral

private theorem places_lt_places {width m n : Nat} (short : n < 10 ^ width) (less : m < n) :
    (places 10 width m).map Nat.digitChar < (places 10 width n).map Nat.digitChar := by
  -- On the width: what is left of the last digit decides, or else that digit does.
  induction width generalizing m n with
  | zero =>
    rw [Nat.pow_zero] at short
    omega
  | succ width ih =>
    simp only [places,List.map_append,List.map_singleton]
    have digit : n % 10 < 10 := Nat.mod_lt n (by decide)
    rcases Nat.lt_or_eq_of_le (Nat.div_le_div_right (c := 10) (Nat.le_of_lt less)) with
      front | front
    · have shorter : n / 10 < 10 ^ width := Nat.div_lt_of_lt_mul (by rwa [← Nat.pow_succ'])
      exact append_lt_append (by simp) (ih shorter front) _ _
    · have last : m % 10 < n % 10 := by omega
      rw [front]
      exact List.append_left_lt
        (List.cons_lt_cons_iff.mpr (.inl (digitChar_lt (n % 10) digit (m % 10) last)))

theorem length_padded {width n : Nat} (short : n < 10 ^ (width + 1)) :
    (Calendar.padded (width + 1) n).length = width + 1 := by
  simp [padded_eq_places short]

theorem padded_lt {width m n : Nat} (short : n < 10 ^ (width + 1)) (less : m < n) :
    Calendar.padded (width + 1) m < Calendar.padded (width + 1) n := by
  rw [padded_eq_places short,padded_eq_places (Nat.lt_trans less short)]
  exact places_lt_places short less

/-- Texts that begin with a number of so many digits are ordered by it, and then by what follows. -/
theorem padded_append_lt {width m n : Nat} {rest rest' : List Char} (short : n < 10 ^ (width + 1))
    (less : m < n ∨ m = n ∧ rest < rest') :
    Calendar.padded (width + 1) m ++ rest < Calendar.padded (width + 1) n ++ rest' := by
  rcases less with less | ⟨rfl,later⟩
  · have even : (Calendar.padded (width + 1) m).length = (Calendar.padded (width + 1) n).length := by
      rw [length_padded short,length_padded (Nat.lt_trans less short)]
    exact append_lt_append even (padded_lt short less) rest rest'
  · exact List.append_left_lt later

end Numeral

private theorem mark_lt {mark : Char} {rest rest' : List Char} (later : rest < rest') :
    mark :: rest < mark :: rest' := List.cons_lt_cons_iff.mpr (.inr ⟨rfl,later⟩)

/-- Texts that ascend with ranks are ordered as the ranks are, if no two things share a rank. -/
private theorem text_lt_iff {α : Type} {rank : α → Nat} {text : α → String}
    (injective : ∀ {a b}, rank a = rank b → a = b)
    (ascends : ∀ {a b}, rank a < rank b → text a < text b) {a b : α} :
    text a < text b ↔ rank a < rank b := by
  refine ⟨fun less => ?_,ascends⟩
  rcases Nat.lt_trichotomy (rank a) (rank b) with before | same | after
  · exact before
  · obtain rfl := injective same
    exact absurd less (List.lt_irrefl _)
  · exact absurd (ascends after) (List.lt_asymm less)

end Characters

namespace Date
variable {a b : Date}

theorem lt_iff : a < b ↔ a.year < b.year ∨
    a.year = b.year ∧ (a.month < b.month ∨ a.month = b.month ∧ a.day < b.day) := by
  -- A rank is a number with digits for year, month and day, so the bounds on the last two decide.
  have monthA := a.valid.2.1.2
  have monthB := b.valid.2.1.2
  have dayA := a.day_le
  have dayB := b.day_le
  change a.rank < b.rank ↔ _
  simp only [rank]
  omega

theorem length_isoChars (d : Date) : d.isoChars.length = 10 := by
  have year : d.year < 10 ^ (3 + 1) := Nat.lt_succ_of_le d.valid.1.2
  have month : d.month < 10 ^ (1 + 1) := Nat.lt_of_le_of_lt d.valid.2.1.2 (by decide)
  have day : d.day < 10 ^ (1 + 1) := Nat.lt_of_le_of_lt d.day_le (by decide)
  simp [isoChars,Numeral.length_padded year,Numeral.length_padded month,
    Numeral.length_padded day]

private theorem isoChars_lt (less : a < b) : a.isoChars < b.isoChars := by
  have year : b.year < 10 ^ (3 + 1) := Nat.lt_succ_of_le b.valid.1.2
  have month : b.month < 10 ^ (1 + 1) := Nat.lt_of_le_of_lt b.valid.2.1.2 (by decide)
  have day : b.day < 10 ^ (1 + 1) := Nat.lt_of_le_of_lt b.day_le (by decide)
  simp only [isoChars,List.append_assoc,List.cons_append]
  refine Numeral.padded_append_lt year ((lt_iff.mp less).imp_right fun ⟨same,later⟩ => ⟨same,?_⟩)
  refine mark_lt (Numeral.padded_append_lt month (later.imp_right fun ⟨same,last⟩ => ⟨same,?_⟩))
  exact mark_lt (Numeral.padded_lt day last)

theorem iso_lt : a.iso < b.iso ↔ a < b := by
  refine text_lt_iff rank_injective fun less => ?_
  rw [String.lt_iff,iso,iso,String.toList_ofList,String.toList_ofList]
  exact isoChars_lt less

theorem iso_le : a.iso ≤ b.iso ↔ a ≤ b := (not_congr iso_lt).trans Nat.not_lt

theorem iso_injective (same : a.iso = b.iso) : a = b := by
  have before := iso_le.mp (show a.iso ≤ b.iso from same ▸ List.lt_irrefl _)
  have after := iso_le.mp (show b.iso ≤ a.iso from same ▸ List.lt_irrefl _)
  exact rank_injective (Nat.le_antisymm before after)

end Date

namespace TimeOfDay
variable {a b : TimeOfDay}

theorem rank_lt_iff : a.rank < b.rank ↔ a.hour < b.hour ∨
    a.hour = b.hour ∧ (a.minute < b.minute ∨ a.minute = b.minute ∧
      (a.second < b.second ∨ a.second = b.second ∧ a.micro < b.micro)) := by
  obtain ⟨_,minuteA,secondA,microA⟩ := a.valid
  obtain ⟨_,minuteB,secondB,microB⟩ := b.valid
  simp only [rank]
  omega

/-- What is written of the microseconds. A text without them is the beginning of any other. -/
private theorem fraction_lt {m n : Nat} (short : n < 10 ^ 6) (less : m < n) :
    (if m = 0 then [] else '.' :: Calendar.padded 6 m) <
      if n = 0 then [] else '.' :: Calendar.padded 6 n := by
  rw [if_neg (Nat.ne_of_gt (Nat.zero_lt_of_lt less))]
  split
  · exact List.nil_lt_cons _ _
  · exact mark_lt (Numeral.padded_lt short less)

private theorem isoChars_lt (less : a.rank < b.rank) : a.isoChars < b.isoChars := by
  obtain ⟨hours,minutes,seconds,micros⟩ := b.valid
  have hour : b.hour < 10 ^ (1 + 1) := Nat.lt_trans hours (by decide)
  have minute : b.minute < 10 ^ (1 + 1) := Nat.lt_trans minutes (by decide)
  have second : b.second < 10 ^ (1 + 1) := Nat.lt_trans seconds (by decide)
  simp only [isoChars,List.append_assoc,List.cons_append]
  refine Numeral.padded_append_lt hour
    ((rank_lt_iff.mp less).imp_right fun ⟨same,later⟩ => ⟨same,mark_lt ?_⟩)
  refine Numeral.padded_append_lt minute (later.imp_right fun ⟨same,later⟩ => ⟨same,mark_lt ?_⟩)
  exact Numeral.padded_append_lt second
    (later.imp_right fun ⟨same,last⟩ => ⟨same,fraction_lt micros last⟩)

end TimeOfDay

namespace DateTime
variable {a b : DateTime}

theorem lt_iff : a < b ↔ a.date < b.date ∨ a.date = b.date ∧ a.time.rank < b.time.rank := by
  have boundA := a.time.rank_lt
  have boundB := b.time.rank_lt
  have dates : a.date = b.date ↔ a.date.rank = b.date.rank := ⟨congrArg _,Date.rank_injective⟩
  rw [dates]
  change a.rank < b.rank ↔ a.date.rank < b.date.rank ∨ _
  simp only [rank]
  omega

theorem iso_lt : a.iso < b.iso ↔ a < b := by
  refine text_lt_iff rank_injective fun {a b} less => ?_
  simp only [String.lt_iff,iso,textWith,String.toList_ofList]
  rcases lt_iff.mp less with date | ⟨same,time⟩
  · have even : a.date.isoChars.length = b.date.isoChars.length := by
      rw [Date.length_isoChars,Date.length_isoChars]
    exact append_lt_append even (Date.isoChars_lt date) _ _
  · rw [same]
    exact List.append_left_lt (mark_lt (TimeOfDay.isoChars_lt time))

end DateTime
end ScopedAnalytics
