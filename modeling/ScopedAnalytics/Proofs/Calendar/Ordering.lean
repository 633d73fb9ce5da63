import ScopedAnalytics.Calendar.DateTime

/-! The order of dates and of points in time. Ranks are numbers in mixed radix, so different times
have different ranks and the order is a strict linear one. -/
namespace ScopedAnalytics

namespace Calendar

theorem daysInMonth_le (year month : Nat) : daysInMonth year month ≤ 31 := by
  unfold daysInMonth
  split
  · split <;> omega
  · split <;> omega

end Calendar

namespace Date

theorem day_le (d : Date) : d.day ≤ 31 :=
  Nat.le_trans d.valid.2.2.2 (Calendar.daysInMonth_le d.year d.month)

theorem rank_injective {a b : Date} (same : a.rank = b.rank) : a = b := by
  have monthA := a.valid.2.1.2
  have monthB := b.valid.2.1.2
  have dayA := a.day_le
  have dayB := b.day_le
  simp only [rank] at same
  have day : a.day = b.day := by omega
  have month : a.month = b.month := by omega
  have year : a.year = b.year := by omega
  cases a
  cases b
  simp_all

end Date

namespace TimeOfDay

theorem rank_lt (t : TimeOfDay) : t.rank < 86400000000 := by
  obtain ⟨hour,minute,second,micro⟩ := t.valid
  simp only [rank]
  omega

theorem rank_injective {a b : TimeOfDay} (same : a.rank = b.rank) : a = b := by
  obtain ⟨hourA,minuteA,secondA,microA⟩ := a.valid
  obtain ⟨hourB,minuteB,secondB,microB⟩ := b.valid
  simp only [rank] at same
  have micro : a.micro = b.micro := by omega
  have second : a.second = b.second := by omega
  have minute : a.minute = b.minute := by omega
  have hour : a.hour = b.hour := by omega
  cases a
  cases b
  simp_all

end TimeOfDay

namespace DateTime

theorem rank_injective {a b : DateTime} (same : a.rank = b.rank) : a = b := by
  have boundA := a.time.rank_lt
  have boundB := b.time.rank_lt
  simp only [rank] at same
  have date : a.date = b.date := Date.rank_injective (by omega)
  have time : a.time = b.time := TimeOfDay.rank_injective (by omega)
  cases a
  cases b
  simp_all

theorem lt_def {a b : DateTime} : a < b ↔ a.rank < b.rank := Iff.rfl

theorem le_def {a b : DateTime} : a ≤ b ↔ a.rank ≤ b.rank := Iff.rfl

theorem lt_irrefl (a : DateTime) : ¬a < a := Nat.lt_irrefl a.rank

theorem ne_of_lt {a b : DateTime} (before : a < b) : a ≠ b := by
  intro same
  subst same
  exact lt_irrefl a before

theorem lt_trans {a b c : DateTime} (first : a < b) (second : b < c) : a < c :=
  Nat.lt_trans (lt_def.mp first) (lt_def.mp second)

theorem lt_of_not_lt {a b : DateTime} (different : a ≠ b) (notBefore : ¬a < b) : b < a := by
  have ranks : a.rank ≠ b.rank := fun same => different (rank_injective same)
  rw [lt_def] at notBefore ⊢
  omega

end DateTime
end ScopedAnalytics
