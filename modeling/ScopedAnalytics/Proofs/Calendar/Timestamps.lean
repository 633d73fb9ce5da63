import Mathlib.Data.List.Basic
import ScopedAnalytics.Calendar.Timestamp
import ScopedAnalytics.Proofs.Numeral.Places

/-! Points in time read back from their texts. -/
namespace ScopedAnalytics.DateTime
open Numeral

section Digits

private theorem digit_plain : ∀ d < 10, place d.digitChar = d ∧ Text.isDecimal d.digitChar = true ∧
    between '0' '9' d.digitChar = true ∧ d.digitChar ≠ 'Z' ∧ d.digitChar ≠ 'z' := by
  decide

private theorem readYear?_padded {year : Nat} (short : year < 10 ^ 4) (rest : List Char) :
    readYear? (Calendar.padded 4 year ++ rest) = some (year,rest) := by
  have digit (n : Nat) := digit_plain (n % 10) (Nat.mod_lt n (by decide))
  have whole := ofDigits_places short
  simp only [ofDigits,places,List.nil_append,List.cons_append,List.foldl_cons,List.foldl_nil,
    Nat.zero_mul,Nat.zero_add] at whole
  rw [padded_eq_places short]
  simp only [places,List.nil_append,List.cons_append,List.map_cons,List.map_nil,readYear?,
    List.all_cons,List.all_nil,digit,Bool.and_self,if_true,whole]

def Field.Takes (field : Field) (n : Nat) : Prop :=
  n < 100 ∧ field.pair (n / 10 % 10).digitChar (n % 10).digitChar = true

instance (field : Field) (n : Nat) : Decidable (field.Takes n) :=
  inferInstanceAs (Decidable (_ ∧ _))

private theorem Field.read?_padded {field : Field} {n : Nat} (takes : field.Takes n)
    (rest : List Char) : field.read? (Calendar.padded 2 n ++ rest) = some (n,rest) := by
  have short : n < 10 ^ 2 := takes.1
  have pair := takes.2
  have digit (m : Nat) := digit_plain (m % 10) (Nat.mod_lt m (by decide))
  have whole := ofDigits_places short
  simp only [ofDigits,places,List.nil_append,List.cons_append,List.foldl_cons,List.foldl_nil,
    Nat.zero_mul,Nat.zero_add] at whole
  rw [padded_eq_places short]
  simp only [places,List.nil_append,List.cons_append,List.map_cons,List.map_nil,Field.read?,pair,
    if_true,digit,whole]

end Digits

section Fields

theorem monthField_takes : ∀ n ≤ 12, 1 ≤ n → monthField.Takes n := by decide

theorem dayField_takes : ∀ n ≤ 31, 1 ≤ n → dayField.Takes n := by decide

theorem hourField_takes : ∀ n < 24, hourField.Takes n := by decide

theorem minuteField_takes : ∀ n < 60, minuteField.Takes n := by decide

theorem secondField_takes : ∀ n < 60, secondField.Takes n := by decide

end Fields

section Fraction

private theorem micros_digitChar (digits : List Nat) (small : ∀ d ∈ digits, d < 10) :
    (digits.map Nat.digitChar).foldl (fun value c => value * 10 + place c) 0 =
      ofDigits 10 digits := by
  rw [List.foldl_map,ofDigits]
  exact List.foldl_ext _ _ _ fun value d member => by rw [(digit_plain d (small d member)).1]

private theorem fractionMicros?_padded {micro : Nat} (short : micro < 10 ^ 6) :
    fractionMicros? (Calendar.padded 6 micro) = some micro := by
  have small : ∀ d ∈ places 10 6 micro, d < 10 := places_lt (by decide) 6 micro
  have ascii : (Calendar.padded 6 micro).all (between '0' '9') = true := by
    rw [padded_eq_places short,List.all_map,List.all_eq_true]
    exact fun d member => (digit_plain d (small d member)).2.2.1
  have length : (Calendar.padded 6 micro).length = 6 := by simp [padded_eq_places short]
  have some : (Calendar.padded 6 micro).isEmpty = false := by
    rw [List.isEmpty_eq_false_iff_exists_mem,← List.length_pos_iff_exists_mem,length]
    decide
  rw [fractionMicros?,ascii,length,some]
  rw [padded_eq_places short,micros_digitChar _ small,ofDigits_places short]
  simp

private theorem dropZone_padded {micro : Nat} (short : micro < 10 ^ 6) :
    dropZone ('.' :: Calendar.padded 6 micro) = '.' :: Calendar.padded 6 micro := by
  obtain ⟨_,_,_,other,other'⟩ := digit_plain (micro % 10) (Nat.mod_lt micro (by decide))
  have last : ('.' :: Calendar.padded 6 micro).getLast? = some (micro % 10).digitChar := by
    rw [padded_eq_places short,places,List.map_append,List.map_singleton,← List.cons_append,
      List.getLast?_concat]
  rw [dropZone,last]
  simp [other,other']

private theorem readTail?_iso {micro : Nat} (short : micro < 10 ^ 6) :
    readTail? (if micro = 0 then [] else '.' :: Calendar.padded 6 micro) = some micro := by
  split
  · rename_i zero
    rw [zero]
    rfl
  · rw [readTail?,dropZone_padded short]
    exact fractionMicros?_padded short

end Fraction

private theorem daysInMonth_le (year month : Nat) : Calendar.daysInMonth year month ≤ 31 := by
  unfold Calendar.daysInMonth
  repeat' split
  all_goals omega

theorem read?_iso (t : DateTime) : read? t.iso.toList = some t := by
  obtain ⟨⟨year,month,day,dateValid⟩,⟨hour,minute,second,micro,timeValid⟩⟩ := t
  obtain ⟨years,months,days⟩ := dateValid
  obtain ⟨hours,minutes,seconds,micros⟩ := timeValid
  have inMonth : day ≤ 31 := Nat.le_trans days.2 (daysInMonth_le year month)
  have text : (iso ⟨⟨year,month,day,⟨years,months,days⟩⟩,
      ⟨hour,minute,second,micro,⟨hours,minutes,seconds,micros⟩⟩⟩).toList =
      Calendar.padded 4 year ++ '-' :: (Calendar.padded 2 month ++ '-' ::
        (Calendar.padded 2 day ++ 'T' :: (Calendar.padded 2 hour ++ ':' ::
          (Calendar.padded 2 minute ++ ':' :: (Calendar.padded 2 second ++
            if micro = 0 then [] else '.' :: Calendar.padded 6 micro))))) := by
    simp [iso,textWith,Date.isoChars,TimeOfDay.isoChars]
  rw [read?,text,readYear?_padded (by omega)]
  simp only [Option.bind_eq_bind,Option.bind_some,skip?,List.contains_cons,beq_self_eq_true,
    Bool.true_or,if_true,readTail?_iso micros,Date.ofParts?,TimeOfDay.ofParts?,
    Field.read?_padded (monthField_takes month months.2 months.1),
    Field.read?_padded (dayField_takes day inMonth days.1),
    Field.read?_padded (hourField_takes hour hours),
    Field.read?_padded (minuteField_takes minute minutes),
    Field.read?_padded (secondField_takes second seconds)]
  rw [dif_pos ⟨years,months,days⟩,dif_pos ⟨hours,minutes,seconds,micros⟩]
  rfl

end ScopedAnalytics.DateTime
