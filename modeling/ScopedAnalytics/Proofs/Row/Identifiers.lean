import ScopedAnalytics.Proofs.Numeral.Places
import ScopedAnalytics.Uuid

/-! Identifiers read back from their texts. -/
namespace ScopedAnalytics.Uuid
open Numeral

theorem without_eq_self {first : Char} {word cs : List Char} (absent : first ∉ cs) :
    without (first :: word) 0 cs = cs := by
  induction cs with
  | nil => rfl
  | cons c cs ih =>
    obtain ⟨other,rest⟩ := not_or.mp (mt List.mem_cons.mpr absent)
    have unlike : (first :: word).isPrefixOf (c :: cs) = false := by
      rw [List.isPrefixOf,beq_eq_false_iff_ne.mpr other,Bool.false_and]
    rw [without,unlike,ih rest]
    rfl

def digits (u : Uuid) : List Char := (places 16 32 u.value).map Nat.digitChar

theorem mem_digits {u : Uuid} {c : Char} (member : c ∈ u.digits) : ∃ d < 16, c = d.digitChar := by
  obtain ⟨d,inside,rfl⟩ := List.mem_map.mp member
  exact ⟨d,places_lt (by decide) _ _ d inside,rfl⟩

theorem plain_of_mem_digits {u : Uuid} {c : Char} (member : c ∈ u.digits) :
    Text.isBlank c = false ∧ c ∉ ['_','-','+','x','X','u','{','}'] := by
  obtain ⟨d,digit,rfl⟩ := mem_digits member
  exact (digitChar_plain d digit).2

section Groups
variable (u : Uuid)

/-- The digits from one place on that stand together in the text. -/
private def group (start count : Nat) : List Char := (u.digits.drop start).take count

private theorem value_lt : (u.value : Nat) < 16 ^ (31 + 1) :=
  Nat.lt_of_lt_of_eq u.value.isLt (by decide)

private theorem toList_text : u.text.toList =
    group u 0 8 ++ '-' :: group u 8 4 ++ '-' :: group u 12 4 ++ '-' :: group u 16 4 ++
      '-' :: group u 20 12 := by
  rw [text,hexDigits_eq_places (value_lt u),String.toList_ofList]
  rfl

private theorem mem_group {start count : Nat} {c : Char} (member : c ∈ group u start count) :
    c ∈ u.digits := List.mem_of_mem_drop (List.mem_of_mem_take member)

private theorem filter_group (start count : Nat) :
    (group u start count).filter (· != '-') = group u start count := by
  refine List.filter_eq_self.mpr fun c member => bne_iff_ne.mpr ?_
  rintro rfl
  exact absurd (plain_of_mem_digits (mem_group u member)).2 (by decide)

private theorem group_append (start count : Nat) :
    group u start count ++ u.digits.drop (start + count) = u.digits.drop start := by
  rw [group,← List.drop_drop,List.take_append_drop]

private theorem filter_text : u.text.toList.filter (· != '-') = u.digits := by
  have last : group u 20 12 = u.digits.drop 20 := List.take_of_length_le (by simp [digits])
  have apart : u.text.toList.filter (· != '-') =
      group u 0 8 ++ (group u 8 4 ++ (group u 12 4 ++ (group u 16 4 ++ group u 20 12))) := by
    simp [toList_text,filter_group]
  rw [apart,last,group_append,group_append,group_append,group_append,List.drop_zero]

private theorem mem_text {c : Char} (member : c ∈ u.text.toList) : c = '-' ∨ c ∈ u.digits := by
  by_cases hyphen : c = '-'
  · exact .inl hyphen
  · refine .inr (filter_text u ▸ List.mem_filter.mpr ⟨member,bne_iff_ne.mpr hyphen⟩)

end Groups

theorem core_text (u : Uuid) : core u.text.toList = u.digits := by
  have absent {c : Char} (mark : c ∈ ['u','{','}']) : c ∉ u.text.toList := by
    intro member
    rcases mem_text u member with rfl | digit
    · exact absurd mark (by decide)
    · have other := (plain_of_mem_digits digit).2
      simp only [List.mem_cons,List.not_mem_nil,or_false] at mark
      rcases mark with rfl | rfl | rfl <;> exact absurd other (by decide)
  have braces : ∀ c ∈ u.text.toList, isBrace c = false := by
    intro c member
    have opening : c ≠ '{' := fun same => absent (by decide) (same ▸ member)
    have closing : c ≠ '}' := fun same => absent (by decide) (same ▸ member)
    simp [isBrace,opening,closing]
  have noMark (word : List Char) : without ('u' :: word) 0 u.text.toList = u.text.toList :=
    without_eq_self (absent (by decide))
  unfold core
  simp only [show "urn:".toList = 'u' :: "rn:".toList from rfl,
    show "uuid:".toList = 'u' :: "uid:".toList from rfl,noMark,trim_eq_self braces]
  exact filter_text u

/-- The digits are read as they stand, for they hold no sign and no base mark. -/
theorem readHexInteger?_digits (u : Uuid) : readHexInteger? u.digits = some ((u.value : Nat) : Int) := by
  have blanks : Text.trimBlanks u.digits = u.digits :=
    trim_eq_self fun c member => (plain_of_mem_digits member).1
  obtain ⟨a,b,rest,same⟩ : ∃ a b rest, u.digits = a :: b :: rest := by
    match u.digits, (by simp [digits] : u.digits.length = 32) with
    | a :: b :: rest,_ => exact ⟨a,b,rest,rfl⟩
  have first := (plain_of_mem_digits (u := u) (c := a) (by simp [same])).2
  have second := (plain_of_mem_digits (u := u) (c := b) (by simp [same])).2
  simp only [List.mem_cons,List.not_mem_nil,or_false,not_or] at first second
  have sign : splitSign u.digits = (false,u.digits) := by
    rw [same,splitSign]
    · exact fun _ minus => first.2.1 (List.cons.inj minus).1
    · exact fun _ plus => first.2.2.1 (List.cons.inj plus).1
  have mark : skipBaseMark u.digits = u.digits := by
    simp [same,skipBaseMark,second]
  have values : readDigits? 16 u.digits = some (places 16 32 u.value) :=
    readDigits?_digitChar (places_lt (by decide) _ _) (by simp [places])
  rw [readHexInteger?,blanks,sign]
  simp only [mark,values,Option.map_some,ofDigits_places (value_lt u),signed,Bool.false_eq_true,
    if_false]

/-- An identifier is read from its text. -/
theorem read?_text (u : Uuid) : read? u.text.toList = some u := by
  have length : u.digits.length = 32 := by simp [digits]
  rw [read?,core_text]
  simp [length,readHexInteger?_digits,ofInt?]

end ScopedAnalytics.Uuid
