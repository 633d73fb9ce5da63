import ScopedAnalytics.Json.Writer
import ScopedAnalytics.Text.Lines

/-! JSON values that are written on one line. Nothing but printable ASCII is written, whatever letters
the texts of a value hold, so none of its characters ends a line. -/
namespace ScopedAnalytics

def IsPrintable (c : Char) : Prop := 0x20 ≤ c.toNat ∧ c.toNat < 0x7F

instance (c : Char) : Decidable (IsPrintable c) := inferInstanceAs (Decidable (_ ∧ _))

def ArePrintable (cs : List Char) : Prop := ∀ c ∈ cs, IsPrintable c

instance (cs : List Char) : Decidable (ArePrintable cs) := List.decidableBAll IsPrintable cs

section Characters
variable {c : Char} {cs ds : List Char}

theorem ArePrintable.append (first : ArePrintable cs) (second : ArePrintable ds) :
    ArePrintable (cs ++ ds) := by
  intro c member
  rcases List.mem_append.mp member with before | after
  · exact first c before
  · exact second c after

theorem ArePrintable.cons (first : IsPrintable c) (rest : ArePrintable cs) : ArePrintable (c :: cs) :=
  List.forall_mem_cons.mpr ⟨first,rest⟩

theorem ArePrintable.sublist (kept : ArePrintable cs) (part : ds.Sublist cs) : ArePrintable ds :=
  fun c member => kept c (part.subset member)

theorem arePrintable_replicate (count : Nat) (printable : IsPrintable c) :
    ArePrintable (List.replicate count c) := by
  intro d member
  rw [List.eq_of_mem_replicate member]
  exact printable

theorem arePrintable_toDigits {base : Nat} (several : 1 < base) (small : base ≤ 16) (n : Nat) :
    ArePrintable (Nat.toDigits base n) := by
  have digit : ∀ d < 16, IsPrintable (Nat.digitChar d) := by decide
  induction n using Nat.strongRecOn with
  | ind n ih =>
    have last : IsPrintable (n % base).digitChar :=
      digit _ (Nat.lt_of_lt_of_le (Nat.mod_lt n (by omega)) small)
    rw [Nat.toDigits_eq_if several]
    split
    · rename_i single
      rw [Nat.mod_eq_of_lt single] at last
      exact .cons last (by decide)
    · rename_i more
      have front := ih (n / base) (Nat.div_lt_self (by omega) several)
      exact front.append (.cons last (by decide))

theorem arePrintable_decimal (n : Nat) : ArePrintable (Nat.toDigits 10 n) :=
  arePrintable_toDigits (by decide) (by decide) n

theorem endsLine_eq_false (printable : IsPrintable c) : Text.endsLine c = false := by
  have apart : ∀ d : Char, d.toNat < 0x20 ∨ 0x7F ≤ d.toNat → c ≠ d := by
    rintro _ outside rfl
    unfold IsPrintable at printable
    omega
  have beyond (d : Char) (control : d.toNat < 0x20) : ¬c ≤ d := by
    intro below
    have : c.toNat ≤ d.toNat := below
    unfold IsPrintable at printable
    omega
  simp [Text.endsLine,beyond,apart]

/-- Printable characters with a line end after them are a line. -/
theorem lines_append (printable : ArePrintable cs) (rest : List Char) :
    Text.lines (cs ++ '\n' :: rest) = cs :: Text.lines rest := by
  induction cs with
  | nil => rfl
  | cons c cs ih =>
    have after := ih (List.forall_mem_cons.mp printable).2
    have here := endsLine_eq_false (List.forall_mem_cons.mp printable).1
    have apart : c ≠ '\r' := by
      rintro rfl
      cases here
    rw [List.cons_append,Text.lines,here,after]
    · rfl
    · intro more returns
      exact absurd returns apart

end Characters

namespace Binary64
variable {digits : List Char}

theorem arePrintable_exponent (exponent : Int) : ArePrintable (exponentText exponent) := by
  unfold exponentText
  have digits := arePrintable_decimal exponent.natAbs
  refine .cons (by split <;> decide) ?_
  split
  · exact digits.cons (by decide)
  · exact digits

theorem arePrintable_layout (printable : ArePrintable digits) (point : Int) :
    ArePrintable (layout digits point) := by
  have zeros (count : Nat) := arePrintable_replicate count (show IsPrintable '0' by decide)
  have front (count : Nat) := printable.sublist (List.take_sublist count digits)
  have back (count : Nat) := printable.sublist (List.drop_sublist count digits)
  have nothing : ArePrintable [] := by decide
  unfold layout
  dsimp only
  split
  · refine ((front 1).append ?_).append ((arePrintable_exponent _).cons (by decide))
    split
    · exact nothing
    · exact (back 1).cons (by decide)
  · split
    · exact (((zeros _).cons (by decide)).cons (by decide)).append printable
    · refine ((front _).append (zeros _)).append (.cons (by decide) ?_)
      split
      · exact nothing.cons (by decide)
      · exact back _

theorem arePrintable_places (d : Decimal) : ArePrintable d.places.1 := by
  have kept := (List.dropWhile_sublist (· == '0') (l := (Nat.toDigits 10 d.digits).reverse)).reverse
  rw [List.reverse_reverse] at kept
  exact (arePrintable_decimal d.digits).sublist kept

theorem arePrintable_text (x : Binary64) : ArePrintable x.text.toList := by
  cases x with
  | nan => decide
  | infinite negative => cases negative <;> decide
  | finite negative significand power =>
    rw [text,String.toList_ofList]
    dsimp only
    have magnitude : ArePrintable (if significand = 0 then ['0','.','0'] else
        layout (shortest (finite negative significand power).units).places.1
          (shortest (finite negative significand power).units).places.2) := by
      split
      · decide
      · exact arePrintable_layout (arePrintable_places _) _
    split
    · exact magnitude.cons (by decide)
    · exact magnitude

end Binary64

namespace Json

def Prints (text : String) : Prop := ArePrintable text.toList

instance (text : String) : Decidable (Prints text) := inferInstanceAs (Decidable (ArePrintable _))

section Texts
variable {first second : String}

theorem Prints.append (before : Prints first) (after : Prints second) : Prints (first ++ second) := by
  rw [Prints,String.toList_append]
  exact ArePrintable.append before after

theorem prints_separated {separator : String} (between : Prints separator) {items : List String}
    (printable : ∀ item ∈ items, Prints item) : Prints (separated separator items) := by
  induction items with
  | nil => exact fun c member => by cases member
  | cons item items ih =>
    obtain ⟨here,rest⟩ := List.forall_mem_cons.mp printable
    cases items with
    | nil => exact here
    | cons next items => exact (here.append between).append (ih rest)

theorem arePrintable_unitEscape (code : Nat) : ArePrintable (unitEscape code) := by
  have digits := arePrintable_toDigits (show 1 < 16 by decide) (by decide) code
  have zeros := arePrintable_replicate (4 - (Nat.toDigits 16 code).length)
    (show IsPrintable '0' by decide)
  exact ((zeros.append digits).cons (by decide)).cons (by decide)

theorem arePrintable_letter (letter : Letter) : ArePrintable (writtenLetter letter) := by
  unfold writtenLetter
  split
  · exact arePrintable_unitEscape _
  · decide
  · decide
  · decide
  · decide
  · decide
  · decide
  · decide
  · dsimp only
    split
    · rename_i printable
      exact .cons printable (by decide)
    · split
      · exact arePrintable_unitEscape _
      · exact (arePrintable_unitEscape _).append (arePrintable_unitEscape _)

theorem prints_text (text : Text) : Prints (writtenText text) := by
  have letters : ArePrintable (text.letters.flatMap writtenLetter) := by
    intro c member
    obtain ⟨letter,_,here⟩ := List.mem_flatMap.mp member
    exact arePrintable_letter letter c here
  rw [Prints,writtenText,String.toList_ofList]
  exact (letters.append (by decide)).cons (by decide)

theorem prints_int (value : Int) : Prints (toString value) := by
  have digits (n : Nat) : Prints (toString n) := by
    rw [Prints,Nat.toString_eq_repr,Nat.toList_repr]
    exact arePrintable_decimal n
  cases value with
  | ofNat n => exact digits n
  | negSucc n => exact .append (by decide) (digits (n + 1))

theorem prints_float (value : Binary64) : Prints (writtenFloat value) := by
  cases value with
  | nan => decide
  | infinite negative => cases negative <;> decide
  | finite negative significand power => exact Binary64.arePrintable_text _

theorem prints_bracketed {depth : Nat} (before : Prints first) (after : Prints second)
    {items : List String} (printable : ∀ item ∈ items, Prints item) :
    Prints (bracketed false depth first second items) := by
  unfold bracketed
  split
  · exact before.append after
  · exact (before.append (prints_separated (by decide) printable)).append after

end Texts

mutual

theorem prints_writtenAt (depth : Nat) : (value : Json) → Prints (writtenAt false depth value)
  | null => show Prints "null" by decide
  | bool true => show Prints "true" by decide
  | bool false => show Prints "false" by decide
  | int value => prints_int value
  | float value => prints_float value
  | text value => prints_text value
  | list items => prints_bracketed (by decide) (by decide) (prints_writtenItems (depth + 1) items)
  | object members =>
    prints_bracketed (by decide) (by decide) (prints_writtenMembers (depth + 1) members)

theorem prints_writtenItems (depth : Nat) :
    (items : List Json) → ∀ item ∈ writtenItems false depth items, Prints item
  | [] => by simp [writtenItems]
  | item :: items => List.forall_mem_cons.mpr
    ⟨prints_writtenAt depth item,prints_writtenItems depth items⟩

theorem prints_writtenMembers (depth : Nat) :
    (members : List (Text × Json)) → ∀ item ∈ writtenMembers false depth members, Prints item
  | [] => by simp [writtenMembers]
  | (name,value) :: members => List.forall_mem_cons.mpr
    ⟨((prints_text name).append (by decide)).append (prints_writtenAt depth value),
      prints_writtenMembers depth members⟩

end

/-- A value that is not laid out on several lines takes one, whatever its texts hold. -/
theorem lines_writtenAt (value : Json) (rest : List Char) :
    Text.lines ((value.writtenAt false 0).toList ++ '\n' :: rest) =
      (value.writtenAt false 0).toList :: Text.lines rest :=
  lines_append (prints_writtenAt 0 value) rest

end Json

end ScopedAnalytics
