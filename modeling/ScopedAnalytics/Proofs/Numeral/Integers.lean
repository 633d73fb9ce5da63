import Mathlib.Data.List.TakeWhile
import Mathlib.Data.Nat.Digits.Defs
import ScopedAnalytics.Proofs.Numeral.Places
import ScopedAnalytics.Numeral.Integer

/-! The texts of integers. Blanks surround an optional sign and a run of digits, which base sixteen may
put a mark before, and the integer is what the digits are worth at their places. Reading accepts these
texts and no others. -/
namespace ScopedAnalytics

section Trimming
variable {α : Type} {p : α → Bool} {items core : List α}

/-- What is left of a list as items of a kind are trimmed from its ends. -/
def IsTrimmed (p : α → Bool) (items core : List α) : Prop :=
  ∃ front back, items = front ++ core ++ back ∧ (∀ a ∈ front ++ back, p a = true) ∧
    (∀ a ∈ core.head?, p a = false) ∧ ∀ a ∈ core.getLast?, p a = false

private theorem dropWhile_eq_self_of_head (first : ∀ a ∈ items.head?, p a = false) :
    items.dropWhile p = items := by
  cases items with
  | nil => rfl
  | cons a items => rw [List.dropWhile_cons_of_neg (by simp [first a rfl])]

private theorem head_dropWhile (p : α → Bool) (items : List α) :
    ∀ a ∈ (items.dropWhile p).head?, p a = false := by
  intro a first
  have other := List.head?_dropWhile_not p items
  rw [Option.mem_def.mp first] at other
  simpa using other

private theorem getLast_dropWhile (ends : ∀ a ∈ items.getLast?, p a = false) :
    ∀ a ∈ (items.dropWhile p).getLast?, p a = false := by
  intro a last
  refine ends a ?_
  rw [← List.takeWhile_append_dropWhile (p := p) (l := items),List.getLast?_append,
    Option.mem_def.mp last]
  rfl

theorem trim_eq_iff : ((items.dropWhile p).reverse.dropWhile p).reverse = core ↔
    IsTrimmed p items core := by
  constructor
  · rintro rfl
    have inside (list : List α) : ∀ a ∈ list.takeWhile p, p a = true :=
      fun a member => List.mem_takeWhile_imp member
    refine ⟨items.takeWhile p,((items.dropWhile p).reverse.takeWhile p).reverse,?_,?_,?_,?_⟩
    · rw [List.append_assoc,← List.reverse_append,List.takeWhile_append_dropWhile,
        List.reverse_reverse,List.takeWhile_append_dropWhile]
    · intro a member
      rcases List.mem_append.mp member with before | after
      · exact inside items a before
      · exact inside _ a (List.mem_reverse.mp after)
    · rw [List.head?_reverse]
      refine getLast_dropWhile ?_
      rw [List.getLast?_reverse]
      exact head_dropWhile p items
    · rw [List.getLast?_reverse]
      exact head_dropWhile p _
  · rintro ⟨front,back,rfl,ends,first,last⟩
    have before : ∀ a ∈ front, p a = true := fun a member => ends a (List.mem_append_left _ member)
    have after : ∀ a ∈ back, p a = true := fun a member => ends a (List.mem_append_right _ member)
    have backward : ∀ a ∈ back.reverse, p a = true := fun a member =>
      after a (List.mem_reverse.mp member)
    have ending : core.reverse.dropWhile p = core.reverse :=
      dropWhile_eq_self_of_head (by rwa [List.head?_reverse])
    rw [List.append_assoc,List.dropWhile_append_of_pos before]
    cases core with
    | nil =>
      rw [List.nil_append,List.dropWhile_eq_nil_iff.mpr after]
      rfl
    | cons a rest =>
      have begins : ((a :: rest) ++ back).dropWhile p = (a :: rest) ++ back :=
        dropWhile_eq_self_of_head (by simpa using first)
      rw [begins,List.reverse_append,List.dropWhile_append_of_pos backward,ending,List.reverse_reverse]

theorem IsTrimmed.of_solid {front back : List α} (ends : ∀ a ∈ front ++ back, p a = true)
    (solid : ∀ a ∈ core, p a = false) : IsTrimmed p (front ++ core ++ back) core :=
  ⟨front,back,rfl,ends,fun a first => solid a (List.mem_of_mem_head? first),
    fun a last => solid a (List.mem_of_mem_getLast? last)⟩

end Trimming

namespace Numeral

variable {base : Nat} {c : Char} {d : Nat} {cs run : List Char} {digits : List Nat} {n : Int}

section Runs

/-- A character with its value as a digit of a base. -/
def IsDigit (base : Nat) (c : Char) (d : Nat) : Prop := digitValue? c = some d ∧ d < base

/-- A run of digits with their values, the most significant first. A single underscore may stand
between a digit and the next. -/
inductive Run (base : Nat) : List Char → List Nat → Prop
  | last {c : Char} {d : Nat} (digit : IsDigit base c d) : Run base [c] [d]
  | next {c : Char} {d : Nat} {cs : List Char} {ds : List Nat} (digit : IsDigit base c d)
      (rest : Run base cs ds) : Run base (c :: cs) (d :: ds)
  | apart {c : Char} {d : Nat} {cs : List Char} {ds : List Nat} (digit : IsDigit base c d)
      (rest : Run base cs ds) : Run base (c :: '_' :: cs) (d :: ds)

/-- What follows a digit in a run, with the values of the digits in it. -/
def Follows (base : Nat) (cs : List Char) (ds : List Nat) : Prop :=
  cs = [] ∧ ds = [] ∨ Run base cs ds ∨ ∃ rest, cs = '_' :: rest ∧ Run base rest ds

theorem run_cons_iff : Run base (c :: cs) digits ↔
    ∃ d ds, IsDigit base c d ∧ digits = d :: ds ∧ Follows base cs ds := by
  constructor
  · intro run
    cases run with
    | last digit => exact ⟨_,[],digit,rfl,.inl ⟨rfl,rfl⟩⟩
    | next digit rest => exact ⟨_,_,digit,rfl,.inr (.inl rest)⟩
    | apart digit rest => exact ⟨_,_,digit,rfl,.inr (.inr ⟨_,rfl,rest⟩)⟩
  · rintro ⟨d,ds,digit,rfl,⟨rfl,rfl⟩ | rest | ⟨rest,rfl,run⟩⟩
    · exact .last digit
    · exact .next digit rest
    · exact .apart digit run

theorem not_isDigit_underscore : ¬IsDigit base '_' d := by
  rintro ⟨value,_⟩
  have none : digitValue? '_' = none := by decide
  simp [none] at value

theorem not_run_underscore : ¬Run base ('_' :: cs) digits := by
  rw [run_cons_iff]
  rintro ⟨d,_,digit,_⟩
  exact not_isDigit_underscore digit

theorem Run.ne_nil (run : Run base cs digits) : cs ≠ [] := by
  cases run <;> simp

theorem follows_nil_iff : Follows base [] digits ↔ digits = [] := by
  constructor
  · rintro (⟨_,rfl⟩ | run | ⟨rest,impossible,_⟩)
    · rfl
    · exact absurd rfl run.ne_nil
    · cases impossible
  · rintro rfl
    exact .inl ⟨rfl,rfl⟩

theorem follows_underscore_iff : Follows base ('_' :: cs) digits ↔ Run base cs digits := by
  constructor
  · rintro (⟨impossible,_⟩ | run | ⟨rest,same,run⟩)
    · cases impossible
    · exact absurd run not_run_underscore
    · exact (List.cons.inj same).2 ▸ run
  · exact fun run => .inr (.inr ⟨cs,rfl,run⟩)

theorem follows_cons_iff (other : c ≠ '_') :
    Follows base (c :: cs) digits ↔ Run base (c :: cs) digits := by
  constructor
  · rintro (⟨impossible,_⟩ | run | ⟨rest,same,_⟩)
    · cases impossible
    · exact run
    · exact absurd (List.cons.inj same).1 other
  · exact fun run => .inr (.inl run)

theorem filter_digitValue?_iff :
    (digitValue? c).filter (· < base) = some d ↔ IsDigit base c d := by
  rw [Option.filter_eq_some_iff,decide_eq_true_iff,IsDigit]

private theorem digitsFrom?_cons_iff {resting : Bool} (other : c ≠ '_')
    (rest : ∀ digits, digitsFrom? base true cs = some digits ↔ Follows base cs digits) :
    digitsFrom? base resting (c :: cs) = some digits ↔ Run base (c :: cs) digits := by
  rw [digitsFrom?,if_neg other,run_cons_iff]
  cases value : (digitValue? c).filter (· < base) with
  | none =>
    constructor
    · rintro ⟨⟩
    · rintro ⟨d,_,digit,_⟩
      cases value.symm.trans (filter_digitValue?_iff.mpr digit)
  | some d =>
    rw [Option.map_eq_some_iff]
    constructor
    · rintro ⟨ds,read,rfl⟩
      exact ⟨d,ds,filter_digitValue?_iff.mp value,rfl,(rest ds).mp read⟩
    · rintro ⟨e,ds,digit,rfl,follows⟩
      obtain rfl : d = e := Option.some.inj (value.symm.trans (filter_digitValue?_iff.mpr digit))
      exact ⟨ds,(rest ds).mpr follows,rfl⟩

/-- The digits from a place on, where a run begins or a digit came before. -/
private theorem digitsFrom?_iff (cs : List Char) : ∀ digits : List Nat,
    (digitsFrom? base false cs = some digits ↔ Run base cs digits) ∧
      (digitsFrom? base true cs = some digits ↔ Follows base cs digits) := by
  induction cs with
  | nil =>
    intro digits
    constructor
    · constructor
      · rintro ⟨⟩
      · exact fun run => absurd rfl run.ne_nil
    · rw [follows_nil_iff]
      exact ⟨fun read => (Option.some.inj read).symm,fun nothing => nothing ▸ rfl⟩
  | cons c cs ih =>
    intro digits
    by_cases underscore : c = '_'
    · subst underscore
      constructor
      · constructor
        · rintro ⟨⟩
        · exact fun run => absurd run not_run_underscore
      · have same : digitsFrom? base true ('_' :: cs) = digitsFrom? base false cs := rfl
        rw [same,(ih digits).1,follows_underscore_iff]
    · have rest (digits : List Nat) := (ih digits).2
      rw [follows_cons_iff underscore]
      exact ⟨digitsFrom?_cons_iff underscore rest,digitsFrom?_cons_iff underscore rest⟩

theorem readDigits?_iff : readDigits? base cs = some digits ↔ Run base cs digits :=
  (digitsFrom?_iff cs digits).1

theorem run_digitChar (small : base ≤ 16) {digits : List Nat} (below : ∀ d ∈ digits, d < base)
    (some : digits ≠ []) : Run base (digits.map Nat.digitChar) digits := by
  have digit {d : Nat} (inside : d < base) : IsDigit base d.digitChar d :=
    ⟨(digitChar_plain d (Nat.lt_of_lt_of_le inside small)).1,inside⟩
  induction digits with
  | nil => exact absurd rfl some
  | cons d digits ih =>
    have here := digit (below d List.mem_cons_self)
    cases digits with
    | nil => exact .last here
    | cons e digits =>
      exact .next here (ih (fun a member => below a (List.mem_cons_of_mem d member)) (by simp))

theorem Run.digits_lt (run : Run base cs digits) : ∀ d ∈ digits, d < base := by
  induction run with
  | last digit => simpa using digit.2
  | next digit _ ih => simpa using ⟨digit.2,ih⟩
  | apart digit _ ih => simpa using ⟨digit.2,ih⟩

theorem Run.length_le (run : Run base cs digits) : digits.length ≤ cs.length := by
  induction run with
  | last => exact Nat.le_refl _
  | next _ _ ih => exact Nat.succ_le_succ ih
  | apart _ _ ih => exact Nat.succ_le_succ (Nat.le_succ_of_le ih)

/-- What digits are worth: each is multiplied by the power of the base at its place. -/
theorem ofDigits_eq (base : Nat) (digits : List Nat) :
    ofDigits base digits = Nat.ofDigits base digits.reverse := by
  rw [Nat.ofDigits_eq_foldr,List.foldr_reverse,ofDigits]
  simp [Nat.mul_comm,Nat.add_comm]

end Runs

section Blanks

private def blankCodes : List Nat :=
  [0x9,0xA,0xB,0xC,0xD,0x20,0x85,0xA0,0x1680,0x2000,0x2001,0x2002,0x2003,0x2004,0x2005,0x2006,0x2007,
    0x2008,0x2009,0x200A,0x2028,0x2029,0x202F,0x205F,0x3000]

private theorem toNat_mem_blankCodes (blank : Text.isBlank c = true) : c.toNat ∈ blankCodes := by
  simp only [Text.isBlank,Text.inRanges,Text.wideBlanks,Bool.or_eq_true,Bool.and_eq_true,beq_iff_eq,
    decide_eq_true_eq,List.any_cons,List.any_nil,Bool.or_false,or_assoc] at blank
  have space : c = ' ' ↔ c.toNat = 0x20 := by rw [← Char.toNat_inj]; rfl
  have tab : '\t' ≤ c ↔ 0x9 ≤ c.toNat := Iff.rfl
  have newline : c ≤ '\r' ↔ c.toNat ≤ 0xD := Iff.rfl
  simp only [blankCodes,List.mem_cons,List.not_mem_nil,or_false]
  rw [space,tab,newline] at blank
  omega

theorem isBlank_eq_false_of_digit (digit : digitValue? c = some d) : Text.isBlank c = false := by
  have none : ∀ code ∈ blankCodes, digitValue? (Char.ofNat code) = .none := by decide
  cases blank : Text.isBlank c with
  | false => rfl
  | true =>
    have unread := none c.toNat (toNat_mem_blankCodes blank)
    rw [Char.ofNat_toNat,digit] at unread
    cases unread

theorem Run.solid (run : Run base cs digits) : ∀ c ∈ cs, Text.isBlank c = false := by
  induction run with
  | last digit => simpa using isBlank_eq_false_of_digit digit.1
  | next digit _ ih => simpa using ⟨isBlank_eq_false_of_digit digit.1,ih⟩
  | apart digit _ ih =>
    have underscore : Text.isBlank '_' = false := by decide
    simpa [underscore] using ⟨isBlank_eq_false_of_digit digit.1,ih⟩

end Blanks

section Signs

/-- A sign, and whether it is a minus. There may be none. -/
inductive Sign : List Char → Bool → Prop
  | none : Sign [] false
  | plus : Sign ['+'] false
  | minus : Sign ['-'] true

theorem splitSign_sign (cs : List Char) :
    ∃ sign, Sign sign (splitSign cs).1 ∧ cs = sign ++ (splitSign cs).2 := by
  unfold splitSign
  split
  · exact ⟨_,.minus,rfl⟩
  · exact ⟨_,.plus,rfl⟩
  · exact ⟨_,.none,rfl⟩

theorem Sign.solid {sign : List Char} {negative : Bool} (signed : Sign sign negative) :
    ∀ c ∈ sign, Text.isBlank c = false := by
  have plus : Text.isBlank '+' = false := by decide
  have minus : Text.isBlank '-' = false := by decide
  cases signed <;> simp [plus,minus]

theorem Sign.split {sign rest : List Char} {negative : Bool} (signed : Sign sign negative)
    (unsigned : ∀ c ∈ rest.head?, c ≠ '-' ∧ c ≠ '+') : splitSign (sign ++ rest) = (negative,rest) := by
  cases signed with
  | plus => rfl
  | minus => rfl
  | none =>
    rw [List.nil_append]
    unfold splitSign
    split
    · exact absurd rfl (unsigned '-' rfl).1
    · exact absurd rfl (unsigned '+' rfl).2
    · rfl

theorem IsDigit.unsigned (digit : IsDigit base c d) : c ≠ '-' ∧ c ≠ '+' := by
  have none : digitValue? '-' = none ∧ digitValue? '+' = none := by decide
  constructor
  · rintro rfl
    exact Option.some_ne_none d (digit.1.symm.trans none.1)
  · rintro rfl
    exact Option.some_ne_none d (digit.1.symm.trans none.2)

theorem Run.unsigned (run : Run base cs digits) : ∀ c ∈ cs.head?, c ≠ '-' ∧ c ≠ '+' := by
  cases run with
  | last digit => simpa using digit.unsigned
  | next digit => simpa using digit.unsigned
  | apart digit => simpa using digit.unsigned

end Signs

section Decimal

inductive IsInteger : List Char → Int → Prop
  | written {front sign run back : List Char} {negative : Bool} {digits : List Nat}
      (blanks : ∀ c ∈ front ++ back, Text.isBlank c = true) (signed : Sign sign negative)
      (digital : Run 10 run digits) (short : digits.length ≤ digitLimit) :
      IsInteger (front ++ (sign ++ run) ++ back) (Numeral.signed negative (Nat.ofDigits 10 digits.reverse))

theorem readInteger?_iff : readInteger? cs = some n ↔ IsInteger cs n := by
  constructor
  · intro read
    obtain ⟨front,back,same,blanks,_⟩ := trim_eq_iff.mp (Eq.refl (Text.trimBlanks cs))
    obtain ⟨sign,signed,parted⟩ := splitSign_sign (Text.trimBlanks cs)
    rw [readInteger?] at read
    split at read
    rename_i negative rest split
    rw [split] at signed parted
    split at read
    · cases read
    · rename_i digits found
      split at read
      · rename_i short
        obtain rfl := Option.some.inj read
        rw [same,parted,ofDigits_eq]
        exact .written blanks signed (readDigits?_iff.mp found) short
      · cases read
  · rintro ⟨blanks,signed,digital,short⟩
    have solid := List.forall_mem_append.mpr ⟨signed.solid,digital.solid⟩
    rw [readInteger?,Text.trimBlanks,trim_eq_iff.mpr (.of_solid blanks solid),
      signed.split digital.unsigned]
    simp only [readDigits?_iff.mpr digital,if_pos short,ofDigits_eq]

/-- A natural number is read from its decimal text, unless that is too long. -/
theorem isInteger_toString {n : Nat} (short : n < 10 ^ digitLimit) :
    IsInteger (toString n).toList n := by
  have some : 0 < (Nat.toDigits 10 n).length := Nat.length_toDigits_pos
  obtain ⟨width,same⟩ := Nat.exists_eq_add_one_of_ne_zero (Nat.ne_of_gt some)
  have bounded : n < 10 ^ (width + 1) :=
    (Nat.length_toDigits_le_iff (by decide) (Nat.succ_pos width)).mp (Nat.le_of_eq same)
  have text : (toString n).toList = (places 10 (width + 1) n).map Nat.digitChar := by
    have filled := filled_eq_places (by decide : 1 < 10) bounded
    rw [same,Nat.sub_self,List.replicate_zero,List.nil_append] at filled
    rw [Nat.toString_eq_repr,Nat.toList_repr,filled]
  have run : Run 10 ((places 10 (width + 1) n).map Nat.digitChar) (places 10 (width + 1) n) :=
    run_digitChar (by decide) (places_lt (by decide) _ _) (by simp [places])
  have few : (places 10 (width + 1) n).length ≤ digitLimit := by
    rw [length_places,← same]
    exact (Nat.length_toDigits_le_iff (by decide) (by decide)).mpr short
  have written := @IsInteger.written [] _ _ [] _ _ (by simp) .none run few
  rw [← ofDigits_eq,ofDigits_places bounded] at written
  rw [text]
  simpa [signed] using written

end Decimal

section Hexadecimal

/-- A mark of base sixteen: a zero with an `x`, and maybe an underscore. There may be none. -/
inductive BaseMark : List Char → Prop
  | none : BaseMark []
  | plain {zero x : Char} (value : Text.decimalValue? zero = some 0) (letter : x = 'x' ∨ x = 'X') :
      BaseMark [zero,x]
  | joined {zero x : Char} (value : Text.decimalValue? zero = some 0) (letter : x = 'x' ∨ x = 'X') :
      BaseMark [zero,x,'_']

theorem skipBaseMark_mark (cs : List Char) : ∃ mark, BaseMark mark ∧ cs = mark ++ skipBaseMark cs := by
  unfold skipBaseMark
  split
  · split
    · rename_i marked
      split
      · exact ⟨_,.joined marked.1 marked.2,rfl⟩
      · exact ⟨_,.plain marked.1 marked.2,rfl⟩
    · exact ⟨_,.none,rfl⟩
  · exact ⟨_,.none,rfl⟩

theorem IsDigit.ne_letter (digit : IsDigit base c d) : ¬(c = 'x' ∨ c = 'X') := by
  have none : digitValue? 'x' = none ∧ digitValue? 'X' = none := by decide
  rintro (rfl | rfl)
  · exact Option.some_ne_none d (digit.1.symm.trans none.1)
  · exact Option.some_ne_none d (digit.1.symm.trans none.2)

private theorem Run.second_ne_letter {rest : List Char} {other : Char}
    (digital : Run base (c :: other :: rest) digits) : ¬(other = 'x' ∨ other = 'X') := by
  obtain ⟨_,_,_,_,⟨impossible,_⟩ | run | ⟨_,same,_⟩⟩ := run_cons_iff.mp digital
  · cases impossible
  · obtain ⟨_,_,digit,_⟩ := run_cons_iff.mp run
    exact digit.ne_letter
  · rw [(List.cons.inj same).1]
    decide

theorem BaseMark.skip {mark : List Char} (marked : BaseMark mark) (digital : Run base run digits) :
    skipBaseMark (mark ++ run) = run := by
  cases marked with
  | none =>
    rw [List.nil_append]
    unfold skipBaseMark
    split
    · exact if_neg fun mark => digital.second_ne_letter mark.2
    · rfl
  | joined value letter =>
    simp only [List.cons_append,List.nil_append,skipBaseMark,if_pos (And.intro value letter)]
  | plain value letter =>
    simp only [List.cons_append,List.nil_append,skipBaseMark,if_pos (And.intro value letter)]
    split
    · exact absurd digital not_run_underscore
    · rfl

theorem BaseMark.solid {mark : List Char} (marked : BaseMark mark) :
    ∀ c ∈ mark, Text.isBlank c = false := by
  have digital {zero : Char} (value : Text.decimalValue? zero = some 0) :
      Text.isBlank zero = false :=
    isBlank_eq_false_of_digit (d := 0) (by rw [digitValue?,value])
  have letters : Text.isBlank 'x' = false ∧ Text.isBlank 'X' = false ∧ Text.isBlank '_' = false := by
    decide
  cases marked with
  | none => simp
  | plain value letter => rcases letter with rfl | rfl <;> simp [digital value,letters]
  | joined value letter => rcases letter with rfl | rfl <;> simp [digital value,letters]

theorem BaseMark.unsigned {mark : List Char} (marked : BaseMark mark) (digital : Run base run digits) :
    ∀ c ∈ (mark ++ run).head?, c ≠ '-' ∧ c ≠ '+' := by
  have zero {zero : Char} (value : Text.decimalValue? zero = some 0) : zero ≠ '-' ∧ zero ≠ '+' := by
    have digit : IsDigit 1 zero 0 := ⟨by rw [digitValue?,value],by decide⟩
    exact digit.unsigned
  cases marked with
  | none => exact digital.unsigned
  | plain value => simpa using zero value
  | joined value => simpa using zero value

inductive IsHexInteger : List Char → Int → Prop
  | written {front sign mark run back : List Char} {negative : Bool} {digits : List Nat}
      (blanks : ∀ c ∈ front ++ back, Text.isBlank c = true) (signed : Sign sign negative)
      (marked : BaseMark mark) (digital : Run 16 run digits) :
      IsHexInteger (front ++ (sign ++ (mark ++ run)) ++ back)
        (Numeral.signed negative (Nat.ofDigits 16 digits.reverse))

theorem readHexInteger?_iff : readHexInteger? cs = some n ↔ IsHexInteger cs n := by
  constructor
  · intro read
    obtain ⟨front,back,same,blanks,_⟩ := trim_eq_iff.mp (Eq.refl (Text.trimBlanks cs))
    obtain ⟨sign,signed,parted⟩ := splitSign_sign (Text.trimBlanks cs)
    rw [readHexInteger?] at read
    split at read
    rename_i negative rest split
    rw [split] at signed parted
    obtain ⟨mark,marked,apart⟩ := skipBaseMark_mark rest
    obtain ⟨digits,found,rfl⟩ := Option.map_eq_some_iff.mp read
    rw [same,parted,apart,ofDigits_eq]
    exact .written blanks signed marked (readDigits?_iff.mp found)
  · rintro ⟨blanks,signed,marked,digital⟩
    have solid := List.forall_mem_append.mpr
      ⟨signed.solid,List.forall_mem_append.mpr ⟨marked.solid,digital.solid⟩⟩
    rw [readHexInteger?,Text.trimBlanks,trim_eq_iff.mpr (.of_solid blanks solid),
      signed.split (marked.unsigned digital)]
    simp only [marked.skip digital,readDigits?_iff.mpr digital,Option.map_some,ofDigits_eq]

end Hexadecimal

end Numeral
end ScopedAnalytics
