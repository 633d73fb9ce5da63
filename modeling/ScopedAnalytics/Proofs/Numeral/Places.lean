import Mathlib.Algebra.Group.Nat.Defs
import ScopedAnalytics.Calendar.Date
import ScopedAnalytics.Numeral.Digits
import ScopedAnalytics.Text.Quoted

/-! Numbers written with a fixed count of digits, as they stand in dates and identifiers, and read
back from them. -/
namespace ScopedAnalytics

section Trimming
variable {α : Type} {p : α → Bool} {items : List α}

theorem dropWhile_eq_self (kept : ∀ a ∈ items, p a = false) : items.dropWhile p = items := by
  cases items with
  | nil => rfl
  | cons a items => rw [List.dropWhile_cons_of_neg (by simp [kept])]

theorem trim_eq_self (kept : ∀ a ∈ items, p a = false) :
    ((items.dropWhile p).reverse.dropWhile p).reverse = items := by
  have backward : ∀ a ∈ items.reverse, p a = false := fun a member =>
    kept a (List.mem_reverse.mp member)
  rw [dropWhile_eq_self kept,dropWhile_eq_self backward,List.reverse_reverse]

end Trimming

namespace Numeral

/-- The digits of a number at its last places, the most significant one first. -/
def places (base : Nat) : Nat → Nat → List Nat
  | 0,_ => []
  | width + 1,n => places base width (n / base) ++ [n % base]

variable {base : Nat}

@[simp] theorem length_places (width n : Nat) : (places base width n).length = width := by
  induction width generalizing n with
  | zero => rfl
  | succ width ih => simp [places,ih]

theorem places_lt (positive : 0 < base) (width n : Nat) : ∀ d ∈ places base width n, d < base := by
  induction width generalizing n with
  | zero => simp [places]
  | succ width ih =>
    intro d member
    rcases List.mem_append.mp member with before | last
    · exact ih _ d before
    · obtain rfl := List.mem_singleton.mp last
      exact Nat.mod_lt n positive

theorem ofDigits_places {width n : Nat} (short : n < base ^ width) :
    ofDigits base (places base width n) = n := by
  induction width generalizing n with
  | zero => exact (Nat.lt_one_iff.mp short).symm
  | succ width ih =>
    have front : n / base < base ^ width := Nat.div_lt_of_lt_mul (by rwa [← Nat.pow_succ'])
    calc ofDigits base (places base (width + 1) n)
      _ = ofDigits base (places base width (n / base)) * base + n % base := by
          simp [ofDigits,places]
      _ = n := by rw [ih front,Nat.div_add_mod']

/-- A number filled up with zeros is the text of its digits at all places. -/
theorem filled_eq_places (base_gt : 1 < base) {width n : Nat} (short : n < base ^ (width + 1)) :
    List.replicate (width + 1 - (Nat.toDigits base n).length) '0' ++ Nat.toDigits base n =
      (places base (width + 1) n).map Nat.digitChar := by
  -- Both texts gain their last digit at the end. In front of a single digit there are only zeros.
  induction width generalizing n with
  | zero =>
    have digit : n < base := by simpa using short
    simp [Nat.toDigits_of_lt_base digit,places,Nat.mod_eq_of_lt digit]
  | succ width ih =>
    have front : n / base < base ^ (width + 1) :=
      Nat.div_lt_of_lt_mul (by rwa [← Nat.pow_succ'])
    rw [places,List.map_append,← ih front,Nat.toDigits_eq_if base_gt]
    split
    · rename_i digit
      have zero : n / base = 0 := Nat.div_eq_of_lt digit
      simp only [zero,Nat.toDigits_of_lt_base (Nat.zero_lt_of_lt base_gt),Nat.mod_eq_of_lt digit,
        List.map_cons,List.map_nil,List.length_cons,List.length_nil]
      exact congrArg (· ++ [Nat.digitChar n]) (List.replicate_succ' (n := width) (a := '0'))
    · simp

theorem padded_eq_places {width n : Nat} (short : n < 10 ^ (width + 1)) :
    Calendar.padded (width + 1) n = (places 10 (width + 1) n).map Nat.digitChar :=
  filled_eq_places (by decide) short

theorem hexDigits_eq_places {width n : Nat} (short : n < 16 ^ (width + 1)) :
    Text.hexDigits (width + 1) n = (places 16 (width + 1) n).map Nat.digitChar :=
  filled_eq_places (by decide) short

theorem digitChar_plain : ∀ d < 16, digitValue? d.digitChar = some d ∧
    Text.isBlank d.digitChar = false ∧ d.digitChar ∉ ['_','-','+','x','X','u','{','}'] := by
  decide

theorem digitsFrom?_digitChar (resting : Bool) {digits : List Nat} (small : ∀ d ∈ digits, d < 16)
    (ended : resting = true ∨ digits ≠ []) :
    digitsFrom? 16 resting (digits.map Nat.digitChar) = some digits := by
  induction digits generalizing resting with
  | nil => simpa [digitsFrom?] using ended
  | cons d digits ih =>
    have digit : d < 16 := small d List.mem_cons_self
    obtain ⟨value,_,other⟩ := digitChar_plain d digit
    have rest := ih true (fun e member => small e (List.mem_cons_of_mem d member)) (.inl rfl)
    have noUnderscore : d.digitChar ≠ '_' := fun same => other (by simp [same])
    have read : (digitValue? d.digitChar).filter (· < 16) = some d := by
      rw [value,Option.filter_some,if_pos (decide_eq_true digit)]
    rw [List.map_cons,digitsFrom?,if_neg noUnderscore,read,rest]
    rfl

theorem readDigits?_digitChar {digits : List Nat} (small : ∀ d ∈ digits, d < 16)
    (some : digits ≠ []) : readDigits? 16 (digits.map Nat.digitChar) = .some digits :=
  digitsFrom?_digitChar false small (.inr some)

end Numeral
end ScopedAnalytics
