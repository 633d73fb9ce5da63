import ScopedAnalytics.Numeral.Quantity
import ScopedAnalytics.Proofs.Numeral.Integers
import ScopedAnalytics.Proofs.Numeral.Overflow

/-! Which integers have a text. All do that are read from one, and all for which there is a nearest
floating-point number. -/
namespace ScopedAnalytics

namespace Numeral
variable {n : Int} {digits : Nat}

theorem isWritable_iff : isWritable n = true ↔ n.natAbs < 10 ^ digitLimit :=
  decide_eq_true_iff.trans (Nat.length_toDigits_le_iff (by decide) (by decide))

theorem isWritable_eq_false_iff : isWritable n = false ↔ 10 ^ digitLimit ≤ n.natAbs := by
  rw [← Bool.not_eq_true,isWritable_iff,Nat.not_lt]

theorem isWritable_of_lt (digits : Nat) (few : digits ≤ digitLimit) (small : n.natAbs < 10 ^ digits) :
    isWritable n = true :=
  isWritable_iff.mpr (Nat.lt_of_lt_of_le small (Nat.pow_le_pow_right (by decide) few))

theorem isWritable_signed {negative : Bool} {magnitude : Nat} (few : digits ≤ digitLimit)
    (small : magnitude < 10 ^ digits) : isWritable (signed negative magnitude) = true := by
  refine isWritable_of_lt digits few ?_
  cases negative <;> simpa [signed] using small

theorem isWritable_of_read {cs : List Char} (read : readInteger? cs = some n) :
    isWritable n = true := by
  obtain ⟨_,_,run,short⟩ := readInteger?_iff.mp read
  refine isWritable_signed short ?_
  rw [← List.length_reverse]
  refine Nat.ofDigits_lt_base_pow_length (by decide) fun d member => ?_
  exact run.digits_lt d (List.mem_reverse.mp member)

theorem written?_of_isWritable (writable : isWritable n = true) : written? n = some (toString n) :=
  if_pos writable

end Numeral

theorem Binary64.isWritable_of_ofInt? {n : Int} {x : Binary64} (nearest : ofInt? n = some x) :
    Numeral.isWritable n = true := by
  have small : n.natAbs < beyond := by
    rw [← Nat.not_le,← ofInt?_eq_none_iff,nearest]
    exact Option.some_ne_none x
  have power : beyond ≤ 10 ^ 1024 :=
    calc beyond ≤ 2 ^ 1024 := Nat.sub_le _ _
      _ ≤ 10 ^ 1024 := Nat.pow_le_pow_left (by decide) 1024
  exact Numeral.isWritable_of_lt 1024 (by decide) (Nat.lt_of_lt_of_le small power)

namespace Quantity
variable {q : Quantity}

/-- Whether a quantity can be told. -/
def IsTold (q : Quantity) : Prop := q.text?.isSome = true

theorem isTold_whole_iff {n : Int} : (whole n).IsTold ↔ Numeral.isWritable n = true := by
  simp [IsTold,text?,Numeral.written?]

theorem isTold_iff :
    q.IsTold ↔ ∀ n, q = whole n → n.natAbs < 10 ^ Numeral.digitLimit := by
  cases q with
  | whole n => simp [isTold_whole_iff,Numeral.isWritable_iff]
  | real x => simp [IsTold,text?]

theorem isTold_of_approximate? {x : Binary64} (nearest : q.approximate? = some x) : q.IsTold := by
  cases q with
  | whole n => exact isTold_whole_iff.mpr (Binary64.isWritable_of_ofInt? nearest)
  | real x => rfl

end Quantity

end ScopedAnalytics
