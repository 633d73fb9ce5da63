import Mathlib.Tactic.Ring
import ScopedAnalytics.Numeral.Binary64

/-! Which integers are too large for a finite floating-point number: those that lie half a step or
more past the greatest one, from where rounding goes up. -/
namespace ScopedAnalytics.Binary64

/-- The least integer that is too large: the greatest number is half a step below it. -/
def beyond : Nat := 2 ^ 1024 - 2 ^ 970

private theorem roundQuotient_eq_iff {numerator denominator bound : Nat} (positive : 0 < denominator)
    (odd : bound % 2 = 1) (below : numerator < (bound + 1) * denominator) :
    roundQuotient numerator denominator = bound + 1 ↔
      (2 * bound + 1) * denominator ≤ 2 * numerator := by
  have division := Nat.div_add_mod numerator denominator
  have rest := Nat.mod_lt numerator positive
  have quotient : numerator / denominator ≤ bound :=
    Nat.lt_succ_iff.mp ((Nat.div_lt_iff_lt_mul positive).mpr below)
  simp only [roundQuotient]
  generalize numerator / denominator = q at division quotient ⊢
  generalize numerator % denominator = r at division rest ⊢
  rcases Nat.lt_or_eq_of_le quotient with less | rfl
  · have product : denominator * q + denominator ≤ bound * denominator := by
      calc denominator * q + denominator = (q + 1) * denominator := by ring
        _ ≤ bound * denominator := Nat.mul_le_mul_right denominator less
    have whole : (2 * bound + 1) * denominator = 2 * (bound * denominator) + denominator := by ring
    split
    · omega
    · split <;> omega
  · have whole : (2 * q + 1) * denominator = 2 * (denominator * q) + denominator := by ring
    split
    · omega
    · split <;> omega

/-- What decides is the size of the number, which is one more if it is rounded up to the next power of
two. -/
private theorem roundUnits_isFinite_iff_log2 (negative : Bool) (n : Nat) :
    (roundUnits negative n 1).isFinite = true ↔
      n.log2 - 52 + (if roundQuotient n (2 ^ (n.log2 - 52)) = 2 ^ 53 then 1 else 0) ≤ 2045 := by
  simp only [roundUnits,Nat.div_one,Nat.one_mul,Nat.pow_eq]
  split
  · dsimp only
    split <;> rename_i bound <;> simp [isFinite,bound]
  · dsimp only
    split <;> rename_i bound <;> simp [isFinite,bound]

/-- A number of units is rounded to a finite number if it is less than half a step past the greatest
one. -/
theorem roundUnits_isFinite_iff (negative : Bool) (n : Nat) :
    (roundUnits negative n 1).isFinite = true ↔ 2 * n < (2 ^ 54 - 1) * 2 ^ 2045 := by
  have step := Nat.two_pow_pos 2045
  have least : 2 ^ 2097 = 2 ^ 52 * 2 ^ 2045 := by rw [← Nat.pow_add]
  have past : 2 ^ 2098 = 2 ^ 53 * 2 ^ 2045 := by rw [← Nat.pow_add]
  rw [roundUnits_isFinite_iff_log2]
  rcases Nat.eq_zero_or_pos n with rfl | positive
  · have exact : ¬roundQuotient 0 (2 ^ (Nat.log2 0 - 52)) = 2 ^ 53 := by simp [roundQuotient]
    rw [if_neg exact,Nat.log2_zero]
    generalize 2 ^ 2045 = unit at step
    omega
  · have lower := Nat.log2_self_le (Nat.ne_of_gt positive)
    have upper : n < 2 ^ (n.log2 + 1) := Nat.lt_log2_self
    generalize n.log2 = size at lower upper ⊢
    -- Only among the greatest numbers does rounding decide.
    rcases Nat.lt_trichotomy size 2097 with small | rfl | large
    · have bound : 2 ^ (size + 1) ≤ 2 ^ 2097 := Nat.pow_le_pow_right (by omega) small
      generalize 2 ^ 2045 = unit at step least ⊢
      generalize roundQuotient n _ = significand
      constructor
      · intro _
        omega
      · intro _
        split <;> omega
    · simp only [Nat.reduceAdd,Nat.reduceSub] at upper ⊢
      generalize 2 ^ 2045 = unit at step past ⊢
      have rounded : roundQuotient n unit = 2 ^ 53 - 1 + 1 ↔
          (2 * (2 ^ 53 - 1) + 1) * unit ≤ 2 * n :=
        roundQuotient_eq_iff step (by decide) (by omega)
      generalize roundQuotient n unit = significand at rounded ⊢
      split <;> omega
    · have bound : 2 ^ 2098 ≤ 2 ^ size := Nat.pow_le_pow_right (by omega) large
      generalize 2 ^ 2045 = unit at step past ⊢
      generalize roundQuotient n _ = significand
      constructor
      · intro finite
        split at finite <;> omega
      · intro _
        omega

theorem ofInt?_eq_none_iff (n : Int) : ofInt? n = none ↔ beyond ≤ n.natAbs := by
  have infinite : ofInt? n = none ↔ ¬(ofInt n).isFinite = true := by
    rw [ofInt?]
    generalize ofInt n = x
    cases x.isFinite <;> simp
  have greatest : 2 ^ 1024 = 2 ^ 54 * 2 ^ 970 := by rw [← Nat.pow_add]
  have step : 2 ^ 2045 = 2 * (2 ^ 970 * unit) := by
    rw [unit,Nat.pow_eq,← Nat.pow_add,← Nat.pow_succ']
  have positive : 0 < unit := Nat.two_pow_pos 1074
  rw [infinite,ofInt,roundUnits_isFinite_iff,beyond,greatest,step,Nat.not_lt]
  generalize unit = unit at positive
  generalize 2 ^ 970 = half
  have scaled : (2 ^ 54 * half - half) * unit ≤ n.natAbs * unit ↔ 2 ^ 54 * half - half ≤ n.natAbs :=
    Nat.mul_le_mul_right_iff positive
  rw [← scaled]
  have product : (2 ^ 54 * half - half) * unit = (2 ^ 54 - 1) * (half * unit) := by
    have whole : 2 ^ 54 * half - half = (2 ^ 54 - 1) * half := by omega
    rw [whole,Nat.mul_assoc]
  rw [product]
  generalize half * unit = bound
  omega

end ScopedAnalytics.Binary64
