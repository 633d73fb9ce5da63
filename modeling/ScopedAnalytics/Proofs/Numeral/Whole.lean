import Mathlib.Algebra.Group.Nat.Defs
import ScopedAnalytics.Numeral.Binary64

/-! The whole numbers that floating-point numbers hold without loss. They are added exactly, so a
counter shows the number of times it was raised as long as that is one of them. -/
namespace ScopedAnalytics.Binary64

/-- The last of the whole numbers that are all held without loss. -/
def lastWhole : Nat := 2 ^ 53

private theorem roundQuotient_exact {step : Nat} (positive : 0 < step) (significand : Nat) :
    roundQuotient (step * significand) step = significand := by
  simp [roundQuotient,positive]

private theorem roundUnits_exact {n : Nat} (steps : 2 ^ (n.log2 - 52) ∣ n)
    (below : n.log2 - 52 ≤ 2045) : ∃ significand power,
      roundUnits false n 1 = finite false significand power ∧ significand * 2 ^ power = n := by
  obtain ⟨significand,same⟩ := steps
  have positive : 0 < 2 ^ (n.log2 - 52) := Nat.two_pow_pos _
  have exact : roundQuotient n (2 ^ (n.log2 - 52)) = significand :=
    (congrArg (roundQuotient · _) same).trans (roundQuotient_exact positive significand)
  have short : significand < 2 ^ 53 := by
    have upper : n < 2 ^ (n.log2 + 1) := Nat.lt_log2_self
    have size : 2 ^ (n.log2 + 1) ≤ 2 ^ (n.log2 - 52) * 2 ^ 53 := by
      rw [← Nat.pow_add]
      exact Nat.pow_le_pow_right (by omega) (by omega)
    refine Nat.lt_of_mul_lt_mul_left (a := 2 ^ (n.log2 - 52)) ?_
    calc 2 ^ (n.log2 - 52) * significand = n := same.symm
      _ < 2 ^ (n.log2 + 1) := upper
      _ ≤ 2 ^ (n.log2 - 52) * 2 ^ 53 := size
  have different : significand ≠ Nat.pow 2 53 := Nat.ne_of_lt short
  refine ⟨significand,n.log2 - 52,?_,by rw [Nat.mul_comm,← same]⟩
  simp only [roundUnits,Nat.div_one,Nat.one_mul,Nat.pow_eq,exact] at different ⊢
  rw [if_neg different]
  exact if_pos below

private theorem log2_mul_two_pow {n : Nat} (positive : n ≠ 0) (k : Nat) :
    (n * 2 ^ k).log2 = n.log2 + k := by
  have lower := Nat.log2_self_le positive
  have upper : n < 2 ^ (n.log2 + 1) := Nat.lt_log2_self
  have filled : n * 2 ^ k ≠ 0 := Nat.mul_ne_zero positive (Nat.ne_of_gt (Nat.two_pow_pos k))
  rw [Nat.log2_eq_iff filled]
  constructor
  · rw [Nat.pow_add]
    exact Nat.mul_le_mul_right _ lower
  · rw [Nat.add_right_comm,Nat.pow_add]
    exact Nat.mul_lt_mul_of_pos_right upper (Nat.two_pow_pos k)

private theorem roundUnits_whole {n k : Nat} (bounded : n ≤ 2 ^ 53) (size : k ≤ 2044) :
    ∃ significand power, roundUnits false (n * 2 ^ k) 1 = finite false significand power ∧
      significand * 2 ^ power = n * 2 ^ k := by
  rcases Nat.eq_zero_or_pos n with rfl | positive
  · exact roundUnits_exact (by simp) (by simp)
  · have filled := Nat.ne_of_gt positive
    have short : n.log2 < 54 := (Nat.log2_lt filled).mpr (by omega)
    apply roundUnits_exact
    · rw [log2_mul_two_pow filled]
      rcases Nat.lt_or_eq_of_le bounded with below | rfl
      · have short : n.log2 < 53 := (Nat.log2_lt filled).mpr below
        exact Nat.dvd_mul_left_of_dvd (Nat.pow_dvd_pow 2 (by omega)) n
      · rw [← Nat.pow_add,Nat.log2_two_pow]
        exact Nat.pow_dvd_pow 2 (by omega)
    · rw [log2_mul_two_pow filled]
      omega

theorem ofInt_eq {n : Nat} (bounded : n ≤ lastWhole) : ∃ significand power,
    ofInt n = finite false significand power ∧ significand * 2 ^ power = n * unit := by
  have positive : ¬(n : Int) < 0 := by omega
  simpa only [ofInt,decide_eq_false positive,Int.natAbs_natCast,unit,Nat.pow_eq] using
    roundUnits_whole (k := 1074) bounded (by decide)

theorem ofInt?_eq_some {n : Nat} (bounded : n ≤ lastWhole) : ofInt? n = some (ofInt n) := by
  obtain ⟨significand,power,same,_⟩ := ofInt_eq bounded
  rw [ofInt?,same]
  rfl

theorem ofInt_zero : ofInt 0 = zero false := by
  simp [ofInt,roundUnits,roundQuotient,zero]

private theorem add_finite (m p n q : Nat) : finite false m p + finite false n q =
    let total := (finite false m p).signedUnits + (finite false n q).signedUnits
    if total = 0 then zero false else roundUnits (total < 0) total.natAbs 1 := rfl

/-- Whole numbers are added exactly. -/
theorem ofInt_add {a b : Nat} (bounded : a + b ≤ lastWhole) :
    ofInt a + ofInt b = ofInt (a + b : Nat) := by
  obtain ⟨m,p,left,first⟩ := ofInt_eq (n := a) (by omega)
  obtain ⟨n,q,right,second⟩ := ofInt_eq (n := b) (by omega)
  have total : (finite false m p).signedUnits + (finite false n q).signedUnits =
      (((a + b) * unit : Nat) : Int) := by
    simp only [signedUnits,Nat.pow_eq,first,second]
    rw [← Int.natCast_add,← Nat.add_mul]
  have sum : ofInt a + ofInt b =
      if (((a + b) * unit : Nat) : Int) = 0 then zero false
      else roundUnits false ((a + b) * unit) 1 := by
    have above : ¬(((a + b) * unit : Nat) : Int) < 0 := by omega
    rw [left,right,add_finite]
    dsimp only
    rw [total,decide_eq_false above,Int.natAbs_natCast]
  have filled : unit ≠ 0 := Nat.pos_iff_ne_zero.mp (Nat.two_pow_pos 1074)
  rw [sum]
  split
  · rename_i void
    have none : a + b = 0 :=
      (Nat.mul_eq_zero.mp (Int.natCast_eq_zero.mp void)).resolve_right filled
    rw [none]
    exact ofInt_zero.symm
  · have above : ¬((a + b : Nat) : Int) < 0 := by omega
    rw [ofInt,decide_eq_false above,Int.natAbs_natCast]

end ScopedAnalytics.Binary64
