import ScopedAnalytics.Http.Url.Percent

/-! What percent-encoding writes. Nothing but characters that stand for themselves and escapes, so a
component whose characters all stand for themselves is written as it is. -/
namespace ScopedAnalytics

theorem ascii_forall {P : Char → Prop} (small : ∀ n < 0x80, P (Char.ofNat n)) {c : Char}
    (ascii : c.toNat < 0x80) : P c := by
  simpa using small c.toNat ascii

/-- A property of the characters of a text is decided by trying these, and not all that there are. -/
theorem mem_forall {P : Char → Prop} [DecidablePred P] {cs : List Char}
    (each : cs.all (fun c => decide (P c)) = true) : ∀ c ∈ cs, P c := by
  simpa using each

theorem code_of_isAlpha {c : Char} (letter : c.isAlpha = true) : 0x41 ≤ c.toNat ∧ c.toNat < 0x80 := by
  have within {first last : Char} (low : 0x41 ≤ first.toNat) (high : last.toNat < 0x80)
      (between : first.val ≤ c.val ∧ c.val ≤ last.val) : 0x41 ≤ c.toNat ∧ c.toNat < 0x80 :=
    ⟨Nat.le_trans low (UInt32.le_iff_toNat_le.mp between.1),
      Nat.lt_of_le_of_lt (UInt32.le_iff_toNat_le.mp between.2) high⟩
  rcases Bool.or_eq_true_iff.mp letter with upper | lower
  · exact within (by decide) (by decide) (of_decide_eq_true upper)
  · obtain ⟨above,below⟩ := Bool.and_eq_true_iff.mp lower
    exact within (by decide) (by decide) ⟨of_decide_eq_true above,of_decide_eq_true below⟩

theorem isAscii_of_isAlphanum {c : Char} (alphanum : c.isAlphanum = true) : c.toNat < 0x80 := by
  rcases Bool.or_eq_true_iff.mp alphanum with letter | digit
  · exact (code_of_isAlpha letter).2
  · have below : c.val ≤ '9'.val := of_decide_eq_true (Bool.and_eq_true_iff.mp digit).2
    exact Nat.lt_of_le_of_lt (UInt32.le_iff_toNat_le.mp below) (by decide)

namespace Percent
variable {plain : Char → Bool} {cs : List Char} {c d : Char}

/-- What may stand in an encoded component. -/
def isWritten (plain : Char → Bool) (c : Char) : Bool := isUnreserved c || plain c || c == '%'

theorem isAscii_of_isHexDigit (hex : isHexDigit c = true) : c.toNat < 0x80 := by
  simp only [isHexDigit,Char.isDigit,Bool.or_eq_true,Bool.and_eq_true,decide_eq_true_eq,ge_iff_le,
    Char.le_def,UInt32.le_iff_toNat_le] at hex
  have value : c.toNat = c.val.toNat := rfl
  simp at hex
  omega

private theorem isUnreserved_of_isHexDigit (hex : isHexDigit c = true) : isUnreserved c = true :=
  ascii_forall (P := fun c => isHexDigit c = true → isUnreserved c = true) (by decide)
    (isAscii_of_isHexDigit hex) hex

private theorem digit_isUnreserved : ∀ d < 16, isUnreserved (Nat.digitChar d).toUpper = true := by
  decide

private theorem mem_escape (member : c ∈ escape d) : c = '%' ∨ isUnreserved c = true := by
  obtain ⟨b,_,inside⟩ := List.mem_flatMap.mp member
  have small := b.toNat_lt
  simp only [hexByte,List.map_cons,List.map_nil,List.mem_cons,List.not_mem_nil,or_false] at inside
  rcases inside with rfl | rfl | rfl
  · exact .inl rfl
  · exact .inr (digit_isUnreserved _ (by omega))
  · exact .inr (digit_isUnreserved _ (by omega))

private theorem escape_isWritten (member : c ∈ escape d) : isWritten plain c = true := by
  rcases mem_escape member with rfl | unreserved
  · simp [isWritten]
  · simp [isWritten,unreserved]

theorem encode_isWritten (plain : Char → Bool) (cs : List Char) :
    ∀ c ∈ encode plain cs, isWritten plain c = true := by
  fun_induction encode plain cs with
  | case1 => exact nofun
  | case2 a b rest hex ih =>
    simp only [Bool.and_eq_true] at hex
    intro c member
    simp only [List.mem_cons] at member
    rcases member with rfl | rfl | rfl | member
    · simp [isWritten]
    · simp [isWritten,isUnreserved_of_isHexDigit hex.1]
    · simp [isWritten,isUnreserved_of_isHexDigit hex.2]
    · exact ih c member
  | case3 a b rest hex ih =>
    intro c member
    rcases List.mem_append.mp member with first | member
    · split at first
      · rw [List.mem_singleton.mp first]
        simp [isWritten]
      · exact escape_isWritten first
    · exact ih c member
  | case4 c rest other ih =>
    intro d member
    rcases List.mem_append.mp member with first | member
    · split at first
      · rename_i own
        rw [List.mem_singleton.mp first,isWritten,own,Bool.true_or]
      · exact escape_isWritten first
    · exact ih d member

/-- A component whose characters stand for themselves, the percent sign among them, is written as it
is. -/
theorem encode_eq_self (sign : plain '%' = true) (own : ∀ c ∈ cs, plain c = true) :
    encode plain cs = cs := by
  fun_induction encode plain cs with
  | case1 => rfl
  | case2 a b rest hex ih => rw [ih fun c member => own c (by simp [member])]
  | case3 a b rest hex ih =>
    rw [if_pos sign,ih fun c member => own c (List.mem_cons_of_mem _ member)]
    rfl
  | case4 c rest other ih =>
    rw [if_pos (by simp [own c]),ih fun c member => own c (List.mem_cons_of_mem _ member)]
    rfl

theorem encode_cons (other : c ≠ '%') (own : plain c = true) :
    encode plain (c :: cs) = c :: encode plain cs := by
  rw [encode]
  · simp [own]
  · rintro _ _ _ rfl
    exact absurd rfl other

section Classes

theorem isAscii_of_isUnreserved (unreserved : isUnreserved c = true) : c.toNat < 0x80 := by
  rw [isUnreserved,Bool.or_eq_true,List.contains_iff_mem] at unreserved
  rcases unreserved with alphanum | sign
  · exact isAscii_of_isAlphanum alphanum
  · have signs : ∀ c ∈ "-._~".toList, c.toNat < 0x80 := mem_forall (by decide)
    exact signs c sign

theorem isAscii_of_isWritten (ascii : ∀ c, plain c = true → c.toNat < 0x80)
    (written : isWritten plain c = true) : c.toNat < 0x80 := by
  simp only [isWritten,Bool.or_eq_true,beq_iff_eq] at written
  rcases written with (unreserved | own) | rfl
  · exact isAscii_of_isUnreserved unreserved
  · exact ascii c own
  · decide

theorem isAscii_of_inPath (own : inPath c = true) : c.toNat < 0x80 := by
  simp only [inPath,inQuery,isPrintableAscii,Bool.and_eq_true,decide_eq_true_eq] at own
  omega

theorem isAscii_of_inUserInfo (own : inUserInfo c = true) : c.toNat < 0x80 := by
  rw [inUserInfo,Bool.and_eq_true] at own
  exact isAscii_of_inPath own.1

theorem inPath_of_isWritten (written : isWritten inPath c = true) : inPath c = true := by
  refine ascii_forall (P := fun c => isWritten inPath c = true → inPath c = true) ?_
    (isAscii_of_isWritten (fun _ => isAscii_of_inPath) written) written
  simp only [isWritten,isUnreserved,inPath,inQuery]
  decide

theorem inPath_slash : inPath '/' = true := by
  simp only [inPath,inQuery]
  decide

theorem inPath_percent : inPath '%' = true := by
  simp only [inPath,inQuery]
  decide

end Classes

end Percent
end ScopedAnalytics
