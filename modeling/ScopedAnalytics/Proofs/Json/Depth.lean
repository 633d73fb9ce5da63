import ScopedAnalytics.Json.Encoded

/-! Texts that are nested deeper than the reader goes. It stops at the bracket that opens one level too
many, whatever follows it. -/
namespace ScopedAnalytics

theorem Charset.decodeUtf8_ascii (halves : Bool) {bytes : List Nat} (ascii : ∀ b ∈ bytes, b < 0x80) :
    decodeUtf8 halves bytes = bytes.map some := by
  induction bytes with
  | nil => simp [decodeUtf8]
  | cons b bytes ih =>
    have small : b < 0x80 := ascii b List.mem_cons_self
    rw [decodeUtf8,continuation?,if_pos small]
    simp only [leadBits,continueCode,if_true,List.map_cons,List.cons.injEq,true_and]
    exact ih fun b member => ascii b (List.mem_cons_of_mem _ member)

namespace Json

private theorem readValue_first {levels fuel : Nat} {rest : Rest} {obstacle : Obstacle}
    (stops : readValue levels fuel (.char '[' :: rest) = .error obstacle) :
    readValue (levels + 1) (fuel + 2) (.char '[' :: .char '[' :: rest) = .error obstacle := by
  have gap : skipGap (.char '[' :: rest) = .char '[' :: rest :=
    List.dropWhile_cons_of_neg (by decide)
  have items : readItems levels (fuel + 1) (.char '[' :: rest) = .error obstacle := by
    rw [readItems,stops]
    rfl
  have opened : readValue (levels + 1) (fuel + 2) (.char '[' :: .char '[' :: rest) =
      (readItems levels (fuel + 1) (.char '[' :: rest) >>= fun read =>
        .ok (.list read.1,read.2)) := by
    simp only [readValue]
    rw [gap]
    rfl
  rw [opened,items]
  rfl

def brackets (count : Nat) : List Letter := List.replicate count (.char '[')

/-- The reader stops at the first bracket for which no level is left. -/
theorem readValue_brackets (levels : Nat) {fuel : Nat} (enough : 2 * levels < fuel) (rest : Rest) :
    readValue levels fuel (brackets (levels + 1) ++ rest) = .error (.tooDeep false) := by
  -- Each bracket costs one level and two of the fuel.
  induction levels generalizing fuel with
  | zero =>
    obtain ⟨fuel,rfl⟩ := Nat.exists_eq_succ_of_ne_zero (Nat.ne_of_gt enough)
    simp [readValue,brackets]
  | succ levels ih =>
    obtain ⟨fuel,rfl⟩ : ∃ more, fuel = more + 2 := ⟨fuel - 2,by omega⟩
    exact readValue_first (ih (by omega))

private theorem brackets_append (count more : Nat) :
    brackets (count + more) = brackets count ++ brackets more :=
  (List.replicate_append_replicate).symm

theorem ofText_brackets {count : Nat} (deep : depthLimit < count) :
    ofText ⟨brackets count⟩ = .error (.tooDeep false) := by
  obtain ⟨more,rfl⟩ : ∃ more, count = depthLimit + 1 + more :=
    ⟨_,(Nat.add_sub_cancel' deep).symm⟩
  have first : brackets (depthLimit + 1 + more) = .char '[' :: brackets (depthLimit + more) := by
    rw [brackets,Nat.add_right_comm,List.replicate_succ]
    rfl
  have unmarked : (⟨brackets (depthLimit + 1 + more)⟩ : Text).startsWith "\uFEFF" = false := by
    rw [Text.startsWith,first]
    rfl
  have gap : skipGap (brackets (depthLimit + 1 + more)) = brackets (depthLimit + 1 + more) := by
    rw [first]
    exact List.dropWhile_cons_of_neg (by decide)
  have stops : readAll ⟨brackets (depthLimit + 1 + more)⟩ = .error (.tooDeep false) := by
    have enough : 2 * depthLimit < 2 * (brackets (depthLimit + 1 + more)).length + 2 := by
      rw [brackets,List.length_replicate]
      omega
    rw [readAll,unmarked,if_neg Bool.false_ne_true]
    simp only [gap]
    rw [brackets_append (depthLimit + 1) more] at enough ⊢
    rw [readValue_brackets depthLimit enough]
    rfl
  rw [ofText,stops]
  rfl

theorem ofBytes_brackets {count : Nat} (deep : depthLimit < count) :
    ofBytes (List.replicate count 0x5B) = .error (.tooDeep false) := by
  have bytes : (List.replicate count (0x5B : UInt8)).map UInt8.toNat = List.replicate count 0x5B :=
    List.map_replicate
  have form : formOf (List.replicate count 0x5B) = .utf8 false := by
    obtain ⟨more,rfl⟩ : ∃ more, count = more + 4 := ⟨count - 4,by unfold depthLimit at deep; omega⟩
    rfl
  have codes : ((Charset.Unicode.utf8 false).decode true (List.replicate count 0x5B)).mapM id =
      some (List.replicate count 0x5B) := by
    have ascii : ∀ b ∈ List.replicate count 0x5B, b < 0x80 := by
      intro b member
      rw [List.eq_of_mem_replicate member]
      decide
    rw [Charset.Unicode.decode,Bool.false_and,if_neg Bool.false_ne_true,
      Charset.decodeUtf8_ascii true ascii,List.mapM_map]
    exact List.mapM_pure.trans (congrArg some (List.map_id _))
  have letters : (List.replicate count 0x5B).map Letter.ofCode = brackets count := List.map_replicate
  rw [ofBytes,bytes,form,codes]
  simp only [letters]
  exact ofText_brackets deep

end Json
end ScopedAnalytics
