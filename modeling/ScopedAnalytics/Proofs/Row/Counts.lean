import ScopedAnalytics.Proofs.Numeral.Integers
import ScopedAnalytics.Proofs.Row.Refusals

/-! Which values are counts: nothing, an integer or the text of one, and never one below zero. -/
namespace ScopedAnalytics.Row

/-- An integer that a JSON value stands for, as a number or by its text. -/
inductive Denotes : Json → Int → Prop
  | number (n : Int) : Denotes (.int n) n
  | text {t : Text} {cs : List Char} {n : Int} (chars : t.chars? = some cs)
      (written : Numeral.IsInteger cs n) : Denotes (.text t) n

section Reading
variable {value : Json} {n : Int} {t : Text}

private theorem denotes_text_iff : Denotes (.text t) n ↔
    (t.chars? >>= Numeral.readInteger?) = some n := by
  rw [Option.bind_eq_bind,Option.bind_eq_some_iff]
  constructor
  · rintro ⟨⟩
    rename_i cs chars written
    exact ⟨cs,chars,Numeral.readInteger?_iff.mpr written⟩
  · rintro ⟨cs,chars,read⟩
    exact .text chars (Numeral.readInteger?_iff.mp read)

theorem decodeCount_of_denotes (denotes : Denotes value n) :
    decodeCount value = if n < 0 then .error (.negativeCount value) else .ok (some n) := by
  cases denotes with
  | number => rfl
  | text chars written =>
    have read := denotes_text_iff.mp (.text chars written)
    simp only [decodeCount,read]

theorem decodeCount_of_not_denotes (given : ∀ n, ¬Denotes value n) (some : value ≠ .null) :
    decodeCount value = .error (.invalid "count" value) := by
  cases value with
  | null => exact absurd rfl some
  | int n => exact absurd (.number n) (given n)
  | text t =>
    have unread : (t.chars? >>= Numeral.readInteger?) = none :=
      Option.eq_none_iff_forall_ne_some.mpr fun n read => given n (denotes_text_iff.mpr read)
    simp only [decodeCount,unread]
  | bool b => rfl
  | float x => rfl
  | list items => rfl
  | object members => rfl

theorem not_denotes_null : ¬Denotes .null n := nofun

theorem Denotes.unique {m : Int} (one : Denotes value n) (other : Denotes value m) : n = m := by
  cases one with
  | number => cases other; rfl
  | text chars written =>
    have read := denotes_text_iff.mp (.text chars written)
    exact Option.some.inj (read.symm.trans (denotes_text_iff.mp other))

private theorem value_cases (value : Json) :
    value = .null ∨ (∃ n, Denotes value n) ∨ value ≠ .null ∧ ∀ n, ¬Denotes value n := by
  by_cases none : value = .null
  · exact .inl none
  · by_cases given : ∃ n, Denotes value n
    · exact .inr (.inl given)
    · exact .inr (.inr ⟨none,not_exists.mp given⟩)

theorem decodeCount_none_iff : decodeCount value = .ok none ↔ value = .null := by
  rcases value_cases value with rfl | ⟨n,denotes⟩ | ⟨some,given⟩
  · exact iff_of_true rfl rfl
  · have some : value ≠ .null := by
      rintro rfl
      exact not_denotes_null denotes
    rw [decodeCount_of_denotes denotes]
    split <;> simp [some]
  · simp [decodeCount_of_not_denotes given some,some]

theorem decodeCount_some_iff : decodeCount value = .ok (some n) ↔ Denotes value n ∧ 0 ≤ n := by
  rcases value_cases value with rfl | ⟨m,denotes⟩ | ⟨some,given⟩
  · exact iff_of_false nofun fun denotes => not_denotes_null denotes.1
  · rw [decodeCount_of_denotes denotes]
    constructor
    · intro accepted
      split at accepted
      · cases accepted
      · rename_i natural
        obtain rfl : m = n := Option.some.inj (Except.ok.inj accepted)
        exact ⟨denotes,Int.not_lt.mp natural⟩
    · rintro ⟨other,natural⟩
      obtain rfl := denotes.unique other
      exact if_neg (Int.not_lt.mpr natural)
  · rw [decodeCount_of_not_denotes given some]
    exact iff_of_false nofun fun denotes => given n denotes.1

/-- What a value that is refused stands for is negative, or it stands for no integer. -/
theorem of_decodeCount_error {u : Undecodable} (refused : decodeCount value = .error u) :
    (∃ n, Denotes value n ∧ n < 0) ∧ u = .negativeCount value ∨
      (∀ n, ¬Denotes value n) ∧ u = .invalid "count" value := by
  rcases value_cases value with rfl | ⟨n,denotes⟩ | ⟨some,given⟩
  · cases refused
  · rw [decodeCount_of_denotes denotes] at refused
    split at refused
    · rename_i negative
      exact .inl ⟨⟨n,denotes,negative⟩,(Except.error.inj refused).symm⟩
    · cases refused
  · rw [decodeCount_of_not_denotes given some] at refused
    exact .inr ⟨given,(Except.error.inj refused).symm⟩

end Reading

/-- A count is decoded from null, which is none, and from what stands for an integer that is not
negative. Everything else is refused as undecodable, with a message of its own if it stands for a
negative integer: Booleans, numbers with a point even if nothing comes after it, lists, objects and all
other texts. What holds an integer of too many digits cannot be told of in such a message. A natural
number and its decimal text give the same count, up to the limit of digits. -/
theorem decodeCount_decides (value : Json) :
    (decodeCount value = .ok none ↔ value = .null) ∧
      (∀ n, decodeCount value = .ok (some n) ↔ Denotes value n ∧ 0 ≤ n) ∧
      (∀ u, decodeCount value = .error u →
        (value.isWritable = true → u.failure.kind = .undecodable) ∧
        (value.isWritable = false → u.failure = .unwritable) ∧
        ((∃ n, Denotes value n ∧ n < 0) ∧ u = .negativeCount value ∨
          (∀ n, ¬Denotes value n) ∧ u = .invalid "count" value)) ∧
      (∀ b, ∃ u, decodeCount (.bool b) = .error u) ∧ (∀ x, ∃ u, decodeCount (.float x) = .error u) ∧
      (∀ items, ∃ u, decodeCount (.list items) = .error u) ∧
      (∀ members, ∃ u, decodeCount (.object members) = .error u) ∧
      (∀ s ∈ ["","4.2","1__0","_1"], ∃ u, decodeCount (.str s) = .error u) ∧
      ∀ n : Nat, n < 10 ^ Numeral.digitLimit →
        decodeCount (.str (toString n)) = .ok (some n) ∧ decodeCount (.int n) = .ok (some n) := by
  refine ⟨decodeCount_none_iff,fun _ => decodeCount_some_iff,fun u refused => ?_,fun _ => ⟨_,rfl⟩,
    fun _ => ⟨_,rfl⟩,fun _ => ⟨_,rfl⟩,fun _ => ⟨_,rfl⟩,fun s member => ?_,fun n short => ?_⟩
  · have why := of_decodeCount_error refused
    have told : u.IsTold ↔ value.isWritable = true := by
      rcases why with ⟨_,rfl⟩ | ⟨_,rfl⟩ <;> exact Undecodable.isTold_iff rfl
    have small : u ≠ .changeTooLarge := by
      rcases why with ⟨_,rfl⟩ | ⟨_,rfl⟩ <;> simp
    refine ⟨fun writable => ?_,fun unwritable => ?_,why⟩
    · rw [Undecodable.failure_of_isTold (told.mpr writable)]
      exact Undecodable.kind_eq_undecodable_iff.mpr small
    · refine Undecodable.failure_of_not_isTold fun tells => ?_
      rw [told.mp tells] at unwritable
      cases unwritable
  · have unread : Numeral.readInteger? s.toList = none := by
      revert s
      decide
    refine ⟨_,decodeCount_of_not_denotes (fun n denotes => ?_) (by simp [Json.str])⟩
    have read := denotes_text_iff.mp denotes
    rw [Text.chars?_ofString,Option.bind_eq_bind,Option.bind_some,unread] at read
    cases read
  · have natural : 0 ≤ (n : Int) := Int.natCast_nonneg n
    have written := Denotes.text (Text.chars?_ofString (toString n)) (Numeral.isInteger_toString short)
    exact ⟨decodeCount_some_iff.mpr ⟨written,natural⟩,decodeCount_some_iff.mpr ⟨.number n,natural⟩⟩

end ScopedAnalytics.Row
