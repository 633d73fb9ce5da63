import Mathlib.Data.List.Basic
import ScopedAnalytics.Proofs.Http.Percent
import ScopedAnalytics.Proofs.Numeral.Integers
import ScopedAnalytics.Row.Decoding

/-! Which texts name an identifier, and which identifier they name. What a text holds besides marks,
braces and hyphens has to be 32 characters long and the text of an integer in base sixteen. Digits alone
are such a text, but a sign, a base mark, underscores between digits and blanks count as well. -/
namespace ScopedAnalytics

namespace Uuid

section Marks
variable {first c : Char} {word cs out rest : List Char}

/-- A text without the occurrences of a word, taken out from left to right. -/
inductive Without (word : List Char) : List Char → List Char → Prop
  | done : Without word [] []
  | skip {rest out : List Char} (here : Without word rest out) : Without word (word ++ rest) out
  | keep {c : Char} {rest out : List Char} (other : ¬word <+: c :: rest)
      (here : Without word rest out) : Without word (c :: rest) (c :: out)

private theorem without_skipping (word : List Char) (cs : List Char) :
    ∀ left, without word left cs = without word 0 (cs.drop left) := by
  induction cs with
  | nil => intro left; simp [without]
  | cons c cs ih =>
    intro left
    cases left with
    | zero => rfl
    | succ left => rw [without,List.drop_succ_cons,ih left]

private theorem without_without (first : Char) (word : List Char) (cs : List Char) :
    ∀ left, Without (first :: word) (cs.drop left) (without (first :: word) left cs) := by
  induction cs with
  | nil => intro left; simpa [without] using Without.done
  | cons c cs ih =>
    intro left
    cases left with
    | succ left => exact ih left
    | zero =>
      rw [List.drop_zero,without]
      split
      · rename_i found
        obtain ⟨rest,same⟩ := List.isPrefixOf_iff_prefix.mp found
        have after : cs.drop word.length = rest := by
          rw [← (List.cons.inj same).2]
          simp
        rw [← same]
        exact .skip (after ▸ ih word.length)
      · rename_i other
        exact .keep (mt List.isPrefixOf_iff_prefix.mpr other) (ih 0)

theorem without_iff (some : word ≠ []) : Without word cs out ↔ without word 0 cs = out := by
  obtain ⟨first,word,rfl⟩ := List.exists_cons_of_ne_nil some
  constructor
  · intro taken
    induction taken with
    | done => rfl
    | skip _ ih =>
      rename_i rest _ _
      have found : (first :: word).isPrefixOf (first :: (word ++ rest)) = true :=
        List.isPrefixOf_iff_prefix.mpr ⟨rest,rfl⟩
      rw [List.cons_append,without,if_pos found,without_skipping]
      simpa using ih
    | keep other _ ih => rw [without,if_neg (mt List.isPrefixOf_iff_prefix.mp other),ih]
  · rintro rfl
    exact without_without first word cs 0

/-- What is left of a text as the marks `urn:` and then the marks `uuid:` are taken out, the braces at
its ends are trimmed and all hyphens are left out. -/
def Leaves (cs rest : List Char) : Prop :=
  ∃ unmarked bare inner, Without "urn:".toList cs unmarked ∧ Without "uuid:".toList unmarked bare ∧
    IsTrimmed isBrace bare inner ∧ rest = inner.filter (· != '-')

theorem leaves_iff : Leaves cs rest ↔ core cs = rest := by
  have urn {out : List Char} : Without "urn:".toList cs out ↔ without "urn:".toList 0 cs = out :=
    without_iff (by decide)
  have uuid {unmarked out : List Char} :
      Without "uuid:".toList unmarked out ↔ without "uuid:".toList 0 unmarked = out :=
    without_iff (by decide)
  constructor
  · rintro ⟨unmarked,bare,inner,first,second,trimmed,rfl⟩
    rw [core,urn.mp first,uuid.mp second,trim_eq_iff.mpr trimmed]
  · rintro rfl
    exact ⟨_,_,_,urn.mpr rfl,uuid.mpr rfl,trim_eq_iff.mp rfl,rfl⟩

/-- What a text holds besides marks, braces and hyphens, if that has the length of an identifier. -/
def Holds (t : Text) (rest : List Char) : Prop :=
  ∃ cs, t.chars? = some cs ∧ Leaves cs rest ∧ rest.length = 32

theorem Holds.unique {t : Text} {rest' : List Char} (holds : Holds t rest) (holds' : Holds t rest') :
    rest = rest' := by
  obtain ⟨cs,chars,leaves,_⟩ := holds
  obtain ⟨cs',chars',leaves',_⟩ := holds'
  obtain rfl := Option.some.inj (chars.symm.trans chars')
  exact (leaves_iff.mp leaves).symm.trans (leaves_iff.mp leaves')

end Marks

section Reading
open Numeral
variable {cs rest : List Char} {n : Int} {id : Uuid} {t : Text}

theorem ofInt?_eq_some_iff : ofInt? n = some id ↔ n = (id.value : Nat) := by
  unfold ofInt?
  constructor
  · intro read
    split at read
    · split at read
      · rename_i natural
        obtain rfl := Option.some.inj read
        exact (Int.toNat_of_nonneg natural).symm
      · cases read
    · cases read
  · rintro rfl
    simp

theorem read?_iff : (t.chars? >>= read?) = some id ↔
    ∃ rest, Holds t rest ∧ IsHexInteger rest (id.value : Nat) := by
  rw [Option.bind_eq_bind,Option.bind_eq_some_iff]
  constructor
  · rintro ⟨cs,chars,read⟩
    rw [read?] at read
    split at read
    · rename_i full
      obtain ⟨n,written,fits⟩ := Option.bind_eq_some_iff.mp read
      obtain rfl := ofInt?_eq_some_iff.mp fits
      exact ⟨core cs,⟨cs,chars,leaves_iff.mpr rfl,full⟩,readHexInteger?_iff.mp written⟩
    · cases read
  · rintro ⟨rest,⟨cs,chars,leaves,full⟩,written⟩
    refine ⟨cs,chars,?_⟩
    rw [read?,leaves_iff.mp leaves]
    simp only [if_pos full,readHexInteger?_iff.mpr written]
    exact ofInt?_eq_some_iff.mpr rfl

/-- An integer of few digits that is not negative is the number of an identifier. -/
theorem exists_of_isHexInteger (written : IsHexInteger rest n) (full : rest.length = 32)
    (natural : 0 ≤ n) : ∃ id : Uuid, n = (id.value : Nat) := by
  obtain ⟨_,_,_,digital⟩ := written
  rename_i front sign mark run back negative digits _ _ _
  have few : digits.length ≤ 32 := by
    have run_le := digital.length_le
    simp only [List.length_append] at full
    omega
  have bound : Nat.ofDigits 16 digits.reverse < Nat.pow 2 128 :=
    calc Nat.ofDigits 16 digits.reverse
      _ < 16 ^ digits.reverse.length :=
          Nat.ofDigits_lt_base_pow_length (by decide) fun d member =>
            digital.digits_lt d (List.mem_reverse.mp member)
      _ ≤ 16 ^ 32 := Nat.pow_le_pow_right (by decide) (by rwa [List.length_reverse])
      _ = Nat.pow 2 128 := by decide
  refine ⟨⟨_,bound⟩,?_⟩
  unfold signed at natural ⊢
  split <;> simp_all

end Reading

section Plain
open Numeral Percent
variable {c : Char} {cs other : List Char}

private theorem hexDigit_spec (hex : isHexDigit c = true) :
    digitValue? c = some (hexValue c) ∧ hexValue c < 16 ∧ c.toLower = (hexValue c).digitChar :=
  ascii_forall (P := fun c => isHexDigit c = true →
    digitValue? c = some (hexValue c) ∧ hexValue c < 16 ∧ c.toLower = (hexValue c).digitChar)
    (by decide) (isAscii_of_isHexDigit hex) hex

private theorem run_of_hexDigits (hex : ∀ c ∈ cs, isHexDigit c = true) (some : cs ≠ []) :
    Run 16 cs (cs.map hexValue) := by
  induction cs with
  | nil => exact absurd rfl some
  | cons c cs ih =>
    obtain ⟨value,small,_⟩ := hexDigit_spec (hex c List.mem_cons_self)
    cases cs with
    | nil => exact .last ⟨value,small⟩
    | cons d cs =>
      exact .next ⟨value,small⟩ (ih (fun e member => hex e (List.mem_cons_of_mem c member)) (by simp))

/-- Hexadecimal digits alone are the text of what they are worth. -/
theorem isHexInteger_of_hexDigits (hex : ∀ c ∈ cs, isHexDigit c = true) (some : cs ≠ []) :
    IsHexInteger cs ((Nat.ofDigits 16 (cs.map hexValue).reverse : Nat) : Int) := by
  have written := @IsHexInteger.written [] _ _ _ [] _ _ (by simp) .none .none
    (run_of_hexDigits hex some)
  simpa [signed] using written

/-- Hexadecimal digits in equal number are worth the same only if they agree up to case. -/
theorem ofDigits_hexDigits_inj (hex : ∀ c ∈ cs, isHexDigit c = true)
    (otherHex : ∀ c ∈ other, isHexDigit c = true) (long : cs.length = other.length) :
    Nat.ofDigits 16 (cs.map hexValue).reverse = Nat.ofDigits 16 (other.map hexValue).reverse ↔
      cs.map Char.toLower = other.map Char.toLower := by
  have small {cs : List Char} (hex : ∀ c ∈ cs, isHexDigit c = true) :
      ∀ d ∈ cs.map hexValue, d < 16 := by
    intro d member
    obtain ⟨c,inside,rfl⟩ := List.mem_map.mp member
    exact (hexDigit_spec (hex c inside)).2.1
  have lower {cs : List Char} (hex : ∀ c ∈ cs, isHexDigit c = true) :
      cs.map Char.toLower = (cs.map hexValue).map Nat.digitChar := by
    rw [List.map_map]
    exact List.map_congr_left fun c inside => (hexDigit_spec (hex c inside)).2.2
  rw [lower hex,lower otherHex]
  constructor
  · intro worth
    have same := Nat.ofDigits_inj_of_len_eq (by decide) (by simpa using long)
      (fun d member => small hex d (List.mem_reverse.mp member))
      (fun d member => small otherHex d (List.mem_reverse.mp member)) worth
    rw [List.reverse_injective same]
  · intro shown
    have read := digitsFrom?_digitChar true (small hex) (.inl rfl)
    rw [shown,digitsFrom?_digitChar true (small otherHex) (.inl rfl)] at read
    rw [Option.some.inj read]

end Plain
end Uuid

namespace Row
open Numeral Percent

theorem decodeUuid_some_iff {t : Text} {id : Uuid} : decodeUuid (.text t) = .ok (some id) ↔
    ∃ rest, Uuid.Holds t rest ∧ IsHexInteger rest (id.value : Nat) := by
  rw [← Uuid.read?_iff,decodeUuid,decodeText]
  cases t.chars? >>= Uuid.read? <;> simp

/-- Hexadecimal digits alone name the identifier of what they are worth. -/
theorem decodeUuid_of_hexDigits {t : Text} {rest : List Char} (holds : Uuid.Holds t rest)
    (hex : ∀ c ∈ rest, isHexDigit c = true) : ∃ id, decodeUuid (.text t) = .ok (some id) ∧
      (id.value : Nat) = Nat.ofDigits 16 (rest.map hexValue).reverse := by
  obtain ⟨_,_,_,full⟩ := id holds
  have some : rest ≠ [] := List.ne_nil_of_length_pos (by simp [full])
  have written := Uuid.isHexInteger_of_hexDigits hex some
  obtain ⟨id,same⟩ := Uuid.exists_of_isHexInteger written full (Int.natCast_nonneg _)
  exact ⟨id,decodeUuid_some_iff.mpr ⟨rest,holds,same ▸ written⟩,(Int.ofNat.inj same).symm⟩

/-- An identifier is decoded from a text if it holds, besides marks, braces and hyphens, 32 characters
that are the text of an integer in base sixteen, and it is the one with that number. Every other text is
refused as undecodable. So only hexadecimal digits name an identifier, except where such a text of an
integer has another character in it. Digits alone are read at their worth, and two texts of digits name
the same identifier only if the digits agree up to case. -/
theorem decodeUuid_decides (t : Text) :
    (∀ id, decodeUuid (.text t) = .ok (some id) ↔
      ∃ rest, Uuid.Holds t rest ∧ IsHexInteger rest (id.value : Nat)) ∧
    (∀ rest n, Uuid.Holds t rest → IsHexInteger rest n → 0 ≤ n →
      ∃ id, decodeUuid (.text t) = .ok (some id) ∧ n = (id.value : Nat)) ∧
    (((∃ id, decodeUuid (.text t) = .ok (some id)) →
        ∃ rest, Uuid.Holds t rest ∧ ∀ c ∈ rest, isHexDigit c = true) ↔
      ∀ rest n, Uuid.Holds t rest → IsHexInteger rest n → 0 ≤ n → ∀ c ∈ rest, isHexDigit c = true) ∧
    ((∀ id, decodeUuid (.text t) ≠ .ok (some id)) → ∃ u, decodeUuid (.text t) = .error u ∧
      u.failure = ⟨.undecodable,("invalid uuid: " ++ t.quoted : String)⟩) ∧
    (∀ rest, Uuid.Holds t rest → (∀ c ∈ rest, isHexDigit c = true) →
      ∃ id, decodeUuid (.text t) = .ok (some id) ∧
        (id.value : Nat) = Nat.ofDigits 16 (rest.map hexValue).reverse) ∧
    ∀ other rest otherRest, Uuid.Holds t rest → Uuid.Holds other otherRest →
      (∀ c ∈ rest, isHexDigit c = true) → (∀ c ∈ otherRest, isHexDigit c = true) →
      (decodeUuid (.text t) = decodeUuid (.text other) ↔
        rest.map Char.toLower = otherRest.map Char.toLower) := by
  have decodes (rest : List Char) (n : Int) (holds : Uuid.Holds t rest) (written : IsHexInteger rest n)
      (natural : 0 ≤ n) : ∃ id, decodeUuid (.text t) = .ok (some id) ∧ n = (id.value : Nat) := by
    obtain ⟨_,_,_,full⟩ := id holds
    obtain ⟨id,same⟩ := Uuid.exists_of_isHexInteger written full natural
    exact ⟨id,decodeUuid_some_iff.mpr ⟨rest,holds,same ▸ written⟩,same⟩
  refine ⟨fun _ => decodeUuid_some_iff,decodes,⟨?_,?_⟩,fun unnamed => ?_,
    fun _ => decodeUuid_of_hexDigits,fun other rest otherRest holds otherHolds hex otherHex => ?_⟩
  · intro meets rest n holds written natural
    obtain ⟨id,decoded,_⟩ := decodes rest n holds written natural
    obtain ⟨rest',holds',hex⟩ := meets ⟨id,decoded⟩
    exact holds.unique holds' ▸ hex
  · rintro plain ⟨id,decoded⟩
    obtain ⟨rest,holds,written⟩ := decodeUuid_some_iff.mp decoded
    exact ⟨rest,holds,plain rest _ holds written (Int.natCast_nonneg _)⟩
  · cases read : t.chars? >>= Uuid.read? with
    | none => exact ⟨.invalid "uuid" (.text t),by simp [decodeUuid,decodeText,read],rfl⟩
    | some id => exact absurd (by simp [decodeUuid,decodeText,read]) (unnamed id)
  · obtain ⟨id,decoded,worth⟩ := decodeUuid_of_hexDigits holds hex
    obtain ⟨otherId,otherDecoded,otherWorth⟩ := decodeUuid_of_hexDigits otherHolds otherHex
    obtain ⟨_,_,_,full⟩ := holds
    obtain ⟨_,_,_,otherFull⟩ := otherHolds
    rw [decoded,otherDecoded,← Uuid.ofDigits_hexDigits_inj hex otherHex (full.trans otherFull.symm),
      ← worth,← otherWorth]
    cases id
    cases otherId
    simp [Fin.ext_iff]

/-- A text with an underscore between its digits names the identifier that it would name with a zero in
front instead. -/
theorem decodeUuid_underscore :
    ∃ id rest, Uuid.Holds "6f1c8f6e-3b1a-4a4e-9a57-0c6f2a1d9_10" rest ∧
      (¬∀ c ∈ rest, isHexDigit c = true) ∧
      decodeUuid (.str "6f1c8f6e-3b1a-4a4e-9a57-0c6f2a1d9_10") = .ok (some id) ∧
      decodeUuid (.str "06f1c8f6-e3b1-a4a4-e9a5-70c6f2a1d910") = .ok (some id) := by
  have read {s : String} {id : Uuid} (named : Uuid.read? s.toList = some id) :
      decodeUuid (.str s) = .ok (some id) := by
    rw [Json.str,decodeUuid,decodeText,Text.chars?_ofString,Option.bind_eq_bind,Option.bind_some,named]
  refine ⟨⟨0x06f1c8f6e3b1a4a4e9a570c6f2a1d910,by decide⟩,"6f1c8f6e3b1a4a4e9a570c6f2a1d9_10".toList,
    ⟨_,Text.chars?_ofString _,Uuid.leaves_iff.mpr (by decide),rfl⟩,
    fun hex => absurd (hex '_' (by simp)) (by decide),?_,?_⟩
  · exact read (by decide)
  · exact read (by decide)

end Row
end ScopedAnalytics
