import ScopedAnalytics.Json.Encoded
import ScopedAnalytics.Json.Writer
import ScopedAnalytics.Proofs.Except
import ScopedAnalytics.Proofs.Numeral.Writing

/-! Values that have a text: those all of whose integers have one. Every value that is read has. -/
namespace ScopedAnalytics.Json

section Parts
variable {items : List Json} {members : List (Text × Json)} {name : Text} {value : Json}

theorem areWritable_eq (items : List Json) : areWritable items = items.all isWritable := by
  induction items with
  | nil => rfl
  | cons item items ih => rw [areWritable,ih,List.all_cons]

theorem haveWritable_eq (members : List (Text × Json)) :
    haveWritable members = members.all (·.2.isWritable) := by
  induction members with
  | nil => rfl
  | cons member members ih => rw [haveWritable,ih,List.all_cons]

@[simp] theorem isWritable_list : (list items).isWritable = items.all isWritable := by
  rw [isWritable,areWritable_eq]

@[simp] theorem isWritable_object : (object members).isWritable = members.all (·.2.isWritable) := by
  rw [isWritable,haveWritable_eq]

@[simp] theorem isWritable_int {n : Int} : (int n).isWritable = Numeral.isWritable n := by
  rw [isWritable]

@[simp] theorem isWritable_null : null.isWritable = true := by simp [isWritable]

@[simp] theorem isWritable_bool {b : Bool} : (bool b).isWritable = true := by simp [isWritable]

@[simp] theorem isWritable_float {x : Binary64} : (float x).isWritable = true := by simp [isWritable]

@[simp] theorem isWritable_text {t : Text} : (text t).isWritable = true := by simp [isWritable]

@[simp] theorem isWritable_str {s : String} : (str s).isWritable = true := isWritable_text

@[simp] theorem isWritable_strs {texts : List String} : (strs texts).isWritable = true := by
  simp [strs]

@[simp] theorem isWritable_ofMembers {members : List (String × Json)} :
    (ofMembers members).isWritable = members.all (·.2.isWritable) := by
  simp [ofMembers,Function.comp_def]

theorem isWritable_of_member? {found : Json} (writable : (object members).isWritable = true)
    {name : String} (held : member? members name = some found) : found.isWritable = true := by
  obtain ⟨member,listed,rfl⟩ := Option.map_eq_some_iff.mp held
  rw [isWritable_object,List.all_eq_true] at writable
  exact writable member (List.mem_of_find?_eq_some listed)

private theorem setMember_isWritable (writable : members.all (·.2.isWritable) = true)
    (own : value.isWritable = true) :
    (setMember members name value).all (·.2.isWritable) = true := by
  rw [List.all_eq_true] at writable ⊢
  unfold setMember
  split
  · intro member listed
    obtain ⟨other,held,rfl⟩ := List.mem_map.mp listed
    split
    · exact own
    · exact writable other held
  · intro member listed
    rcases List.mem_append.mp listed with held | last
    · exact writable member held
    · rw [List.mem_singleton.mp last]
      exact own

end Parts

section Numbers
variable {start rest : Rest} {value : Json}

private theorem ofDigitChars_lt {cs : List Char} (digits : ∀ c ∈ cs, '0' ≤ c ∧ c ≤ '9') :
    Nat.ofDigitChars 10 cs 0 < 10 ^ cs.length := by
  induction cs with
  | nil => simp
  | cons c cs ih =>
    have later := ih fun d member => digits d (List.mem_cons_of_mem _ member)
    have small : c.toNat - '0'.toNat < 10 := by
      have last : c.toNat ≤ '9'.toNat := (digits c List.mem_cons_self).2
      have bound : '9'.toNat - '0'.toNat < 10 := by decide
      omega
    rw [Nat.ofDigitChars_cons,Nat.ofDigitChars_eq_ofDigitChars_zero,List.length_cons,Nat.pow_succ,
      Nat.mul_zero,Nat.zero_add]
    calc 10 ^ cs.length * (c.toNat - '0'.toNat) + Nat.ofDigitChars 10 cs 0
        < 10 ^ cs.length * (c.toNat - '0'.toNat) + 10 ^ cs.length := by omega
      _ = 10 ^ cs.length * (c.toNat - '0'.toNat + 1) := by rw [Nat.mul_succ]
      _ ≤ 10 ^ cs.length * 10 := Nat.mul_le_mul_left _ small

private theorem splitWhole?_digits {whole : List Char} (split : splitWhole? start = some (whole,rest)) :
    ∀ c ∈ whole, '0' ≤ c ∧ c ≤ '9' := by
  unfold splitWhole? at split
  split at split
  · obtain ⟨rfl,_⟩ := Prod.mk.inj (Option.some.inj split)
    simp
  · rename_i rest' _
    split at split
    · cases split
    · obtain ⟨rfl,_⟩ := Prod.mk.inj (Option.some.inj split)
      intro c member
      obtain ⟨letter,taken,rfl⟩ := List.mem_map.mp member
      have digit := List.mem_takeWhile_imp taken
      cases letter with
      | half offset => cases digit
      | char c => simpa [isDigit,Letter.shown] using digit

private theorem readNumber_isWritable (read : readNumber start = .ok (value,rest)) :
    value.isWritable = true := by
  unfold readNumber at read
  dsimp only at read
  split at read
  · cases read
  · rename_i whole after found
    split at read
    · split at read
      · cases read
      · rename_i short
        obtain ⟨rfl,_⟩ := Prod.mk.inj (Except.ok.inj read)
        rw [isWritable_int]
        exact Numeral.isWritable_signed (Nat.le_of_not_lt short)
          (ofDigitChars_lt (splitWhole?_digits found))
    · obtain ⟨rfl,_⟩ := Prod.mk.inj (Except.ok.inj read)
      exact isWritable_float

private theorem readPlain_isWritable (read : readPlain start = .ok (value,rest)) :
    value.isWritable = true := by
  unfold readPlain at read
  split at read
  · rename_i found held
    obtain rfl := Except.ok.inj read
    obtain ⟨word,listed,after⟩ := List.exists_of_findSome?_eq_some held
    obtain ⟨_,_,same⟩ := Option.map_eq_some_iff.mp after
    obtain ⟨rfl,_⟩ := Prod.mk.inj same
    have all : ∀ word ∈ words, word.2.isWritable = true := by simp [words]
    exact all word listed
  · exact readNumber_isWritable read

end Numbers

section Reading
variable {value : Json}

/-- What a reader of values, of items or of members gives is writable, one that adds to members if
those before are. -/
private structure ReadsWritable (fuel : Nat) : Prop where
  value : ∀ {levels start value rest}, readValue levels fuel start = .ok (value,rest) →
    value.isWritable = true
  items : ∀ {levels start items rest}, readItems levels fuel start = .ok (items,rest) →
    items.all isWritable = true
  members : ∀ {levels before start members rest},
    readMembers levels fuel before start = .ok (members,rest) →
      before.all (·.2.isWritable) = true → members.all (·.2.isWritable) = true

/-- One induction on the fuel carries the three readers, each of which calls the others with less. -/
private theorem readsWritable (fuel : Nat) : ReadsWritable fuel := by
  induction fuel with
  | zero =>
    constructor
    · intro levels start value rest read
      cases read
    · intro levels start items rest read
      cases read
    · intro levels before start members rest read
      cases read
  | succ fuel ih =>
    constructor
    case value =>
      intro levels start value rest read
      unfold readValue at read
      split at read
      · obtain ⟨_,_,read⟩ := except_bind_ok read
        obtain ⟨rfl,_⟩ := Prod.mk.inj (Except.ok.inj read)
        exact isWritable_text
      · split at read
        · cases read
        · split at read
          · obtain ⟨rfl,_⟩ := Prod.mk.inj (Except.ok.inj read)
            simp
          · obtain ⟨_,items,read⟩ := except_bind_ok read
            obtain ⟨rfl,_⟩ := Prod.mk.inj (Except.ok.inj read)
            rw [isWritable_list]
            exact ih.items items
      · split at read
        · cases read
        · split at read
          · obtain ⟨rfl,_⟩ := Prod.mk.inj (Except.ok.inj read)
            simp
          · obtain ⟨_,members,read⟩ := except_bind_ok read
            obtain ⟨rfl,_⟩ := Prod.mk.inj (Except.ok.inj read)
            rw [isWritable_object]
            exact ih.members members (by simp)
      · exact readPlain_isWritable read
    case items =>
      intro levels start items rest read
      unfold readItems at read
      obtain ⟨_,first,read⟩ := except_bind_ok read
      dsimp only at read
      split at read
      · obtain ⟨_,others,read⟩ := except_bind_ok read
        obtain ⟨rfl,_⟩ := Prod.mk.inj (Except.ok.inj read)
        rw [List.all_cons,ih.value first,ih.items others]
        rfl
      · obtain ⟨rfl,_⟩ := Prod.mk.inj (Except.ok.inj read)
        rw [List.all_cons,ih.value first]
        rfl
      · cases read
    case members =>
      intro levels before start members rest read writable
      unfold readMembers at read
      split at read
      · obtain ⟨_,_,read⟩ := except_bind_ok read
        dsimp only at read
        split at read
        · obtain ⟨_,own,read⟩ := except_bind_ok read
          split at read
          · exact ih.members read (setMember_isWritable writable (ih.value own))
          · obtain ⟨rfl,_⟩ := Prod.mk.inj (Except.ok.inj read)
            exact setMember_isWritable writable (ih.value own)
          · cases read
        · cases read
      · cases read

theorem ofText_isWritable {text : Text} (read : ofText text = .ok value) :
    value.isWritable = true := by
  have read := mapError_ok read
  unfold readAll at read
  split at read
  · cases read
  · obtain ⟨_,whole,read⟩ := except_bind_ok read
    dsimp only at read
    split at read
    · obtain rfl := Except.ok.inj read
      exact (readsWritable _).value whole
    · cases read

theorem ofBytes_isWritable {bytes : List UInt8} (read : ofBytes bytes = .ok value) :
    value.isWritable = true := by
  unfold ofBytes at read
  dsimp only at read
  split at read
  · exact ofText_isWritable read
  · cases read

end Reading

end ScopedAnalytics.Json
