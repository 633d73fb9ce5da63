import ScopedAnalytics.Proofs.Json.Writable
import ScopedAnalytics.Proofs.Numeral.Overflow
import ScopedAnalytics.Row.Decoding

/-! Why a response cannot be decoded. Every cause is a decoding failure but two: an integer change
that is too large for a floating-point number, which is found by the conversion itself, and a value that
cannot be told of, which is none that was read. -/
namespace ScopedAnalytics

namespace Undecodable
variable {u : Undecodable}

/-- Whether the value that a message tells of can be told. -/
def IsTold (u : Undecodable) : Prop := ∀ value, u.value? = some value → value.isWritable = true

theorem all_isWritable_iff : u.value?.all Json.isWritable = true ↔ u.IsTold := by
  rw [Option.all_eq_true]
  rfl

theorem failure_of_isTold (told : u.IsTold) : u.failure = ⟨u.kind,u.message⟩ :=
  if_pos (all_isWritable_iff.mpr told)

theorem failure_of_not_isTold (untold : ¬u.IsTold) : u.failure = .unwritable :=
  if_neg (mt all_isWritable_iff.mp untold)

theorem isTold_iff {value : Json} (told : u.value? = some value) :
    u.IsTold ↔ value.isWritable = true := by
  rw [← all_isWritable_iff,told,Option.all_some]

theorem kind_eq_undecodable_iff : u.kind = .undecodable ↔ u ≠ .changeTooLarge := by
  cases u <;> simp [kind]

/-- What a refusal fails as: as undecodable or as too large, or as unwritable if it cannot be told. -/
theorem failure_cases (refused : u ≠ .changeTooLarge) :
    u.IsTold ∧ u.failure.kind = .undecodable ∨ ¬u.IsTold ∧ u.failure = .unwritable := by
  by_cases told : u.IsTold
  · rw [failure_of_isTold told]
    exact .inl ⟨told,kind_eq_undecodable_iff.mpr refused⟩
  · exact .inr ⟨told,failure_of_not_isTold told⟩

end Undecodable

namespace Row

variable {resource : Resource}

/-- The members of a row whose count can be decoded and whose change is an integer beyond the finite
floating-point numbers. -/
def IsOverlong (resource : Resource) (members : List (Text × Json)) : Prop :=
  (∃ count, decodeCount (valueOf members (resource.member "count")) = .ok count) ∧
    ∃ n, valueOf members (resource.member "change") = .int n ∧ Binary64.beyond ≤ n.natAbs

section Fields

private theorem decodeCount_ne (value : Json) : decodeCount value ≠ .error .changeTooLarge := by
  unfold decodeCount
  cases value with
  | int n =>
    dsimp only
    split <;> simp
  | text t =>
    dsimp only
    split
    · split <;> simp
    · simp
  | _ => simp

private theorem decodeText_ne {α : Type} (field : String) (read? : List Char → Option α)
    (value : Json) : decodeText field read? value ≠ .error .changeTooLarge := by
  unfold decodeText
  cases value with
  | text t =>
    dsimp only
    split <;> simp
  | _ => simp

private theorem integerChange_iff (n : Int) :
    integerChange n = .error .changeTooLarge ↔ Binary64.beyond ≤ n.natAbs := by
  rw [← Binary64.ofInt?_eq_none_iff]
  unfold integerChange
  cases Binary64.ofInt? n <;> simp

private theorem decodeChange_iff (value : Json) : decodeChange value = .error .changeTooLarge ↔
    ∃ n, value = .int n ∧ Binary64.beyond ≤ n.natAbs := by
  unfold decodeChange
  cases value with
  | int n =>
    dsimp only
    rw [integerChange_iff]
    constructor
    · exact fun large => ⟨n,rfl,large⟩
    · rintro ⟨m,same,large⟩
      obtain rfl := Json.int.inj same
      exact large
  | float x =>
    dsimp only
    split <;> simp
  | text t =>
    dsimp only
    split
    · split <;> simp
    · simp
  | _ => simp

end Fields

section Telling
variable {value : Json} {members : List (Text × Json)}

private theorem isTold_invalid (field : String) (writable : value.isWritable = true) :
    (Undecodable.invalid field value).IsTold :=
  (Undecodable.isTold_iff rfl).mpr writable

private theorem decodeCount_told (writable : value.isWritable = true) :
    FailsAs Undecodable.IsTold (decodeCount value) := by
  have invalid := isTold_invalid "count" writable
  have accepts (n : Int) : FailsAs Undecodable.IsTold
      (if n < 0 then .error (.negativeCount value) else .ok (some n) :
        Except Undecodable (Option Int)) := by
    split
    · exact .error ((Undecodable.isTold_iff rfl).mpr writable)
    · exact .ok _
  unfold decodeCount
  cases value with
  | null => exact .ok _
  | int n => exact accepts n
  | text t =>
    dsimp only
    split
    · exact accepts _
    · exact .error invalid
  | _ => exact .error invalid

private theorem decodeChange_told (writable : value.isWritable = true) :
    FailsAs Undecodable.IsTold (decodeChange value) := by
  have invalid := isTold_invalid "change" writable
  have accepts (x : Binary64) : FailsAs Undecodable.IsTold
      (if x.isFinite then .ok (some x) else .error (.invalid "change" value) :
        Except Undecodable (Option Binary64)) := by
    split
    · exact .ok _
    · exact .error invalid
  unfold decodeChange
  cases value with
  | null => exact .ok _
  | float x => exact accepts x
  | int n =>
    dsimp only [integerChange]
    cases Binary64.ofInt? n with
    | none => exact .error (by rintro _ ⟨⟩)
    | some x => exact .ok _
  | text t =>
    dsimp only
    split
    · exact accepts _
    · exact .error invalid
  | _ => exact .error invalid

private theorem decodeText_told {α : Type} (field : String) (read? : List Char → Option α)
    (writable : value.isWritable = true) :
    FailsAs Undecodable.IsTold (decodeText field read? value) := by
  have invalid := isTold_invalid field writable
  unfold decodeText
  cases value with
  | null => exact .ok _
  | text t =>
    dsimp only
    split
    · exact .ok _
    · exact .error invalid
  | _ => exact .error invalid

theorem valueOf_isWritable (writable : (Json.object members).isWritable = true) (name : String) :
    (valueOf members name).isWritable = true := by
  unfold valueOf
  cases found : Json.member? members name with
  | none => exact Json.isWritable_null
  | some value => exact Json.isWritable_of_member? writable found

private theorem timestampValue_isWritable (writable : (Json.object members).isWritable = true) :
    (timestampValue resource members).isWritable = true := by
  unfold timestampValue
  dsimp only
  split
  · rename_i found
    exact Json.isWritable_of_member? writable found
  · cases found : members.find? fun member =>
        member.1.startsWith (resource.member "timestamp" ++ ".") with
    | none => exact Json.isWritable_null
    | some member =>
      rw [Json.isWritable_object,List.all_eq_true] at writable
      exact writable member (List.mem_of_find?_eq_some found)

/-- What a value is refused for can be told of if the value can be written. -/
private theorem decode_told (writable : value.isWritable = true) :
    FailsAs Undecodable.IsTold (decode resource value) := by
  cases value with
  | object members =>
    refine .bind (decodeCount_told (valueOf_isWritable writable _)) fun _ _ => ?_
    refine .bind (decodeChange_told (valueOf_isWritable writable _)) fun _ _ => ?_
    refine .bind (decodeText_told _ _ (valueOf_isWritable writable _)) fun _ _ => ?_
    refine .bind (decodeText_told _ _ (valueOf_isWritable writable _)) fun _ _ => ?_
    refine .bind (decodeText_told _ _ (valueOf_isWritable writable _)) fun _ _ => ?_
    exact .bind (decodeText_told _ _ (timestampValue_isWritable writable)) fun _ _ => .ok _
  | _ => exact .error ((Undecodable.isTold_iff rfl).mpr writable)

end Telling

private theorem decodeMembers_iff (members : List (Text × Json)) :
    decodeMembers resource members = .error .changeTooLarge ↔ IsOverlong resource members := by
  unfold decodeMembers IsOverlong
  rw [except_bind_error]
  constructor
  · rintro (impossible | ⟨count,counted,rest⟩)
    · exact absurd impossible (decodeCount_ne _)
    · rw [except_bind_error] at rest
      rcases rest with large | ⟨change,_,rest⟩
      · exact ⟨⟨count,counted⟩,(decodeChange_iff _).mp large⟩
      · simp only [except_bind_error,decodeUuid,decodeTimestamp,decodeText_ne,false_or] at rest
        obtain ⟨_,_,_,_,_,_,_,_,impossible⟩ := rest
        cases impossible
  · rintro ⟨⟨count,counted⟩,large⟩
    refine .inr ⟨count,counted,except_bind_error.mpr (.inl ((decodeChange_iff _).mpr large))⟩

private theorem decode_iff (value : Json) : decode resource value = .error .changeTooLarge ↔
    ∃ members, value = .object members ∧ IsOverlong resource members := by
  cases value with
  | object members =>
    rw [decode,decodeMembers_iff]
    constructor
    · exact fun overlong => ⟨members,rfl,overlong⟩
    · rintro ⟨other,same,overlong⟩
      obtain rfl := Json.object.inj same
      exact overlong
  | _ => simp [decode]

end Row

namespace Response

variable {resource : Resource} {body : Json}

/-- A body with a row whose change is an integer too large, after rows that can be decoded. -/
def IsOverlong (resource : Resource) (body : Json) : Prop :=
  ∃ before members after, data body = .ok (before ++ .object members :: after) ∧
    (∀ item ∈ before, ∃ row, Row.decode resource item = .ok row) ∧ Row.IsOverlong resource members

private theorem data_ne (body : Json) : data body ≠ .error .changeTooLarge := by
  unfold data
  split
  · split
    · split <;> simp
    · simp
    · simp
  · simp

private theorem rows_iff : rows resource body = .error .changeTooLarge ↔ IsOverlong resource body := by
  unfold rows
  rw [except_bind_error]
  constructor
  · rintro (impossible | ⟨items,found,fails⟩)
    · exact absurd impossible (data_ne body)
    · obtain ⟨before,item,after,rfl,fine,fails⟩ := mapM_error.mp fails
      obtain ⟨members,rfl,overlong⟩ := (Row.decode_iff item).mp fails
      exact ⟨before,members,after,found,fine,overlong⟩
  · rintro ⟨before,members,after,found,fine,overlong⟩
    have fails := (Row.decode_iff (.object members)).mpr ⟨members,rfl,overlong⟩
    exact .inr ⟨_,found,mapM_error.mpr ⟨before,_,after,rfl,fine,fails⟩⟩

section Telling
variable {data : List Json}

theorem data_isWritable (writable : body.isWritable = true) (found : Response.data body = .ok data) :
    ∀ value ∈ data, value.isWritable = true := by
  unfold Response.data at found
  split at found
  · split at found
    · rename_i listed
      have results := Json.isWritable_of_member? writable listed
      rw [Json.isWritable_list,List.all_cons,Bool.and_eq_true] at results
      split at found
      · rename_i held
        obtain rfl := Except.ok.inj found
        have writable := Json.isWritable_of_member? results.1 held
        rwa [Json.isWritable_list,List.all_eq_true] at writable
      · cases found
    · cases found
    · cases found
  · cases found

private theorem data_told (body : Json) : FailsAs Undecodable.IsTold (Response.data body) := by
  unfold Response.data
  split
  · split
    · split
      · exact .ok _
      · exact .error (by rintro _ ⟨⟩)
    · exact .error (by rintro _ ⟨⟩)
    · exact .error (by rintro _ ⟨⟩)
  · exact .error (by rintro _ ⟨⟩)

private theorem rows_told (writable : body.isWritable = true) :
    FailsAs Undecodable.IsTold (rows resource body) :=
  .bind (data_told body) fun _ found =>
    .mapM fun value member => Row.decode_told (data_isWritable writable found value member)

end Telling

/-- A body is decoded, or it is refused as undecodable, unless the first of its rows that is not
decoded has an integer change too large for a floating-point number: the failure is then that of the
conversion. Only what is found in a body that cannot be written, as no body is that was read, may be
refused in another way. -/
theorem rows_refusals (resource : Resource) (body : Json) :
    IsOverlong resource body ∧
        (∃ u, rows resource body = .error u ∧ u.failure.kind = .tooLarge) ∨
      ¬IsOverlong resource body ∧ ((∃ answer, rows resource body = .ok answer) ∨
        ∃ u, rows resource body = .error u ∧ (u.failure.kind = .undecodable ∨
          body.isWritable = false ∧ u.failure = .unwritable)) := by
  by_cases overlong : IsOverlong resource body
  · exact .inl ⟨overlong,.changeTooLarge,rows_iff.mpr overlong,rfl⟩
  · refine .inr ⟨overlong,?_⟩
    cases decoded : rows resource body with
    | ok answer => exact .inl ⟨answer,rfl⟩
    | error u =>
      have small : u ≠ .changeTooLarge := by
        rintro rfl
        exact overlong (rows_iff.mp decoded)
      refine .inr ⟨u,rfl,?_⟩
      rcases Undecodable.failure_cases small with ⟨_,kind⟩ | ⟨untold,unwritable⟩
      · exact .inl kind
      · refine .inr ⟨Bool.eq_false_iff.mpr fun writable => ?_,unwritable⟩
        exact untold (rows_told writable u decoded)

def changeBody (n : Int) : Json :=
  .ofMembers [("results",.list [.ofMembers [("data",.list [.ofMembers [("mints.change",.int n)]])]])]

/-- A change of one followed by 309 zeros is refused, but not as undecodable. -/
theorem rows_overlong : ∃ u, rows .mints (changeBody (10 ^ 309)) = .error u ∧
    u.failure.kind ≠ .undecodable := by
  have large : Binary64.beyond ≤ (10 ^ 309 : Int).natAbs := by decide +kernel
  generalize (10 : Int) ^ 309 = n at large ⊢
  have found : data (changeBody n) =
      .ok ([] ++ .object [(Text.ofString "mints.change",.int n)] :: []) := by
    simp [data,changeBody,Json.ofMembers,Json.member?]
  have counted : Row.valueOf [(Text.ofString "mints.change",.int n)]
      (Resource.mints.member "count") = .null := by
    simp [Row.valueOf,Json.member?,Resource.member,Resource.name]
  have changed : Row.valueOf [(Text.ofString "mints.change",.int n)]
      (Resource.mints.member "change") = .int n := by
    simp [Row.valueOf,Json.member?,Resource.member,Resource.name]
  have overlong : Row.IsOverlong .mints [(Text.ofString "mints.change",.int n)] :=
    ⟨⟨none,by rw [counted]; rfl⟩,n,changed,large⟩
  exact ⟨.changeTooLarge,rows_iff.mpr ⟨[],_,[],found,by simp,overlong⟩,by decide⟩

end Response
end ScopedAnalytics
