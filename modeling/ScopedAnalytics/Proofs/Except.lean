import Mathlib.Data.List.Forall2

/-! How a computation in steps that can fail comes to its result, and where it fails. -/
namespace ScopedAnalytics

variable {ε α β : Type}

section Success

theorem except_bind_ok {first : Except ε α} {next : α → Except ε β} {result : β}
    (ok : (first >>= next) = .ok result) : ∃ value, first = .ok value ∧ next value = .ok result := by
  cases first with
  | error fault => cases ok
  | ok value => exact ⟨value,rfl,ok⟩

theorem except_bind_ok_iff {first : Except ε α} {next : α → Except ε β} {result : β} :
    (first >>= next) = .ok result ↔ ∃ value, first = .ok value ∧ next value = .ok result := by
  refine ⟨except_bind_ok,?_⟩
  rintro ⟨value,rfl,ok⟩
  exact ok

theorem except_error_iff {first : Except ε α} :
    (∃ fault, first = .error fault) ↔ ∀ value, first ≠ .ok value := by
  cases first with
  | error fault => simp
  | ok value => simp

theorem mapError_ok {δ : Type} {first : Except ε α} {f : ε → δ} {value : α}
    (ok : first.mapError f = .ok value) : first = .ok value := by
  cases first with
  | error fault => cases ok
  | ok held => exact congrArg Except.ok (Except.ok.inj ok)

theorem mapError_ok_iff {δ : Type} {first : Except ε α} {f : ε → δ} {value : α} :
    first.mapError f = .ok value ↔ first = .ok value :=
  ⟨mapError_ok,fun ok => by rw [ok]; rfl⟩

theorem mapM_forall₂ {f : α → Except ε β} {items : List α} {results : List β}
    (ok : items.mapM f = .ok results) : List.Forall₂ (fun a b => f a = .ok b) items results := by
  induction items generalizing results with
  | nil =>
    obtain rfl : [] = results := Except.ok.inj ok
    exact .nil
  | cons item items ih =>
    rw [List.mapM_cons] at ok
    obtain ⟨b,here,ok⟩ := except_bind_ok ok
    obtain ⟨rest,later,ok⟩ := except_bind_ok ok
    obtain rfl : b :: rest = results := Except.ok.inj ok
    exact .cons here (ih later)

theorem mapM_ok_iff {f : α → Except ε β} {items : List α} {results : List β} :
    items.mapM f = .ok results ↔ List.Forall₂ (fun a b => f a = .ok b) items results := by
  refine ⟨mapM_forall₂,fun related => ?_⟩
  induction related with
  | nil => rfl
  | cons here _ ih =>
    rw [List.mapM_cons,here,ih]
    rfl

theorem forall₂_right {R : α → β → Prop} {items : List α} {results : List β}
    (related : List.Forall₂ R items results) : ∀ b ∈ results, ∃ a ∈ items, R a b := by
  induction related with
  | nil => simp
  | cons here _ ih =>
    intro b member
    rcases List.mem_cons.mp member with rfl | inside
    · exact ⟨_,List.mem_cons_self,here⟩
    · obtain ⟨a,held,related⟩ := ih b inside
      exact ⟨a,List.mem_cons_of_mem _ held,related⟩

end Success

section Fault

theorem mapError_error {δ : Type} {first : Except ε α} {f : ε → δ} {fault : δ}
    (failed : first.mapError f = .error fault) : ∃ reason, first = .error reason ∧ fault = f reason := by
  cases first with
  | error reason => exact ⟨reason,rfl,(Except.error.inj failed).symm⟩
  | ok value => cases failed

theorem except_bind_error {first : Except ε α} {next : α → Except ε β} {fault : ε} :
    (first >>= next) = .error fault ↔
      first = .error fault ∨ ∃ value, first = .ok value ∧ next value = .error fault := by
  cases first with
  | error other => exact ⟨fun same => .inl (congrArg _ (Except.error.inj same)),by simp [bind,Except.bind]⟩
  | ok value => exact ⟨fun same => .inr ⟨value,rfl,same⟩,by simp [bind,Except.bind]⟩

theorem mapM_error {f : α → Except ε β} {items : List α} {fault : ε} :
    items.mapM f = .error fault ↔ ∃ before item after, items = before ++ item :: after ∧
      (∀ a ∈ before, ∃ b, f a = .ok b) ∧ f item = .error fault := by
  induction items with
  | nil =>
    constructor
    · intro impossible
      cases impossible
    · rintro ⟨before,item,after,impossible,_⟩
      simp at impossible
  | cons a items ih =>
    rw [List.mapM_cons,except_bind_error]
    constructor
    · rintro (here | ⟨b,here,later⟩)
      · exact ⟨[],a,items,rfl,by simp,here⟩
      · rw [except_bind_error,ih] at later
        rcases later with ⟨before,item,after,rfl,fine,fails⟩ | ⟨_,_,impossible⟩
        · exact ⟨a :: before,item,after,rfl,by simpa using ⟨⟨b,here⟩,fine⟩,fails⟩
        · cases impossible
    · rintro ⟨before,item,after,same,fine,fails⟩
      cases before with
      | nil =>
        obtain ⟨rfl,rfl⟩ := List.cons.inj same
        exact .inl fails
      | cons first before =>
        obtain ⟨rfl,rfl⟩ := List.cons.inj same
        obtain ⟨b,here⟩ := fine a List.mem_cons_self
        refine .inr ⟨b,here,except_bind_error.mpr (.inl (ih.mpr ?_))⟩
        exact ⟨before,item,after,rfl,fun c member => fine c (List.mem_cons_of_mem _ member),fails⟩

/-- Whether every fault that a computation can come to is of a kind. -/
def FailsAs (Kind : ε → Prop) (result : Except ε α) : Prop :=
  ∀ fault, result = .error fault → Kind fault

namespace FailsAs
variable {Kind : ε → Prop}

theorem ok (value : α) : FailsAs Kind (.ok value : Except ε α) := by
  intro fault impossible
  cases impossible

theorem error {fault : ε} (kind : Kind fault) : FailsAs Kind (.error fault : Except ε α) := by
  rintro _ ⟨⟩
  exact kind

theorem bind {first : Except ε α} {next : α → Except ε β} (here : FailsAs Kind first)
    (later : ∀ value, first = .ok value → FailsAs Kind (next value)) :
    FailsAs Kind (first >>= next) := by
  intro fault failed
  rcases except_bind_error.mp failed with failed | ⟨value,found,failed⟩
  · exact here fault failed
  · exact later value found fault failed

theorem mapError {δ : Type} {first : Except δ α} {f : δ → ε} (kind : ∀ reason, Kind (f reason)) :
    FailsAs Kind (first.mapError f) := by
  intro fault failed
  obtain ⟨reason,_,rfl⟩ := mapError_error failed
  exact kind reason

theorem map {result : Except ε α} (f : α → β) (kind : FailsAs Kind result) :
    FailsAs Kind (result.map f) := by
  cases result with
  | ok value => exact ok _
  | error fault => exact error (kind fault rfl)

theorem mapM {f : α → Except ε β} {items : List α} (each : ∀ a ∈ items, FailsAs Kind (f a)) :
    FailsAs Kind (items.mapM f) := by
  intro fault failed
  obtain ⟨before,item,after,rfl,_,failed⟩ := mapM_error.mp failed
  exact each item (by simp) fault failed

end FailsAs

end Fault

end ScopedAnalytics
