import Mathlib.Data.List.Induction
import Mathlib.Data.List.Nodup
import ScopedAnalytics.Proofs.CommandLine.Values

/-! What flags do to the options when they come one after the other, some of them more than once. The
last text of a flag counts, measures add up, and only one kind of scope can be among the flags. -/
namespace ScopedAnalytics.CommandLine

def textsOf (given : List (Flag × String)) (flag : Flag) : List String :=
  (given.filter fun entry => entry.1 = flag).map (·.2)

/-- A place holds what the last text of its flag is read as, and what it held before if there is none. -/
def Place.HoldsLast {α : Type} (place : Place α) (given : List (Flag × String))
    (options final : Options) : Prop :=
  match (textsOf given place.flag).getLast? with
  | some text => ∃ g, IsRead place.read? text g ∧ place.held final = some g
  | none => place.held final = place.held options

/-- A place whose flag has no text holds what it held before, and any other one what the last is read
as. -/
theorem Place.HoldsLast.cases {α : Type} {place : Place α} {given : List (Flag × String)}
    {options final : Options} (held : place.HoldsLast given options final) :
    (textsOf given place.flag).getLast? = none ∧ place.held final = place.held options ∨
      ∃ text g, (textsOf given place.flag).getLast? = some text ∧ IsRead place.read? text g ∧
        place.held final = some g := by
  unfold HoldsLast at held
  split at held
  · rename_i text last
    obtain ⟨g,read,own⟩ := held
    exact .inr ⟨text,g,last,read,own⟩
  · rename_i none
    exact .inl ⟨none,held⟩

def withMeasures (before : Option (List (Given Measure))) :
    List (Given Measure) → Option (List (Given Measure))
  | [] => before
  | added => some (before.getD [] ++ added)

def takeAll (options : Options) (given : List (Flag × String)) : Reading Options :=
  given.foldlM (fun options entry => takeFlag options entry.1 entry.2) options

/-- Whether the text that is given to a flag can be read at all. -/
def Fits (entry : Flag × String) : Prop :=
  ∃ changed, setOption noOptions entry.1 entry.2 = .ok changed

section Lists
variable {given other : List (Flag × String)} {entry : Flag × String} {flag : Flag}

@[simp] theorem textsOf_concat : textsOf (given ++ [entry]) flag =
    textsOf given flag ++ if entry.1 = flag then [entry.2] else [] := by
  by_cases same : entry.1 = flag <;> simp [textsOf,same]

theorem mem_textsOf {text : String} : text ∈ textsOf given flag ↔ (flag,text) ∈ given := by
  simp [textsOf,and_assoc]

theorem textsOf_eq_nil_iff : textsOf given flag = [] ↔ flag ∉ given.map (·.1) := by
  simp only [textsOf,List.map_eq_nil_iff,List.filter_eq_nil_iff,decide_eq_true_eq,List.mem_map,
    not_exists,not_and]

theorem textsOf_getLast?_cons (listed : flag ∈ given.map (·.1)) (text : String) (own : Flag) :
    (textsOf ((flag,text) :: given) own).getLast? = (textsOf given own).getLast? := by
  by_cases same : flag = own
  · have some : textsOf given flag ≠ [] := fun none => textsOf_eq_nil_iff.mp none listed
    subst same
    obtain ⟨last,held⟩ := Option.ne_none_iff_exists'.mp (mt List.getLast?_eq_none_iff.mp some)
    simp only [textsOf] at held ⊢
    simp [List.getLast?_cons,held]
  · simp [textsOf,same]

/-- Flags that come once each have the same texts in every order. -/
theorem textsOf_perm (permuted : given.Perm other) (distinct : (given.map (·.1)).Nodup) :
    textsOf given flag = textsOf other flag := by
  have texts : (textsOf given flag).Perm (textsOf other flag) := (permuted.filter _).map _
  have single : (textsOf given flag).length ≤ 1 := by
    have count := List.nodup_iff_count_le_one.mp distinct flag
    rw [textsOf,List.length_map,← List.countP_eq_length_filter]
    simpa [List.count,List.countP_map,Function.comp_def,beq_eq_decide] using count
  match held : textsOf given flag with
  | [] => rw [held] at texts; exact texts.nil_eq
  | [text] => rw [held] at texts; exact (List.perm_singleton.mp texts.symm).symm
  | _ :: _ :: _ => simp [held] at single

end Lists

section Run
variable {options final : Options} {given : List (Flag × String)} {entry : Flag × String}

theorem takeAll_concat : takeAll options (given ++ [entry]) =
    takeAll options given >>= fun changed => takeFlag changed entry.1 entry.2 := by
  simp [takeAll]

/-- What flags with their texts leave in the places of all flags. -/
structure TakesAll (given : List (Flag × String)) (options final : Options) : Prop where
  held : ∀ place ∈ places, place.2.HoldsLast given options final
  measures : ∃ added, List.Forall₂ (IsRead measure?) (textsOf given .measure) added ∧
    final.measures = withMeasures options.measures added
  has : ∀ flag, final.has flag = true ↔
    flag ∈ scopeFlags ∧ flag ∈ given.map (·.1) ∨ options.has flag = true

private theorem TakesAll.concat {middle : Options} (before : TakesAll given options middle)
    (takes : Takes entry.1 entry.2 middle final) : TakesAll (given ++ [entry]) options final := by
  constructor
  case held =>
    intro place listed
    unfold Place.HoldsLast
    rw [textsOf_concat]
    by_cases same : entry.1 = place.2.flag
    · obtain ⟨g,read,held⟩ := takes.own place listed same.symm
      simpa [same] using ⟨g,read,held⟩
    · have kept := takes.others place listed (Ne.symm same)
      have held := before.held place listed
      unfold Place.HoldsLast at held
      simpa only [same,if_false,List.append_nil,kept] using held
  case measures =>
    obtain ⟨added,read,measures⟩ := before.measures
    rw [textsOf_concat]
    by_cases same : entry.1 = .measure
    · obtain ⟨g,here,measured⟩ := takes.measure same
      refine ⟨added ++ [g],?_,?_⟩
      · simpa [same] using List.rel_append read (.cons here .nil)
      · rw [measured,measures]
        cases added <;> simp [withMeasures]
    · refine ⟨added,by simpa [same] using read,?_⟩
      rw [takes.measures same,measures]
  case has =>
    intro flag
    rw [takes.has_iff,before.has,List.map_append,List.mem_append]
    simp only [List.map_cons,List.map_nil,List.mem_singleton]
    tauto

theorem takeAll_takesAll (ok : takeAll options given = .ok final) : TakesAll given options final := by
  induction given using List.reverseRecOn generalizing final with
  | nil =>
    obtain rfl := Except.ok.inj ok
    exact ⟨fun place _ => by simp [Place.HoldsLast,textsOf],⟨[],.nil,rfl⟩,by simp⟩
  | append_singleton given entry ih =>
    rw [takeAll_concat] at ok
    obtain ⟨middle,before,ok⟩ := except_bind_ok ok
    exact (ih before).concat (setOption_takes (takeFlag_ok_iff.mp ok).1)

/-- Flags are taken if each text can be read and no two are of different kinds of scope. -/
theorem takeAll_ok_iff : (∃ final, takeAll noOptions given = .ok final) ↔
    (∀ entry ∈ given, Fits entry) ∧
      ∀ flag ∈ scopeFlags, ∀ other ∈ scopeFlags, flag ∈ given.map (·.1) → other ∈ given.map (·.1) →
        other = flag := by
  induction given using List.reverseRecOn with
  | nil => simpa [takeAll] using ⟨noOptions,rfl⟩
  | append_singleton given entry ih =>
    have taken (middle : Options) (before : takeAll noOptions given = .ok middle) :
        (∃ final, takeFlag middle entry.1 entry.2 = .ok final) ↔ Fits entry ∧
          (entry.1 ∈ scopeFlags → ∀ other ∈ scopeFlags, other ∈ given.map (·.1) →
            other = entry.1) := by
      have fits : (∃ final, setOption middle entry.1 entry.2 = .ok final) ↔ Fits entry :=
        ⟨fun ⟨_,ok⟩ => setOption_ok_of_ok ok noOptions,fun ⟨_,ok⟩ => setOption_ok_of_ok ok middle⟩
      simp only [takeFlag_ok_iff,exists_and_right,fits,(takeAll_takesAll before).has,
        noOptions_has,Bool.false_eq_true,or_false,and_imp]
    rw [takeAll_concat]
    simp only [except_bind_ok_iff,List.map_append,List.map_cons,List.map_nil,List.mem_append,
      List.mem_singleton]
    constructor
    · rintro ⟨final,middle,before,ok⟩
      obtain ⟨fits,only⟩ := ih.mp ⟨middle,before⟩
      obtain ⟨here,alone⟩ := (taken middle before).mp ⟨final,ok⟩
      refine ⟨?_,?_⟩
      · rintro other (member | rfl)
        · exact fits other member
        · exact here
      · rintro flag scope other also (one | rfl) (two | rfl)
        · exact only flag scope other also one two
        · exact (alone also flag scope one).symm
        · exact alone scope other also two
        · rfl
    · rintro ⟨fits,only⟩
      obtain ⟨middle,before⟩ := ih.mpr ⟨fun other member => fits other (.inl member),
        fun flag scope other also one two => only flag scope other also (.inl one) (.inl two)⟩
      obtain ⟨final,ok⟩ := (taken middle before).mpr ⟨fits entry (.inr rfl),
        fun scope other also member => only entry.1 scope other also (.inr rfl) (.inl member)⟩
      exact ⟨final,middle,before,ok⟩

/-- The options are told by the last text of each flag and by all texts of measures. -/
theorem takeAll_congr {other : List (Flag × String)} {changed : Options}
    (last : ∀ place ∈ places,
      (textsOf given place.2.flag).getLast? = (textsOf other place.2.flag).getLast?)
    (measured : textsOf given .measure = textsOf other .measure)
    (ok : takeAll options given = .ok final) (again : takeAll options other = .ok changed) :
    final = changed := by
  have first := takeAll_takesAll ok
  have second := takeAll_takesAll again
  apply ext_of_places
  · intro place listed
    have here := first.held place listed
    have there := second.held place listed
    unfold Place.HoldsLast at here there
    rw [← last place listed] at there
    cases text : (textsOf given place.2.flag).getLast? with
    | none =>
      simp only [text] at here there
      rw [here,there]
    | some text =>
      simp only [text] at here there
      obtain ⟨g,read,held⟩ := here
      obtain ⟨h,also,again⟩ := there
      rw [held,again,read.unique also]
  · obtain ⟨added,read,held⟩ := first.measures
    obtain ⟨more,also,again⟩ := second.measures
    rw [← measured] at also
    have same : added = more :=
      List.right_unique_forall₂' (fun _ _ _ here there => here.unique there) read also
    rw [held,again,same]

private theorem fits_of_scope {flag : Flag} (scope : flag ∈ scopeFlags) (text : String) :
    Fits (flag,text) := by
  obtain ⟨g,read⟩ : ∃ g, CommandLine.given textOf text = .ok g := by
    unfold CommandLine.given
    split <;> exact ⟨_,rfl⟩
  simp only [scopeFlags,List.mem_cons,List.not_mem_nil,or_false] at scope
  obtain rfl | rfl | rfl := scope <;> exact ⟨_,by rw [setOption,read]; rfl⟩

/-- A flag of a scope that is given may be given before as well, with any text. -/
theorem takeAll_repeated {flag : Flag} (ok : takeAll noOptions given = .ok final)
    (scope : flag ∈ scopeFlags) (listed : flag ∈ given.map (·.1)) (text : String) :
    takeAll noOptions ((flag,text) :: given) = .ok final := by
  obtain ⟨fits,only⟩ := takeAll_ok_iff.mp ⟨_,ok⟩
  have known {own : Flag} (member : own ∈ flag :: given.map (·.1)) : own ∈ given.map (·.1) := by
    rcases List.mem_cons.mp member with rfl | member
    · exact listed
    · exact member
  have acceptable : (∀ entry ∈ (flag,text) :: given, Fits entry) ∧
      ∀ one ∈ scopeFlags, ∀ two ∈ scopeFlags, one ∈ ((flag,text) :: given).map (·.1) →
        two ∈ ((flag,text) :: given).map (·.1) → two = one :=
    ⟨List.forall_mem_cons.mpr ⟨fits_of_scope scope text,fits⟩,
      fun one first two second here there => only one first two second (known here) (known there)⟩
  obtain ⟨changed,again⟩ := takeAll_ok_iff.mpr acceptable
  have measured : textsOf ((flag,text) :: given) .measure = textsOf given .measure := by
    have apart : flag ≠ .measure := fun measure => by simp [measure,scopeFlags] at scope
    simp [textsOf,apart]
  rw [again,takeAll_congr (fun place _ => textsOf_getLast?_cons listed text place.2.flag) measured
    again ok]

theorem takeAll_misuse : FailsAs Stop.IsMisuse (takeAll options given) := by
  induction given using List.reverseRecOn with
  | nil => exact .ok _
  | append_singleton given entry ih =>
    rw [takeAll_concat]
    exact ih.bind fun _ _ => takeFlag_misuse

end Run

end ScopedAnalytics.CommandLine
