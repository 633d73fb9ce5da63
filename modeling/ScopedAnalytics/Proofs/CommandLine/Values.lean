import ScopedAnalytics.CommandLine
import ScopedAnalytics.Proofs.Except

/-! What one flag with its text does to the options. Each flag but those of help and of measures has a
place of its own, which takes what the text is read as, and leaves every other place as it is. Whether
the text can be read does not depend on the options, and a second kind of scope is refused. -/
namespace ScopedAnalytics.CommandLine

/-- What the text given to a flag is taken for. The divider is void, and every other text has to be one
that can be read. -/
inductive IsRead {α : Type} (read? : String → Option α) (text : String) : Given α → Prop
  | void (divides : text = Argument.divider) : IsRead read? text .void
  | value {a : α} (apart : text ≠ Argument.divider) (found : read? text = some a) :
      IsRead read? text (.value a)

section Reading
variable {α : Type} {read? : String → Option α} {text : String} {g other : Given α}

theorem IsRead.unique (first : IsRead read? text g) (second : IsRead read? text other) : g = other := by
  cases first with
  | void divides =>
    cases second with
    | void => rfl
    | value apart => exact absurd divides apart
  | value apart found =>
    cases second with
    | void divides => exact absurd divides apart
    | value _ again => rw [Option.some.inj (found.symm.trans again)]

theorem IsRead.of_apart (taken : IsRead read? text g) (apart : text ≠ Argument.divider) :
    ∃ a, read? text = some a ∧ g = .value a := by
  cases taken with
  | void divides => exact absurd divides apart
  | value _ found => exact ⟨_,found,rfl⟩

/-- Texts none of which is the divider are all read. -/
theorem forall₂_of_apart {texts : List String} {given : List (Given α)}
    (taken : List.Forall₂ (IsRead read?) texts given)
    (apart : ∀ text ∈ texts, text ≠ Argument.divider) :
    ∃ values : List α, given = values.map .value ∧
      List.Forall₂ (fun text a => read? text = some a) texts values := by
  induction taken with
  | nil => exact ⟨[],rfl,.nil⟩
  | cons here _ ih =>
    rw [List.forall_mem_cons] at apart
    obtain ⟨a,found,rfl⟩ := here.of_apart apart.1
    obtain ⟨values,rfl,later⟩ := ih apart.2
    exact ⟨a :: values,rfl,.cons found later⟩

private theorem given_ok_iff {read : String → Reading α}
    (reads : ∀ text a, read text = .ok a ↔ read? text = some a) :
    given read text = .ok g ↔ IsRead read? text g := by
  unfold given
  split
  · rename_i divides
    constructor
    · intro ok
      obtain rfl := Except.ok.inj ok
      exact .void divides
    · intro taken
      rw [taken.unique (.void divides)]
  · rename_i apart
    constructor
    · intro ok
      cases found : read text with
      | error stop => rw [found] at ok; cases ok
      | ok a =>
        rw [found] at ok
        obtain rfl := Except.ok.inj ok
        exact .value apart ((reads text a).mp found)
    · intro taken
      cases taken with
      | void divides => exact absurd divides apart
      | value _ found =>
        rw [(reads text _).mpr found]
        rfl

theorem given_textOf_iff {g : Given String} : given textOf text = .ok g ↔ IsRead some text g :=
  given_ok_iff fun text a => by simp [textOf]

theorem given_valueOf_iff {flag : Flag} {kind : String} :
    given (valueOf flag kind read?) text = .ok g ↔ IsRead read? text g := by
  apply given_ok_iff
  intro text a
  unfold valueOf
  cases read? text <;> simp [refuse]

theorem given_choiceOf_iff [Vocabulary α] {flag : Flag} {choices : List α} :
    given (choiceOf flag choices) text = .ok g ↔
      IsRead (fun text => choices.find? fun choice => Vocabulary.word choice == text) text g := by
  apply given_ok_iff
  intro text a
  unfold choiceOf
  cases choices.find? fun choice => Vocabulary.word choice == text <;> simp [refuse]

end Reading

/-- The place of a flag's value in the options, and how the text that is given to the flag is read. -/
structure Place (α : Type) where
  flag : Flag
  read? : String → Option α
  held : Options → Option (Given α)

def places : List (Sigma Place) :=
  [⟨_,.organization,some,Options.organization⟩,⟨_,.project,some,Options.project⟩,
    ⟨_,.collection,some,Options.collection⟩,⟨_,.interval,Vocabulary.find?,Options.interval⟩,
    ⟨_,.start,date?,Options.start⟩,⟨_,.finish,date?,Options.finish⟩,
    ⟨_,.granularity,Vocabulary.find?,Options.granularity⟩,
    ⟨_,.order,Vocabulary.find?,fun options => some options.order⟩,
    ⟨_,.limit,integer?,Options.limit⟩,⟨_,.baseUrl,some,Options.baseUrl⟩,
    ⟨_,.layerTimeout,number?,Options.layerTimeout⟩,
    ⟨_,.requestTimeout,number?,Options.requestTimeout⟩,
    ⟨_,.level,fun text => levels.find? fun level => Vocabulary.word level == text,
      fun options => some options.level⟩,
    ⟨_,.form,Vocabulary.find?,fun options => some options.form⟩]

theorem ext_of_places {options other : Options}
    (held : ∀ place ∈ places, place.2.held options = place.2.held other)
    (measures : options.measures = other.measures) : options = other := by
  simp only [places,List.forall_mem_cons,Option.some.injEq] at held
  obtain ⟨organization,project,collection,interval,start,finish,granularity,order,limit,baseUrl,
    layerTimeout,requestTimeout,level,form,_⟩ := held
  cases options
  cases other
  simp_all

/-- What a flag with its text leaves in the places of all flags. -/
structure Takes (flag : Flag) (text : String) (options changed : Options) : Prop where
  own : ∀ place ∈ places, place.2.flag = flag →
    ∃ g, IsRead place.2.read? text g ∧ place.2.held changed = some g
  others : ∀ place ∈ places, place.2.flag ≠ flag → place.2.held changed = place.2.held options
  measure : flag = .measure →
    ∃ g, IsRead measure? text g ∧ changed.measures = some (options.measures.getD [] ++ [g])
  measures : flag ≠ .measure → changed.measures = options.measures

section Setting
variable {flag : Flag} {text : String} {options changed : Options}

theorem setOption_takes (ok : setOption options flag text = .ok changed) :
    Takes flag text options changed := by
  cases flag <;> unfold setOption at ok
  case help =>
    obtain rfl := Except.ok.inj ok
    constructor <;> simp only [places,List.forall_mem_cons,List.not_mem_nil,ne_eq,reduceCtorEq,
      not_false_eq_true,implies_true,and_true,IsEmpty.forall_iff]
  all_goals
    obtain ⟨g,read,ok⟩ := except_bind_ok ok
    obtain rfl := Except.ok.inj ok
    simp only [given_textOf_iff,given_valueOf_iff,given_choiceOf_iff] at read
    constructor <;> simp only [places,List.forall_mem_cons,List.not_mem_nil,ne_eq,reduceCtorEq,
      not_true_eq_false,not_false_eq_true,implies_true,and_true,true_and,forall_const,
      IsEmpty.forall_iff,Option.some.injEq,exists_eq_right']
  case measure.measure => exact ⟨g,read,rfl⟩
  all_goals exact read

/-- Whether a text can be read for a flag is a matter of the two alone. -/
theorem setOption_ok_of_ok (ok : setOption options flag text = .ok changed) (other : Options) :
    ∃ changed, setOption other flag text = .ok changed := by
  cases flag <;> unfold setOption at ok ⊢
  case help => exact ⟨other,rfl⟩
  all_goals
    obtain ⟨g,read,_⟩ := except_bind_ok ok
    rw [read]
    exact ⟨_,rfl⟩

theorem mem_scopeFlags_of_has {other : Flag} (has : options.has other = true) : other ∈ scopeFlags := by
  cases other <;> simp_all [Options.has,scopeFlags]

@[simp] theorem noOptions_has (flag : Flag) : noOptions.has flag = false := by
  cases flag <;> rfl

theorem exists_scope_place (scope : flag ∈ scopeFlags) : ∃ place ∈ places, place.2.flag = flag ∧
    ∀ options : Options, options.has flag = (place.2.held options).isSome := by
  simp only [scopeFlags,List.mem_cons,List.not_mem_nil,or_false] at scope
  obtain rfl | rfl | rfl := scope <;> simp [places,Options.has]

theorem Takes.has_iff (takes : Takes flag text options changed) {other : Flag} :
    changed.has other = true ↔ other ∈ scopeFlags ∧ other = flag ∨ options.has other = true := by
  by_cases scope : other ∈ scopeFlags
  · obtain ⟨place,listed,rfl,has⟩ := exists_scope_place scope
    rw [has,has]
    by_cases same : place.2.flag = flag
    · obtain ⟨g,_,held⟩ := takes.own place listed same
      simp [held,same,same ▸ scope]
    · simp [takes.others place listed same,same]
  · have without (o : Options) : ¬o.has other = true := mt mem_scopeFlags_of_has scope
    simp [without,scope]

/-- A flag is taken unless its text cannot be read or another kind of scope has been given before. -/
theorem takeFlag_ok_iff : takeFlag options flag text = .ok changed ↔
    setOption options flag text = .ok changed ∧
      (flag ∈ scopeFlags → ∀ other, options.has other = true → other = flag) := by
  unfold takeFlag
  rw [except_bind_ok_iff]
  have rivals : (scopeFlags.find? fun other => other != flag && options.has other) = none ↔
      ∀ other, options.has other = true → other = flag := by
    rw [List.find?_eq_none]
    constructor
    · intro none other has
      by_contra apart
      exact none other (mem_scopeFlags_of_has has) (by simp [apart,has])
    · intro only other _ rival
      simp only [Bool.and_eq_true,bne_iff_ne] at rival
      exact rival.1 (only other rival.2)
  rw [← rivals]
  by_cases scope : flag ∈ scopeFlags
  · simp only [List.contains_iff_mem,scope,if_true,forall_const]
    cases found : scopeFlags.find? fun other => other != flag && options.has other with
    | none => simp [pure,Except.pure]
    | some rival => simp [refuse]
  · simp [scope,pure,Except.pure]

end Setting

section Misuse
variable {flag : Flag} {text : String} {options : Options}

def Stop.IsMisuse (stop : Stop) : Prop := ∃ m, stop = .misuse m

private theorem refuse_misuse {α : Type} (m : Misuse) :
    FailsAs Stop.IsMisuse (refuse m : Reading α) := .error ⟨m,rfl⟩

private theorem given_misuse {α : Type} {read : String → Reading α}
    (reads : FailsAs Stop.IsMisuse (read text)) : FailsAs Stop.IsMisuse (given read text) := by
  unfold given
  split
  · exact .ok _
  · exact reads.map Given.value

private theorem valueOf_misuse {α : Type} {kind : String} {read? : String → Option α} :
    FailsAs Stop.IsMisuse (valueOf flag kind read? text) := by
  unfold valueOf
  split
  · exact .ok _
  · exact refuse_misuse _

private theorem choiceOf_misuse {α : Type} [Vocabulary α] {choices : List α} :
    FailsAs Stop.IsMisuse (choiceOf flag choices text) := by
  unfold choiceOf
  split
  · exact .ok _
  · exact refuse_misuse _

private theorem setOption_misuse : FailsAs Stop.IsMisuse (setOption options flag text) := by
  cases flag <;> unfold setOption
  case help => exact .ok _
  case organization | project | collection | baseUrl => exact (given_misuse (.ok _)).bind fun _ _ => .ok _
  case level | form => exact (given_misuse choiceOf_misuse).bind fun _ _ => .ok _
  all_goals exact (given_misuse valueOf_misuse).bind fun _ _ => .ok _

/-- A flag that is not taken is misused: none of them asks for help. -/
theorem takeFlag_misuse : FailsAs Stop.IsMisuse (takeFlag options flag text) := by
  unfold takeFlag
  refine setOption_misuse.bind fun changed _ => ?_
  split
  · split
    · exact refuse_misuse _
    · exact .ok _
  · exact .ok _

end Misuse

end ScopedAnalytics.CommandLine
