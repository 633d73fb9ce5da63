import ScopedAnalytics.Proofs.CommandLine.Occurrences

/-! The flags among the arguments. An argument that is a flag comes with its text in itself or has it in
the next argument, and what is read of the options depends on the flags with their texts only. -/
namespace ScopedAnalytics.CommandLine
open Argument

/-- The flags that arguments give, each with the text in the argument itself or, without one, with the
word after it. -/
def occurrences : List (String × Kind) → List (Flag × String)
  | (_,.flag flag _ (some text)) :: rest => (flag,text) :: occurrences rest
  | (_,.flag flag _ none) :: (text,.word) :: rest => (flag,text) :: occurrences rest
  | _ :: rest => occurrences rest
  | [] => []

def givenBy (arguments : List String) : List (Flag × String) :=
  match classifyAll arguments with
  | .ok kinds => occurrences kinds
  | .error _ => []

/-- Whether one of the arguments before the divider spells a flag. -/
def Contains (flag : Flag) (arguments : List String) : Prop :=
  ∃ text ∈ arguments.takeWhile (· ≠ divider), ∃ inCluster value,
    classify text = .ok (.flag flag inCluster value)

section Classification
variable {text name : String} {flag : Flag} {second : Char} {rest : List String} {kind : Kind}
  {kinds : List (String × Kind)}

/-- Whether a text does not begin as a flag does. -/
def IsPlain (text : String) : Prop := text.toList.head? ≠ some '-'

theorem IsPlain.classify (plain : IsPlain text) : classify text = .ok .word := by
  unfold Argument.classify
  split
  · rename_i dashes
    exact absurd (by rw [dashes]; rfl) plain
  · rename_i dashed
    exact absurd (by rw [dashed]; rfl) plain
  · rfl

theorem classify_name (full : (name,flag) ∈ Flag.spellings) :
    classify name = .ok (.flag flag (isLetter name) none) := by
  have each : ∀ entry ∈ Flag.spellings,
      classify entry.1 = .ok (.flag entry.2 (isLetter entry.1) none) := by
    decide
  exact each _ full

private theorem matches_flag {entry : String × Kind}
    (member : entry ∈ if second = '-' then longMatches text else shortMatches text) :
    entry.2 ≠ .divider := by
  split at member
  · obtain ⟨_,_,rfl⟩ := List.mem_map.mp member
    simp
  · obtain ⟨_,_,found⟩ := List.mem_filterMap.mp member
    split at found
    · obtain rfl := Option.some.inj found
      simp
    · split at found
      · obtain rfl := Option.some.inj found
        simp
      · cases found

theorem eq_divider (divides : classify text = .ok .divider) : text = divider := by
  unfold classify at divides
  split at divides
  · rename_i dashes
    exact String.toList_injective dashes
  · rename_i second _ _ _
    dsimp only at divides
    split at divides
    · cases divides
    · cases divides
    · split at divides
      · rename_i single
        have member : _ ∈ if second = '-' then longMatches text else shortMatches text :=
          single ▸ List.mem_singleton_self _
        exact absurd (Except.ok.inj divides) (matches_flag member)
      · have kind := Except.ok.inj divides
        split at kind <;> cases kind
      · cases divides
  · cases divides

theorem classifyAll_cons (here : classify text = .ok kind) (apart : kind ≠ .divider) :
    classifyAll (text :: rest) = (classifyAll rest).map ((text,kind) :: ·) := by
  rw [classifyAll,here]
  simp only [bind,Except.bind,apart,if_false]
  cases classifyAll rest <;> rfl

/-- Before the divider each argument stands for what it is taken for by itself. -/
theorem mem_of_classifyAll (all : classifyAll rest = .ok kinds)
    (member : text ∈ rest.takeWhile (· ≠ divider)) (here : classify text = .ok kind) :
    (text,kind) ∈ kinds := by
  induction rest generalizing kinds with
  | nil => cases member
  | cons first rest ih =>
    by_cases apart : first = divider
    · simp [apart] at member
    · simp only [List.takeWhile_cons,apart,ne_eq,not_false_eq_true,decide_true,if_true,
        List.mem_cons] at member
      rw [classifyAll] at all
      obtain ⟨own,taken,all⟩ := except_bind_ok all
      have open_ : own ≠ .divider := fun divides => apart (eq_divider (divides ▸ taken))
      simp only [open_,if_false] at all
      obtain ⟨others,later,all⟩ := except_bind_ok all
      obtain rfl := Except.ok.inj all
      rcases member with rfl | member
      · obtain rfl := Except.ok.inj (taken.symm.trans here)
        exact List.mem_cons_self
      · exact List.mem_cons_of_mem _ (ih later member)

end Classification

section Reading
variable {draft read : Draft} {kinds : List (String × Kind)} {options final : Options}

theorem takeAll_cons {entry : Flag × String} {given : List (Flag × String)} :
    takeAll options (entry :: given) =
      takeFlag options entry.1 entry.2 >>= fun changed => takeAll changed given := by
  simp [takeAll]

@[simp] theorem occurrences_word (text : String) :
    occurrences ((text,.word) :: kinds) = occurrences kinds := by simp [occurrences]

@[simp] theorem occurrences_divider (text : String) :
    occurrences ((text,.divider) :: kinds) = occurrences kinds := by simp [occurrences]

@[simp] theorem occurrences_unknown (text : String) :
    occurrences ((text,.unknown) :: kinds) = occurrences kinds := by simp [occurrences]

@[simp] theorem addWord_options (text : String) :
    ({ draft with options } : Draft).addWord text = { draft.addWord text with options } := by
  cases held : draft.selection <;> simp [Draft.addWord,held]

@[simp] theorem addExtra_options (text : String) :
    ({ draft with options } : Draft).addExtra text = { draft.addExtra text with options } := rfl

/-- Words and flags do not touch: the same arguments are read after other flags, too, if these and the
flags among the arguments can be taken. -/
theorem readAll_resumed (ok : readAll draft kinds = .ok read) (options : Options) :
    readAll { draft with options } kinds =
      (takeAll options (occurrences kinds)).map fun final => { read with options := final } := by
  fun_induction readAll draft kinds generalizing options
  case case1 =>
    obtain rfl := Except.ok.inj ok
    rfl
  case case2 => cases ok
  case case3 draft name flag inCluster text kinds apart ih =>
    obtain ⟨changed,_,ok⟩ := except_bind_ok ok
    rw [readAll,occurrences,takeAll_cons]
    · dsimp only
      cases takeFlag options flag text with
      | error stop => rfl
      | ok taken => exact ih changed ok taken
    · exact apart
  case case4 draft name flag inCluster text kinds apart ih =>
    obtain ⟨changed,_,ok⟩ := except_bind_ok ok
    rw [readAll,occurrences,takeAll_cons]
    · dsimp only
      cases takeFlag options flag text with
      | error stop => rfl
      | ok taken => exact ih changed ok taken
    · exact apart
  case case5 => cases ok
  case case6 draft text kinds ih =>
    rw [readAll,occurrences_unknown,addExtra_options]
    exact ih ok options
  case case7 draft text mark kinds first ih =>
    rw [readAll,occurrences_word,occurrences_divider,if_pos first,addWord_options]
    exact ih ok options
  case case8 draft text mark kinds later ih =>
    rw [readAll,occurrences_word,occurrences_divider,if_neg later,addWord_options,addExtra_options]
    exact ih ok options
  case case9 draft text kinds apart ih =>
    rw [readAll,occurrences_word,addWord_options]
    · exact ih ok options
    · exact apart
  case case10 draft mark text kinds first ih =>
    rw [readAll,occurrences_divider,occurrences_word,if_pos first,addWord_options]
    exact ih ok options
  case case11 draft mark text kinds later ih =>
    rw [readAll,occurrences_divider,occurrences_word,if_neg later,addExtra_options,addWord_options]
    exact ih ok options
  case case12 draft mark kinds apart ih =>
    rw [readAll,occurrences_divider,addExtra_options]
    · exact ih ok options
    · exact apart

theorem readAll_takeAll (ok : readAll draft kinds = .ok read) :
    takeAll draft.options (occurrences kinds) = .ok read.options := by
  have again := readAll_resumed ok draft.options
  rw [ok] at again
  cases taken : takeAll draft.options (occurrences kinds) with
  | error stop => rw [taken] at again; cases again
  | ok final =>
    rw [taken] at again
    exact congrArg (Except.ok <| Draft.options ·) (Except.ok.inj again).symm

/-- No flag is left without its text where the arguments are read. -/
theorem mem_occurrences {text : String} {flag : Flag} {inCluster : Bool} {value : Option String}
    (ok : readAll draft kinds = .ok read) (member : (text,.flag flag inCluster value) ∈ kinds) :
    flag ∈ (occurrences kinds).map (·.1) := by
  fun_induction readAll draft kinds
  case case1 => cases member
  case case2 => cases ok
  case case3 draft name own inCluster text kinds _ ih =>
    obtain ⟨_,_,ok⟩ := except_bind_ok ok
    rw [occurrences,List.map_cons]
    rcases List.mem_cons.mp member with same | member
    · obtain ⟨_,rfl,_,_⟩ := same
      exact List.mem_cons_self
    · exact List.mem_cons_of_mem _ (ih _ ok member)
  case case4 draft name own inCluster text kinds _ ih =>
    obtain ⟨_,_,ok⟩ := except_bind_ok ok
    rw [occurrences,List.map_cons]
    rcases List.mem_cons.mp member with same | member
    · obtain ⟨_,rfl,_,_⟩ := same
      exact List.mem_cons_self
    · rcases List.mem_cons.mp member with word | member
      · cases word
      · exact List.mem_cons_of_mem _ (ih _ ok member)
  case case5 => cases ok
  -- The other arguments are no flags.
  all_goals
    rename_i ih
    simp only [List.mem_cons,Prod.mk.injEq,reduceCtorEq,and_false,false_or] at member
    simpa using ih ok member

end Reading

section Acceptance
variable {arguments : List String} {c : CommandLine} {flag : Flag} {name text : String}

/-- An accepted command line has the options that its flags make, a scope among them. -/
theorem read_spec (ok : read arguments = .ok c) : ∃ kinds draft,
    classifyAll arguments = .ok kinds ∧ readAll ⟨none,[],noOptions⟩ kinds = .ok draft ∧
      ofDraft draft = .ok c ∧ draft.options = c.options ∧ ∃ flag ∈ scopeFlags, c.options.has flag = true := by
  unfold read at ok
  split at ok
  · cases ok
  · rename_i kinds classified
    obtain ⟨draft,all,ok⟩ := except_bind_ok ok
    refine ⟨kinds,draft,classified,all,ok,?_⟩
    unfold ofDraft at ok
    split at ok
    · cases ok
    · split at ok
      · cases ok
      · rename_i some
        split at ok
        · cases ok
        · obtain rfl := Except.ok.inj ok
          refine ⟨rfl,List.any_eq_true.mp ?_⟩
          simpa only [Bool.not_eq_true,Bool.not_eq_false'] using some

theorem read_takeAll (ok : read arguments = .ok c) :
    takeAll noOptions (givenBy arguments) = .ok c.options := by
  obtain ⟨kinds,draft,classified,all,_,same,_⟩ := read_spec ok
  rw [givenBy,classified,← same]
  exact readAll_takeAll all

theorem mem_givenBy (ok : read arguments = .ok c) (contains : Contains flag arguments) :
    flag ∈ (givenBy arguments).map (·.1) := by
  obtain ⟨kinds,draft,classified,all,_⟩ := read_spec ok
  obtain ⟨text,member,inCluster,value,taken⟩ := contains
  rw [givenBy,classified]
  exact mem_occurrences all (mem_of_classifyAll classified member taken)

end Acceptance

end ScopedAnalytics.CommandLine
