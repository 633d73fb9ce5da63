import ScopedAnalytics.Proofs.CommandLine.Arguments

/-! The order of the parts of a command line. A command line of the selection and of flags in full, each
once and with its text in the next argument, comes to the same in every order of these parts, or it is
refused in every order. A flag of a scope that is given may be given before as well. -/
namespace ScopedAnalytics.CommandLine
open Argument

/-- A part of a command line, which is not taken apart when the parts are put into another order. -/
inductive Part where
  | word (text : String)
  | pair (name text : String)
deriving DecidableEq

namespace Part

def arguments : Part → List String
  | word text => [text]
  | pair name text => [name,text]

def text : Part → String
  | word text => text
  | pair _ text => text

def word? : Part → Option String
  | word text => some text
  | pair _ _ => none

def name? : Part → Option String
  | word _ => none
  | pair name _ => some name

def given? : Part → Option (Flag × String)
  | word _ => none
  | pair name text => (Flag.spellings.lookup name).map fun flag => (flag,text)

def kinds (part : Part) : List (String × Kind) :=
  match part with
  | word text => [(text,.word)]
  | pair name text =>
    [(name,.flag ((Flag.spellings.lookup name).getD .help) (isLetter name) none),(text,.word)]

end Part

def lineOf (parts : List Part) : List String := parts.flatMap Part.arguments

/-- The parts are one word and flags in full that take a text, each flag once, and neither the word nor a
text begins as a flag does. -/
structure IsPaired (parts : List Part) : Prop where
  word : ∃ text, parts.filterMap Part.word? = [text]
  plain : ∀ part ∈ parts, IsPlain part.text
  full : ∀ name ∈ parts.filterMap Part.name?, ∃ flag, flag ≠ .help ∧ (name,flag) ∈ Flag.spellings
  distinct : (parts.filterMap Part.name?).Nodup

theorem IsPaired.perm {parts other : List Part} (paired : IsPaired parts) (permuted : parts.Perm other) :
    IsPaired other := by
  obtain ⟨text,word⟩ := paired.word
  refine ⟨⟨text,?_⟩,?_,?_,?_⟩
  · have words := permuted.filterMap Part.word?
    rw [word] at words
    exact (List.perm_singleton.mp words.symm)
  · exact fun part member => paired.plain part (permuted.mem_iff.mpr member)
  · exact fun name member => paired.full name ((permuted.filterMap _).mem_iff.mpr member)
  · exact (permuted.filterMap _).nodup_iff.mp paired.distinct

section Names
variable {name other : String} {flag : Flag}

theorem lookup_name (full : (name,flag) ∈ Flag.spellings) :
    Flag.spellings.lookup name = some flag := by
  have each : ∀ entry ∈ Flag.spellings, Flag.spellings.lookup entry.1 = some entry.2 := by
    decide
  exact each _ full

theorem name_unique (full : (name,flag) ∈ Flag.spellings) (also : (other,flag) ∈ Flag.spellings)
    (takes : flag ≠ .help) : name = other := by
  have each : ∀ one ∈ Flag.spellings, ∀ two ∈ Flag.spellings,
      one.2 = two.2 → one.2 ≠ .help → one.1 = two.1 := by
    decide
  exact each _ full _ also rfl takes

end Names

section Lines
variable {parts : List Part} {draft : Draft}

/-- Whether a part is plain by itself: its texts are, and its name is that of a flag that takes one. -/
private def Part.IsFull (part : Part) : Prop :=
  IsPlain part.text ∧ ∀ name, part.name? = some name →
    ∃ flag, flag ≠ .help ∧ (name,flag) ∈ Flag.spellings

private theorem IsPaired.isFull (paired : IsPaired parts) : ∀ part ∈ parts, part.IsFull :=
  fun part member => ⟨paired.plain part member,fun name named =>
    paired.full name (List.mem_filterMap.mpr ⟨part,member,named⟩)⟩

private theorem classifyAll_lineOf (full : ∀ part ∈ parts, part.IsFull) :
    classifyAll (lineOf parts) = .ok (parts.flatMap Part.kinds) := by
  induction parts with
  | nil => rfl
  | cons part parts ih =>
    have rest := ih fun part member => full part (List.mem_cons_of_mem _ member)
    obtain ⟨plain,named⟩ := full part List.mem_cons_self
    cases part with
    | word text =>
      have plain : IsPlain text := plain
      change classifyAll (text :: lineOf parts) = _
      rw [classifyAll_cons plain.classify (by simp),rest]
      rfl
    | pair name text =>
      have plain : IsPlain text := plain
      obtain ⟨flag,_,spelt⟩ := named name rfl
      change classifyAll (name :: text :: lineOf parts) = _
      rw [classifyAll_cons (classify_name spelt) (by simp),
        classifyAll_cons plain.classify (by simp),rest]
      simp only [List.flatMap_cons,Part.kinds,lookup_name spelt,Option.getD_some]
      rfl

private theorem addWord_keeps (text : String) : (draft.addWord text).options = draft.options := by
  cases held : draft.selection <;> simp [Draft.addWord,held]

private theorem foldl_addWord_options (options : Options) (texts : List String) :
    texts.foldl Draft.addWord { draft with options } =
      { texts.foldl Draft.addWord draft with options } := by
  induction texts generalizing draft with
  | nil => rfl
  | cons text texts ih => simp only [List.foldl_cons,addWord_options,ih]

/-- Parts are read one by one: the words go where words go, and the flags are taken. -/
private theorem readAll_kinds (full : ∀ part ∈ parts, part.IsFull) :
    readAll draft (parts.flatMap Part.kinds) =
      (takeAll draft.options (parts.filterMap Part.given?)).map fun final =>
        { (parts.filterMap Part.word?).foldl Draft.addWord draft with options := final } := by
  induction parts generalizing draft with
  | nil => rfl
  | cons part parts ih =>
    have rest (draft : Draft) := @ih draft fun part member => full part (List.mem_cons_of_mem _ member)
    obtain ⟨plain,named⟩ := full part List.mem_cons_self
    cases part with
    | word text =>
      -- A word is read apart only in front of a divider, and no part begins with one.
      have undivided (mark : String) (others : List (String × Kind)) :
          parts.flatMap Part.kinds = (mark,.divider) :: others → False := by
        cases parts with
        | nil => simp
        | cons next parts => cases next <;> simp [Part.kinds]
      have entries : (Part.word text :: parts).filterMap Part.given? =
          parts.filterMap Part.given? := rfl
      have words : (Part.word text :: parts).filterMap Part.word? =
          text :: parts.filterMap Part.word? := rfl
      simp only [List.flatMap_cons,Part.kinds,List.cons_append,List.nil_append]
      rw [readAll,rest,entries,words,addWord_keeps,List.foldl_cons]
      exact undivided
    | pair name text =>
      obtain ⟨flag,takes,spelt⟩ := named name rfl
      simp only [List.flatMap_cons,Part.kinds,lookup_name spelt,Option.getD_some,List.cons_append,
        List.nil_append]
      rw [readAll]
      · have entry : (Part.pair name text).given? = some (flag,text) := by
          simp [Part.given?,lookup_name spelt]
        simp only [List.filterMap_cons,entry,takeAll,List.foldlM_cons]
        cases takeFlag draft.options flag text with
        | error stop => rfl
        | ok changed =>
          refine (rest { draft with options := changed }).trans ?_
          simp only [foldl_addWord_options]
          rfl
      · exact takes

private theorem entries_flags (full : ∀ part ∈ parts, part.IsFull) :
    (parts.filterMap Part.given?).map (·.1) =
      (parts.filterMap Part.name?).map fun name => (Flag.spellings.lookup name).getD .help := by
  induction parts with
  | nil => rfl
  | cons part parts ih =>
    have rest := ih fun part member => full part (List.mem_cons_of_mem _ member)
    cases part with
    | word text => exact rest
    | pair name text =>
      obtain ⟨flag,_,spelt⟩ := (full _ List.mem_cons_self).2 name rfl
      have entry : (Part.pair name text).given? = some (flag,text) := by
        simp [Part.given?,lookup_name spelt]
      have named : (Part.pair name text).name? = some name := rfl
      simp [entry,named,lookup_name spelt,rest]

theorem IsPaired.entries_distinct (paired : IsPaired parts) :
    ((parts.filterMap Part.given?).map (·.1)).Nodup := by
  rw [entries_flags paired.isFull]
  refine List.Nodup.map_on ?_ paired.distinct
  intro name member other also same
  obtain ⟨flag,takes,spelt⟩ := paired.full name member
  obtain ⟨twin,_,also⟩ := paired.full other also
  rw [lookup_name spelt,lookup_name also] at same
  obtain rfl : flag = twin := same
  exact name_unique spelt also takes

theorem IsPaired.read_eq {text : String} (paired : IsPaired parts)
    (word : parts.filterMap Part.word? = [text]) : read (lineOf parts) =
      takeAll noOptions (parts.filterMap Part.given?) >>= fun final =>
        ofDraft ⟨some text,[],final⟩ := by
  rw [read,classifyAll_lineOf paired.isFull]
  dsimp only
  rw [readAll_kinds paired.isFull,word]
  cases takeAll noOptions (parts.filterMap Part.given?) <;> rfl

end Lines

/-- Two readings come to the same, or both are refused as misuse. -/
def SameOrMisused {α β : Type} (wrap : Misuse → β) (first second : Except β α) : Prop :=
  first = second ∨ ∃ m n, first = .error (wrap m) ∧ second = .error (wrap n)

section Order
variable {parts other : List Part}

theorem IsPaired.read_rearranged (paired : IsPaired parts) (permuted : parts.Perm other) :
    SameOrMisused Stop.misuse (read (lineOf parts)) (read (lineOf other)) := by
  have again := paired.perm permuted
  obtain ⟨text,word⟩ := paired.word
  have words := permuted.filterMap Part.word?
  rw [word] at words
  rw [paired.read_eq word,again.read_eq (List.perm_singleton.mp words.symm)]
  have entries := permuted.filterMap Part.given?
  have acceptable : (∃ final, takeAll noOptions (parts.filterMap Part.given?) = .ok final) ↔
      ∃ final, takeAll noOptions (other.filterMap Part.given?) = .ok final := by
    have flags (flag : Flag) : flag ∈ (parts.filterMap Part.given?).map (·.1) ↔
        flag ∈ (other.filterMap Part.given?).map (·.1) := (entries.map _).mem_iff
    simp only [takeAll_ok_iff,entries.mem_iff,flags]
  cases first : takeAll noOptions (parts.filterMap Part.given?) with
  | ok final =>
    obtain ⟨changed,second⟩ := acceptable.mp ⟨final,first⟩
    have texts (flag : Flag) : textsOf (parts.filterMap Part.given?) flag =
        textsOf (other.filterMap Part.given?) flag := textsOf_perm entries paired.entries_distinct
    obtain rfl := takeAll_congr (fun place _ => by rw [texts]) (texts .measure) first second
    rw [second]
    exact .inl rfl
  | error stop =>
    cases second : takeAll noOptions (other.filterMap Part.given?) with
    | ok changed =>
      obtain ⟨final,ok⟩ := acceptable.mpr ⟨changed,second⟩
      cases first.symm.trans ok
    | error halt =>
      obtain ⟨m,rfl⟩ := takeAll_misuse stop first
      obtain ⟨n,rfl⟩ := takeAll_misuse halt second
      exact .inr ⟨m,n,rfl,rfl⟩

/-- A flag of a scope that is given may be given before as well, with any text: the last one counts. -/
theorem read_repeated {arguments : List String} {c : CommandLine} {flag : Flag} {name text : String}
    (ok : read arguments = .ok c) (scope : flag ∈ scopeFlags) (has : c.options.has flag = true)
    (spelt : (name,flag) ∈ Flag.spellings) (plain : IsPlain text) :
    read (name :: text :: arguments) = .ok c := by
  obtain ⟨kinds,draft,classified,all,concluded,same,_⟩ := read_spec ok
  have taken : takeAll noOptions (occurrences kinds) = .ok c.options := same ▸ readAll_takeAll all
  have takes : flag ≠ .help := fun help => by simp [help,scopeFlags] at scope
  have listed : flag ∈ (occurrences kinds).map (·.1) := by
    have held := ((takeAll_takesAll taken).has flag).mp has
    simp only [noOptions_has,Bool.false_eq_true,or_false] at held
    exact held.2
  have again := takeAll_repeated taken scope listed text
  rw [takeAll_cons] at again
  obtain ⟨changed,here,later⟩ := except_bind_ok again
  have resumed := readAll_resumed all changed
  rw [later] at resumed
  rw [read,classifyAll_cons (classify_name spelt) (by simp),classifyAll_cons plain.classify (by simp),
    classified]
  dsimp only [Except.map]
  rw [readAll,here]
  · change readAll { (⟨none,[],noOptions⟩ : Draft) with options := changed } kinds >>= ofDraft = _
    rw [resumed,← same]
    exact concluded
  · exact takes

end Order

end ScopedAnalytics.CommandLine
