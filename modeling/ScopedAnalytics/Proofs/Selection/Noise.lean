import ScopedAnalytics.Proofs.Selection.Extraction
import ScopedAnalytics.Proofs.Selection.Representation

/-! Rewrites of a document that are noise: they change what is written and not what is asked for. A
rewrite is made at one place at a time, at the top or inside a field that asks for a resource, and at
any depth of inline fragments; any number of them, read forward or backward, leaves the selections as
they are. -/
namespace ScopedAnalytics
namespace Document

section Rewrites

/-- A field of the name stands in a selection set, at any depth of inline fragments. -/
def Holds (nodes : List Node) (name : String) : Prop :=
  ∃ path inside, fieldAt? nodes path = some (name,inside)

/-- A field of the name stands inside a field that asks for the resource. -/
def Asks (nodes : List Node) (resource : Resource) (name : String) : Prop :=
  ∃ path inside, fieldAt? nodes path = some (resource.name,inside) ∧ Holds inside name

/-- Rewrites of a run of siblings where fields of some names are idle. The run is wrapped, a named
fragment or an idle field with all that is inside of it comes in, or a field takes another alias, other
arguments and other directives. -/
inductive Noise (IsIdle : String → Prop) : List Node → List Node → Prop
  | wrapped (condition : Option String) (directives : List Directive) (run : List Node) :
      Noise IsIdle run [.inline condition directives run]
  | spread (name : String) (directives : List Directive) : Noise IsIdle [] [.spread name directives]
  | idle {name : String} (idle : IsIdle name) (label : Option String) (arguments : List Argument)
      (directives : List Directive) (children : Option (List Node)) :
      Noise IsIdle [] [.field label name arguments directives children]
  | relabelled (name : String) (children : Option (List Node)) (label label' : Option String)
      (arguments arguments' : List Argument) (directives directives' : List Directive) :
      Noise IsIdle [.field label name arguments directives children]
        [.field label' name arguments' directives' children]

/-- A rewrite of a run of siblings at one place of a selection set, in it or in an inline fragment at
any depth. It may depend on all that stands before the place. -/
inductive Somewhere (Rewrite : List Node → List Node → List Node → Prop) :
    List Node → List Node → List Node → Prop
  | here {earlier run changed : List Node} (before after : List Node)
      (rewrite : Rewrite (earlier ++ before) run changed) :
      Somewhere Rewrite earlier (before ++ run ++ after) (before ++ changed ++ after)
  | inside {earlier nodes changed : List Node} (before after : List Node) (condition : Option String)
      (directives : List Directive) (rewrite : Somewhere Rewrite (earlier ++ before) nodes changed) :
      Somewhere Rewrite earlier (before ++ .inline condition directives nodes :: after)
        (before ++ .inline condition directives changed :: after)

/-- Rewrites inside a field that asks for a resource. A field may come in again if one of its name
stands before it, in this field or in one of the outside that asks for the resource. -/
inductive FieldRewrite (resource : Resource) (outside earlier : List Node) :
    List Node → List Node → Prop
  | noise {run changed : List Node}
      (noise : Noise (fun name => ∀ field : RequestedField, name ≠ Vocabulary.word field) run changed) :
      FieldRewrite resource outside earlier run changed
  | again {name : String} (asked : Holds earlier name ∨ Asks outside resource name)
      (label : Option String) (arguments : List Argument) (directives : List Directive)
      (children : Option (List Node)) :
      FieldRewrite resource outside earlier [] [.field label name arguments directives children]

inductive TopRewrite (earlier : List Node) : List Node → List Node → Prop
  | noise {run changed : List Node}
      (noise : Noise (fun name => ∀ resource : Resource, name ≠ resource.name) run changed) :
      TopRewrite earlier run changed
  | within {resource : Resource} {children changed : Option (List Node)} (label : Option String)
      (arguments : List Argument) (directives : List Directive)
      (rewrite : Somewhere (FieldRewrite resource earlier) [] (children.getD []) (changed.getD [])) :
      TopRewrite earlier [.field label resource.name arguments directives children]
        [.field label resource.name arguments directives changed]

abbrev Edit : List Node → List Node → Prop := Somewhere TopRewrite []

/-- One rewrite of a document: a definition that is no operation comes in, or any definition after an
operation, or an operation is rewritten. -/
inductive Revision : List Definition → List Definition → Prop
  | aside {definition : Definition} (before after : List Definition)
      (aside : definition.operationNodes? = none) : Revision (before ++ after) (before ++ definition :: after)
  | later (definition : Definition) {before : List Definition} (after : List Definition)
      (preceded : ∃ earlier ∈ before, earlier.operationNodes?.isSome) :
      Revision (before ++ after) (before ++ definition :: after)
  | edit (before after : List Definition) (kind : OperationKind) (name : Option String)
      {nodes changed : List Node} (edit : Edit nodes changed) :
      Revision (before ++ .operation kind name nodes :: after)
        (before ++ .operation kind name changed :: after)

end Rewrites

section Asking

/-- The names of the fields that a selection set stands for. -/
def fieldNames (nodes : List Node) : List String := (fieldsOf nodes).map (·.1)

/-- The fields among names that a resource can be asked for, each where it first comes. -/
def requested (names : List String) : List RequestedField :=
  (names.filterMap Vocabulary.find?).eraseDups

/-- What a document asks for: resources in the order of their mentions, and the fields of each. -/
def asking (nodes : List Node) : List Resource × (Resource → List RequestedField) :=
  ((mentions nodes).map (·.resource),fun resource => requested (namesOf nodes resource))

theorem fieldsOf_inline (condition : Option String) (directives : List Directive) (nodes : List Node) :
    fieldsOf [.inline condition directives nodes] = fieldsOf nodes := by
  simp [fieldsOf,Node.fields]

theorem fieldsOf_field (label : Option String) (name : String) (arguments : List Argument)
    (directives : List Directive) (children : Option (List Node)) :
    fieldsOf [.field label name arguments directives children] = [(name,children.getD [])] := by
  simp [fieldsOf,Node.fields]

theorem fieldsOf_spread (name : String) (directives : List Directive) :
    fieldsOf [.spread name directives] = [] := by
  simp [fieldsOf,Node.fields]

theorem Holds.mem_fieldNames {nodes : List Node} {name : String} (held : Holds nodes name) :
    name ∈ fieldNames nodes := by
  obtain ⟨path,inside,found⟩ := held
  exact List.mem_map.mpr ⟨_,mem_fieldsOf.mpr ⟨path,found⟩,rfl⟩

theorem mention?_name (resource : Resource) (inside : List Node) :
    mention? (resource.name,inside) = some ⟨resource,fieldNames inside⟩ := by
  simp [mention?,fieldNames]

theorem Asks.mem_namesOf {nodes : List Node} {resource : Resource} {name : String}
    (asked : Asks nodes resource name) : name ∈ namesOf nodes resource := by
  obtain ⟨path,inside,found,held⟩ := asked
  have mentioned : ⟨resource,fieldNames inside⟩ ∈ mentions nodes :=
    List.mem_filterMap.mpr ⟨_,mem_fieldsOf.mpr ⟨path,found⟩,mention?_name resource inside⟩
  exact List.mem_flatMap.mpr ⟨_,List.mem_filter.mpr ⟨mentioned,by simp⟩,held.mem_fieldNames⟩

theorem fieldNames_append (nodes more : List Node) :
    fieldNames (nodes ++ more) = fieldNames nodes ++ fieldNames more := by
  simp [fieldNames,fieldsOf_append]

theorem namesOf_append (nodes more : List Node) (resource : Resource) :
    namesOf (nodes ++ more) resource = namesOf nodes resource ++ namesOf more resource := by
  simp [namesOf,mentions_append]

/-- What is asked first decides what asking on adds to it. -/
theorem requested_append {names others : List String} (same : requested names = requested others)
    (more : List String) : requested (names ++ more) = requested (others ++ more) := by
  unfold requested at same ⊢
  have known (field : RequestedField) : field ∈ names.filterMap Vocabulary.find? ↔
      field ∈ others.filterMap Vocabulary.find? := by
    rw [← List.mem_eraseDups,same,List.mem_eraseDups]
  rw [List.filterMap_append,List.filterMap_append,eraseDups_append_filter,eraseDups_append_filter,same]
  simp only [known]

/-- Asking for a field once more asks for nothing. -/
theorem requested_again {names : List String} {name : String} (asked : name ∈ names) :
    requested (names ++ [name]) = requested names := by
  cases found : (Vocabulary.find? name : Option RequestedField) with
  | none => simp [requested,found]
  | some field =>
    have member : field ∈ names.filterMap Vocabulary.find? := List.mem_filterMap.mpr ⟨name,asked,found⟩
    simp [requested,found,eraseDups_concat,appendNew,member]

theorem asking_append {nodes others : List Node} (same : asking nodes = asking others)
    (more : List Node) : asking (nodes ++ more) = asking (others ++ more) := by
  obtain ⟨resources,fields⟩ := Prod.mk.inj same
  refine Prod.ext ?_ (funext fun resource => ?_)
  · simp only [asking,mentions_append,List.map_append,resources]
  · simp only [asking,namesOf_append]
    exact requested_append (congrFun fields resource) _

end Asking

section Steps

/-- What is read of a selection set field by field does not tell noise if it ignores idle fields. -/
theorem Noise.filterMap_fieldsOf {α : Type} {IsIdle : String → Prop} {run changed : List Node}
    (read : String × List Node → Option α) (ignored : ∀ name inside, IsIdle name → read (name,inside) = none)
    (noise : Noise IsIdle run changed) :
    (fieldsOf run).filterMap read = (fieldsOf changed).filterMap read := by
  cases noise with
  | wrapped condition directives run => rw [fieldsOf_inline]
  | spread name directives => rw [fieldsOf_spread,fieldsOf]
  | idle idle label arguments directives children =>
    rw [fieldsOf_field,fieldsOf,List.filterMap_nil,List.filterMap_cons_none (ignored _ _ idle),
      List.filterMap_nil]
  | relabelled name children => rw [fieldsOf_field,fieldsOf_field]

/-- A view of selection sets that reads their fields in order, and which no rewrite changes as what
stands before is read as well, is not changed by a rewrite at any place. -/
theorem Somewhere.view_eq {α : Type} {Rewrite : List Node → List Node → List Node → Prop}
    (view : List Node → α) (fields : ∀ nodes others, fieldsOf nodes = fieldsOf others → view nodes = view others)
    (append : ∀ nodes others more, view nodes = view others → view (nodes ++ more) = view (others ++ more))
    (step : ∀ earlier run changed, Rewrite earlier run changed →
      view (earlier ++ run) = view (earlier ++ changed))
    {earlier nodes changed : List Node} (rewrite : Somewhere Rewrite earlier nodes changed) :
    view (earlier ++ nodes) = view (earlier ++ changed) := by
  induction rewrite with
  | here before after rewrite =>
    simpa only [List.append_assoc] using append _ _ after (step _ _ _ rewrite)
  | @inside earlier nodes changed before after condition directives _ ih =>
    -- Without the fragment the same fields stand there, in the same order, and all that comes before the
    -- place is then what comes before the fragment and before the place in it.
    have unwrapped (nodes : List Node) : view (earlier ++ before ++ nodes ++ after) =
        view (earlier ++ (before ++ .inline condition directives nodes :: after)) := by
      refine fields _ _ ?_
      rw [← List.singleton_append]
      simp only [fieldsOf_append,fieldsOf_inline,List.append_assoc]
    rw [← unwrapped,← unwrapped]
    exact append _ _ after ih

/-- A rewrite inside a field asks its resource for nothing new, after all it is asked before. -/
theorem FieldRewrite.requested_eq {resource : Resource} {outside earlier run changed : List Node}
    (rewrite : FieldRewrite resource outside earlier run changed) :
    requested (namesOf outside resource ++ fieldNames (earlier ++ run)) =
      requested (namesOf outside resource ++ fieldNames (earlier ++ changed)) := by
  cases rewrite with
  | noise noise =>
    have kept := noise.filterMap_fieldsOf
      (fun field => (Vocabulary.find? field.1 : Option RequestedField)) fun name _ idle => by
        cases found : (Vocabulary.find? name : Option RequestedField) with
        | none => rfl
        | some field => exact absurd (RequestedField.find?_eq_some_iff.mp found) (idle field)
    simp only [requested,fieldNames,fieldsOf_append,List.map_append,List.filterMap_append,
      List.filterMap_map,Function.comp_def,kept]
  | @again name asked label arguments directives children =>
    -- The name was asked for already, by this field or by a mention before it.
    have known := asked.elim (fun held => List.mem_append_right (namesOf outside resource) held.mem_fieldNames)
      fun asked => List.mem_append_left (fieldNames earlier) asked.mem_namesOf
    have added : fieldNames [.field label name arguments directives children] = [name] := by
      rw [fieldNames,fieldsOf_field,List.map_singleton]
    rw [List.append_nil,fieldNames_append,added,← List.append_assoc]
    exact (requested_again known).symm

theorem TopRewrite.asking_eq {earlier run changed : List Node} (rewrite : TopRewrite earlier run changed) :
    asking (earlier ++ run) = asking (earlier ++ changed) := by
  cases rewrite with
  | noise noise =>
    have kept : mentions run = mentions changed := noise.filterMap_fieldsOf mention? fun name inside idle => by
      cases found : Resource.named? name with
      | none => simp [mention?,found]
      | some resource => exact absurd (Resource.named?_eq_some_iff.mp found) (idle resource)
    simp only [asking,namesOf,mentions_append,kept]
  | @within resource children changed label arguments directives rewrite =>
    have mentioned (children : Option (List Node)) :
        mentions [.field label resource.name arguments directives children] =
          [⟨resource,fieldNames (children.getD [])⟩] := by
      rw [mentions,fieldsOf_field]
      simp [mention?_name]
    have inside := Somewhere.view_eq
      (fun nodes => requested (namesOf earlier resource ++ fieldNames nodes))
      (fun nodes others same => by simp only [fieldNames,same])
      (fun nodes others more same => by
        simp only [fieldNames_append,← List.append_assoc]
        exact requested_append same _)
      (fun _ _ _ => FieldRewrite.requested_eq) rewrite
    refine Prod.ext ?_ (funext fun other => ?_)
    · simp [asking,mentions_append,mentioned]
    · by_cases own : resource = other
      · subst own
        simpa [asking,namesOf,mentions_append,mentioned] using inside
      · simp [asking,namesOf,mentions_append,mentioned,own]

/-- One rewrite leaves what a document asks for. -/
theorem Edit.asking_eq {nodes changed : List Node} (edit : Edit nodes changed) :
    asking nodes = asking changed :=
  Somewhere.view_eq asking (fun _ _ same => by simp only [asking,namesOf,mentions,same])
    (fun _ _ more same => asking_append same more) (fun _ _ _ => TopRewrite.asking_eq) edit

/-- One revision leaves what the first operation asks for, if there is one. -/
theorem Revision.asking_eq {definitions revised : List Definition} (revision : Revision definitions revised) :
    (firstOperation? definitions).map asking = (firstOperation? revised).map asking := by
  cases revision with
  | aside before after aside => simp [firstOperation?,List.findSome?_append,aside]
  | later definition after preceded =>
    obtain ⟨earlier,member,some⟩ := preceded
    obtain ⟨nodes,found⟩ := Option.isSome_iff_exists.mp
      (List.findSome?_isSome_iff.mpr ⟨earlier,member,some⟩)
    simp [firstOperation?,List.findSome?_append,found]
  | edit before after kind name edit =>
    simp only [firstOperation?,List.findSome?_append,List.findSome?_cons,Definition.operationNodes?]
    cases before.findSome? Definition.operationNodes? with
    | none => exact congrArg some edit.asking_eq
    | some nodes => rfl

/-- A view that no step changes is the same after any number of steps, forward or backward. -/
theorem view_eq_of_eqvGen {α β : Type} {step : α → α → Prop} (view : α → β)
    (kept : ∀ a b, step a b → view a = view b) {a b : α} (steps : Relation.EqvGen step a b) :
    view a = view b := by
  induction steps with
  | rel a b here => exact kept a b here
  | refl a => rfl
  | symm a b _ ih => exact ih.symm
  | trans a b c _ _ first second => exact first.trans second

end Steps
end Document

namespace Selection
variable {s : Selection} {field : RequestedField}

def Has (s : Selection) : RequestedField → Prop
  | .count => ⟨s.resource,.count⟩ ∈ s.measures
  | .organizationId => dimensionOf s.resource .organization ∈ s.dimensions
  | .projectId => dimensionOf s.resource .project ∈ s.dimensions
  | .collectionId => dimensionOf s.resource .collection ∈ s.dimensions
  | .timestamp => s.hasTimestamp = true

theorem request_has (s : Selection) (field : RequestedField) : (s.request field).Has field := by
  cases field <;> simp [Has,request,addMeasure,addDimension,Selections.mem_appendNew]

theorem Has.request (has : s.Has field) (other : RequestedField) : (s.request other).Has field := by
  cases field <;> cases other <;>
    simp_all [Has,Selection.request,addMeasure,addDimension,Selections.mem_appendNew]

theorem Has.request_eq (has : s.Has field) : s.request field = s := by
  cases s
  cases field <;> simp_all [Has,Selection.request,addMeasure,addDimension,appendNew]

theorem foldl_request_has {fields : List RequestedField} (member : field ∈ fields) (s : Selection) :
    (fields.foldl request s).Has field := by
  induction fields using List.reverseRecOn with
  | nil => simp at member
  | append_singleton fields last ih =>
    rw [List.foldl_concat]
    rcases List.mem_append.mp member with before | here
    · exact (ih before).request last
    · rw [List.mem_singleton.mp here]
      exact request_has _ last

theorem foldl_request_eraseDups (fields : List RequestedField) (s : Selection) :
    fields.eraseDups.foldl request s = fields.foldl request s := by
  induction fields using List.reverseRecOn with
  | nil => rfl
  | append_singleton fields field ih =>
    rw [eraseDups_concat,appendNew,List.foldl_concat]
    split
    · rename_i again
      rw [ih,(foldl_request_has (List.mem_eraseDups.mp again) s).request_eq]
    · rw [List.foldl_concat,ih]

end Selection

namespace Selections
open Document

/-- The selections of resources that are asked for fields, one for each resource where it first comes. -/
def ofAsking (asked : List Resource × (Resource → List RequestedField)) : List Selection :=
  asked.1.eraseDups.map fun resource => (asked.2 resource).foldl Selection.request (.blank resource)

theorem extract_eq_ofAsking (nodes : List Node) : extract nodes = ofAsking (asking nodes) := by
  have selected := addMeasures_extract nodes []
  rw [changesOf_resources,List.map_nil,List.append_nil] at selected
  refine selected.trans (List.map_congr_left fun resource _ => ?_)
  rw [outcome_mentions,← Selection.requestAll_blank]
  exact (Selection.foldl_request_eraseDups _ _).symm

theorem map_readNodes {α : Type} {text : String} {definitions : List Definition} (f : List Node → α)
    (read : Document.read text = .ok definitions) : (readNodes text).map f =
      ((firstOperation? definitions).map f).elim (.error .noOperation) .ok := by
  unfold readNodes
  rw [read]
  dsimp only
  cases firstOperation? definitions <;> rfl

/-- Noise is not selected. Any number of edits, made or undone, leave the selections of a selection set
as they are, and any number of revisions those of the first operation of a document; so texts of such
documents select the same, or both have no operation. -/
theorem noise_is_ignored :
    (∀ nodes others, Relation.EqvGen Edit nodes others → extract nodes = extract others) ∧
    (∀ definitions others, Relation.EqvGen Revision definitions others →
      (firstOperation? definitions).map extract = (firstOperation? others).map extract) ∧
    ∀ text other definitions others, Document.read text = .ok definitions →
      Document.read other = .ok others → Relation.EqvGen Revision definitions others →
      (readNodes text).map extract = (readNodes other).map extract := by
  have revised {definitions others : List Definition} (revisions : Relation.EqvGen Revision definitions others) :
      (firstOperation? definitions).map extract = (firstOperation? others).map extract := by
    have asked := view_eq_of_eqvGen (fun definitions => (firstOperation? definitions).map asking)
      (fun _ _ => Revision.asking_eq) revisions
    rw [funext extract_eq_ofAsking]
    simpa only [Option.map_map,Function.comp_def] using congrArg (Option.map ofAsking) asked
  refine ⟨fun nodes others edits => ?_,fun _ _ => revised,?_⟩
  · rw [extract_eq_ofAsking,extract_eq_ofAsking,view_eq_of_eqvGen asking (fun _ _ => Edit.asking_eq) edits]
  · intro text other definitions others read read' revisions
    rw [map_readNodes extract read,map_readNodes extract read',revised revisions]

section Example

def mintsOf (label : Option String) (children : List Node) : Node :=
  .field label "mints" [] [] (some children)

def plain (name : String) : Node := .field none name [] [] none

/-- A field that has no effect, whatever is inside of it. -/
def idleField : Node := .field none "nothing" [] [] (some [plain "timestamp"])

private theorem edit_mints (label : Option String) {children changed : List Node}
    (rewrite : Somewhere (FieldRewrite .mints []) [] children changed) :
    Edit [mintsOf label children] [mintsOf label changed] :=
  @Somewhere.here _ [] [_] [_] [] [] (@TopRewrite.within _ .mints (some _) (some _) label [] [] rewrite)

def noisyText : String :=
  "fragment F on T \x7b x \x7d " ++
    "\x7b ...F m: mints \x7b count ... \x7b nothing \x7b timestamp \x7d count \x7d \x7d \x7d"

/-- An alias, fragments, a field without an effect and one that comes again make no difference, and nor
does another definition. -/
theorem noise_is_ignored_mints :
    (readNodes "\x7b mints \x7b count \x7d \x7d").map extract = (readNodes noisyText).map extract := by
  have read : Document.read "\x7b mints \x7b count \x7d \x7d" =
      .ok [.operation .query none [mintsOf none [plain "count"]]] := by decide +kernel
  have read' : Document.read noisyText =
      .ok [.fragment "F" "T" [plain "x"],.operation .query none [.spread "F" [],
        mintsOf (some "m") [plain "count",.inline none [] [idleField,plain "count"]]]] := by decide +kernel
  have idle : ∀ field : RequestedField, "nothing" ≠ Vocabulary.word field := by
    intro field
    cases field <;> decide
  have wrapped : Edit [mintsOf none [plain "count"]] [mintsOf none [plain "count",.inline none [] []]] :=
    edit_mints none (@Somewhere.here _ [] [] [_] [plain "count"] [] (.noise (.wrapped none [] [])))
  have again : Edit [mintsOf none [plain "count",.inline none [] []]]
      [mintsOf none [plain "count",.inline none [] [plain "count"]]] :=
    edit_mints none (@Somewhere.inside _ [] [] [_] [plain "count"] [] none []
      (@Somewhere.here _ _ [] [_] [] [] (.again (.inl ⟨[0],[],rfl⟩) none [] [] none)))
  have filled : Edit [mintsOf none [plain "count",.inline none [] [plain "count"]]]
      [mintsOf none [plain "count",.inline none [] [idleField,plain "count"]]] :=
    edit_mints none (@Somewhere.inside _ [] [_] [_,_] [plain "count"] [] none []
      (@Somewhere.here _ _ [] [_] [] [_] (.noise (.idle idle none [] [] _))))
  have renamed : Edit [mintsOf none [plain "count",.inline none [] [idleField,plain "count"]]]
      [mintsOf (some "m") [plain "count",.inline none [] [idleField,plain "count"]]] :=
    @Somewhere.here _ [] [_] [_] [] [] (.noise (.relabelled "mints" _ none (some "m") [] [] [] []))
  have spread : Edit [mintsOf (some "m") [plain "count",.inline none [] [idleField,plain "count"]]]
      [.spread "F" [],mintsOf (some "m") [plain "count",.inline none [] [idleField,plain "count"]]] :=
    @Somewhere.here _ [] [] [_] [] [_] (.noise (.spread "F" []))
  have revision {nodes changed : List Node} (edit : Edit nodes changed) :
      Relation.EqvGen Revision [.operation .query none nodes] [.operation .query none changed] :=
    .rel _ _ (.edit [] [] .query none edit)
  have aside {definitions : List Definition} : Relation.EqvGen Revision definitions
      (.fragment "F" "T" [plain "x"] :: definitions) := .rel _ _ (.aside [] definitions rfl)
  have inside := ((revision wrapped).trans _ _ _ (revision again)).trans _ _ _ (revision filled)
  have around := ((revision renamed).trans _ _ _ (revision spread)).trans _ _ _ aside
  exact noise_is_ignored.2.2 _ _ _ _ read read' (inside.trans _ _ _ around)

end Example
end Selections
end ScopedAnalytics
