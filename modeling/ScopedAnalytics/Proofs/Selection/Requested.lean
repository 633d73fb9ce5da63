import ScopedAnalytics.Proofs.Point.Contents

/-! What the selections of a request hold. The selection of a resource is the outcome of all that
a document and the added measures ask of it, in their order, whatever is asked of others. -/
namespace ScopedAnalytics

/-- The field by which an identifier is asked for. -/
def RequestedField.ofKey : ScopeKey → RequestedField
  | .organization => .organizationId
  | .project => .projectId
  | .collection => .collectionId

theorem RequestedField.find?_eq_some_iff {text : String} {field : RequestedField} :
    Vocabulary.find? text = some field ↔ text = Vocabulary.word field := by
  constructor
  · intro known
    have found := List.find?_some known
    exact (eq_of_beq found).symm
  · rintro rfl
    cases field <;> decide

/-- The names of the fields that a document asks a resource for, in all places where it does. -/
def Document.namesOf (nodes : List Node) (resource : Resource) : List String :=
  ((mentions nodes).filter (·.resource = resource)).flatMap (·.names)

namespace Selections

section Changes

abbrev Change := Resource × (Selection → Selection)

/-- A change that leaves the selection with its resource. -/
def IsOwn (change : Change) : Prop := ∀ s, (change.2 s).resource = s.resource

def altered (changes : List Change) (s : Selection) : Selection :=
  ((changes.filter (·.1 = s.resource)).map (·.2)).foldl (fun s change => change s) s

def outcome (changes : List Change) (resource : Resource) : Selection :=
  ((changes.filter (·.1 = resource)).map (·.2)).foldl (fun s change => change s) (.blank resource)

theorem altered_concat (changes : List Change) (change : Change) (s : Selection) :
    altered (changes ++ [change]) s =
      if change.1 = s.resource then change.2 (altered changes s) else altered changes s := by
  unfold altered
  split
  · rename_i own
    simp [own]
  · rename_i other
    simp [other]

theorem altered_absent {changes : List Change} {s : Selection}
    (absent : s.resource ∉ changes.map (·.1)) : altered changes s = s := by
  have none : changes.filter (·.1 = s.resource) = [] := by
    refine List.filter_eq_nil_iff.mpr fun change member own => absent ?_
    exact List.mem_map.mpr ⟨change,member,by simpa using own⟩
  rw [altered,none]
  rfl

theorem altered_resource {changes : List Change} (own : ∀ change ∈ changes, IsOwn change)
    (s : Selection) : (altered changes s).resource = s.resource := by
  induction changes using List.reverseRecOn with
  | nil => rfl
  | append_singleton changes change ih =>
    have before := ih fun change member => own change (List.mem_append_left _ member)
    have here : IsOwn change := own change (by simp)
    rw [altered_concat]
    split
    · rw [here,before]
    · exact before

theorem outcome_nil (resource : Resource) : outcome [] resource = .blank resource := rfl

theorem outcome_concat (changes : List Change) (change : Change) (resource : Resource) :
    outcome (changes ++ [change]) resource =
      if change.1 = resource then change.2 (outcome changes resource)
      else outcome changes resource := altered_concat changes change (.blank resource)

theorem outcome_resource {changes : List Change} (own : ∀ change ∈ changes, IsOwn change)
    (resource : Resource) : (outcome changes resource).resource = resource :=
  altered_resource own (.blank resource)

/-- The resources asked for that have no selection, in the order in which they are first asked for. -/
def newResources (selections : List Selection) (asked : List Resource) : List Resource :=
  asked.eraseDups.filter (· ∉ selections.map (·.resource))

/-- Selections with a blank one at the end for each resource that is asked for and has none. -/
def completed (selections : List Selection) (asked : List Resource) : List Selection :=
  selections ++ (newResources selections asked).map .blank

theorem completed_resources (selections : List Selection) (asked : List Resource) :
    (completed selections asked).map (·.resource) =
      selections.map (·.resource) ++ newResources selections asked := by
  rw [completed,List.map_append,List.map_map]
  exact congrArg _ (List.map_id _)

theorem mem_completed {selections : List Selection} {asked : List Resource} {resource : Resource} :
    resource ∈ (completed selections asked).map (·.resource) ↔
      resource ∈ selections.map (·.resource) ∨ resource ∈ asked := by
  rw [completed_resources,List.mem_append,newResources,List.mem_filter,List.mem_eraseDups]
  simp only [decide_eq_true_eq]
  tauto

theorem completed_distinct {selections : List Selection} (asked : List Resource)
    (distinct : (selections.map (·.resource)).Nodup) :
    ((completed selections asked).map (·.resource)).Nodup := by
  rw [completed_resources,newResources]
  refine List.nodup_append.mpr ⟨distinct,(eraseDups_nodup asked).filter _,?_⟩
  rintro resource held _ new rfl
  exact of_decide_eq_true (List.mem_filter.mp new).2 held

theorem completed_concat (selections : List Selection) (asked : List Resource) (resource : Resource) :
    completed selections (asked ++ [resource]) =
      if resource ∈ (completed selections asked).map (·.resource) then completed selections asked
      else completed selections asked ++ [.blank resource] := by
  simp only [mem_completed]
  simp only [completed,newResources,eraseDups_concat,appendNew,List.mem_eraseDups]
  by_cases known : resource ∈ asked
  · simp [known]
  · by_cases held : resource ∈ selections.map (·.resource)
    · simp [known,held,-List.mem_map]
    · simp [known,held,-List.mem_map]

private theorem changeLast?_of_absent {resource : Resource} (change : Selection → Selection)
    {selections : List Selection} (absent : resource ∉ selections.map (·.resource)) :
    changeLast? resource change selections = none := by
  induction selections with
  | nil => rfl
  | cons s rest ih =>
    simp only [List.map_cons,List.mem_cons,not_or] at absent
    rw [changeLast?,ih absent.2]
    exact if_neg fun same => absent.1 same.symm

private theorem changeLast?_of_present {resource : Resource} (change : Selection → Selection)
    {selections : List Selection} (distinct : (selections.map (·.resource)).Nodup)
    (present : resource ∈ selections.map (·.resource)) :
    changeLast? resource change selections =
      some (selections.map fun s => if s.resource = resource then change s else s) := by
  induction selections with
  | nil => simp at present
  | cons s rest ih =>
    obtain ⟨absent,distinct⟩ := List.nodup_cons.mp distinct
    by_cases same : s.resource = resource
    · subst same
      have others : ∀ other ∈ rest, other.resource ≠ s.resource := fun other member same =>
        absent (List.mem_map.mpr ⟨other,member,same⟩)
      have kept : (rest.map fun other => if other.resource = s.resource then change other else other) =
          rest :=
        (List.map_congr_left fun other member => if_neg (others other member)).trans (List.map_id _)
      rw [changeLast?,changeLast?_of_absent change absent]
      simp [kept]
    · have inside : resource ∈ rest.map (·.resource) :=
        (List.mem_cons.mp present).resolve_left fun first => same first.symm
      rw [changeLast?,ih distinct inside]
      simp [same]

/-- Where no resource has two selections, a change is made to the one of its resource. -/
theorem adjust_of_distinct (resource : Resource) (change : Selection → Selection)
    {selections : List Selection} (distinct : (selections.map (·.resource)).Nodup) :
    adjust resource change selections =
      if resource ∈ selections.map (·.resource) then
        selections.map fun s => if s.resource = resource then change s else s
      else selections ++ [change (.blank resource)] := by
  rw [adjust]
  split
  · rename_i present
    rw [changeLast?_of_present change distinct present,Option.getD_some]
  · rename_i absent
    rw [changeLast?_of_absent change absent,Option.getD_none]

/-- Changes are made one after the other to the selections of their resources. A resource without one
gets it at the end, in the order in which resources are first asked. -/
theorem foldl_adjust_of_distinct {changes : List Change} (own : ∀ change ∈ changes, IsOwn change)
    {selections : List Selection} (distinct : (selections.map (·.resource)).Nodup) :
    changes.foldl (fun selections change => adjust change.1 change.2 selections) selections =
      (completed selections (changes.map (·.1))).map (altered changes) := by
  -- The last change meets the selections that all changes before it have left.
  induction changes using List.reverseRecOn with
  | nil =>
    have kept : altered [] = id := rfl
    simp [completed,newResources,kept]
  | append_singleton changes change ih =>
    have before : ∀ change ∈ changes, IsOwn change :=
      fun change member => own change (List.mem_append_left _ member)
    have named (selections : List Selection) :
        (selections.map (altered changes)).map (·.resource) = selections.map (·.resource) := by
      rw [List.map_map]
      exact List.map_congr_left fun s _ => altered_resource before s
    have apart : (((completed selections (changes.map (·.1))).map (altered changes)).map
        (·.resource)).Nodup := by
      rw [named]
      exact completed_distinct _ distinct
    rw [List.foldl_concat,ih before,adjust_of_distinct _ _ apart,named,List.map_append,
      List.map_singleton,completed_concat]
    split
    · rw [List.map_map]
      refine List.map_congr_left fun s _ => ?_
      simp only [Function.comp_apply,altered_resource before,altered_concat,@eq_comm _ change.1]
    · rename_i absent
      have others : ∀ s ∈ completed selections (changes.map (·.1)),
          altered (changes ++ [change]) s = altered changes s := by
        intro s member
        rw [altered_concat,if_neg]
        exact fun same => absent (List.mem_map.mpr ⟨s,member,same.symm⟩)
      have first : altered changes (.blank change.1) = .blank change.1 :=
        altered_absent fun known => absent (mem_completed.mpr (.inr known))
      have last : altered (changes ++ [change]) (.blank change.1) = change.2 (.blank change.1) := by
        rw [altered_concat,first]
        exact if_pos rfl
      rw [List.map_append,List.map_singleton,last,List.map_congr_left others]

/-- There is one selection for each resource of which something is asked, in the order in which the
resources are first asked. -/
theorem foldl_adjust {changes : List Change} (own : ∀ change ∈ changes, IsOwn change) :
    changes.foldl (fun selections change => adjust change.1 change.2 selections) [] =
      (changes.map (·.1)).eraseDups.map (outcome changes) := by
  have none : (([] : List Selection).map (·.resource)).Nodup := List.nodup_nil
  have all : newResources [] (changes.map (·.1)) = (changes.map (·.1)).eraseDups := by
    simp [newResources]
  rw [foldl_adjust_of_distinct own none,completed,all,List.nil_append,List.map_map]
  rfl

end Changes

section Request

/-- All that a document and added measures ask, in order. -/
def changesOf (nodes : List Document.Node) (measures : List Measure) : List Change :=
  (Document.mentions nodes).map (fun mention => (mention.resource,Selection.requestAll mention.names)) ++
    measures.map fun m => (m.resource,Selection.addMeasure m)

theorem request_resource (s : Selection) (field : RequestedField) :
    (s.request field).resource = s.resource := by
  cases field <;> rfl

theorem requestAll_resource (names : List String) (s : Selection) :
    (s.requestAll names).resource = s.resource := by
  have kept : ∀ (fields : List RequestedField) (s : Selection),
      (fields.foldl Selection.request s).resource = s.resource := by
    intro fields
    induction fields with
    | nil => exact fun _ => rfl
    | cons field fields ih => exact fun s => (ih _).trans (request_resource s field)
  exact kept _ s

theorem changesOf_isOwn (nodes : List Document.Node) (measures : List Measure) :
    ∀ change ∈ changesOf nodes measures, IsOwn change := by
  intro change member
  rcases List.mem_append.mp member with asked | added
  · obtain ⟨mention,_,rfl⟩ := List.mem_map.mp asked
    exact requestAll_resource mention.names
  · obtain ⟨m,_,rfl⟩ := List.mem_map.mp added
    exact fun _ => rfl

theorem addMeasures_extract (nodes : List Document.Node) (measures : List Measure) :
    addMeasures (extract nodes) measures =
      ((changesOf nodes measures).map (·.1)).eraseDups.map (outcome (changesOf nodes measures)) := by
  rw [← foldl_adjust (changesOf_isOwn nodes measures),changesOf,List.foldl_append,List.foldl_map,
    List.foldl_map]
  rfl

theorem addMeasures_distinct (nodes : List Document.Node) (measures : List Measure) :
    ((addMeasures (extract nodes) measures).map (·.resource)).Nodup := by
  have named : (fun s : Selection => s.resource) ∘ outcome (changesOf nodes measures) = id :=
    funext (outcome_resource (changesOf_isOwn nodes measures))
  rw [addMeasures_extract,List.map_map,named,List.map_id]
  exact eraseDups_nodup _

end Request

section Contents
variable {P : Selection → Prop} {A : RequestedField → Prop} {M : Measure → Prop}
  {resource : Resource}

private theorem requestAll_iff
    (step : ∀ s field, s.resource = resource → (P (s.request field) ↔ P s ∨ A field))
    (names : List String) {s : Selection} (named : s.resource = resource) :
    P (s.requestAll names) ↔ P s ∨ ∃ field, Vocabulary.word field ∈ names ∧ A field := by
  have folded : ∀ (fields : List RequestedField) (s : Selection), s.resource = resource →
      (P (fields.foldl Selection.request s) ↔ P s ∨ ∃ field ∈ fields, A field) := by
    intro fields
    induction fields with
    | nil => simp
    | cons field fields ih =>
      intro s named
      rw [List.foldl_cons,ih _ ((request_resource s field).trans named),step s field named,or_assoc]
      simp
  rw [Selection.requestAll,folded _ s named]
  simp only [List.mem_filterMap,RequestedField.find?_eq_some_iff]
  constructor
  · rintro (before | ⟨field,⟨_,member,rfl⟩,asks⟩)
    · exact .inl before
    · exact .inr ⟨field,member,asks⟩
  · rintro (before | ⟨field,member,asks⟩)
    · exact .inl before
    · exact .inr ⟨field,⟨_,member,rfl⟩,asks⟩

/-- What a selection has in the end is what one of the changes alone would bring, if changes add to
it and take nothing away. -/
private theorem outcome_iff {changes : List Change} (own : ∀ change ∈ changes, IsOwn change)
    (blank : ¬P (.blank resource))
    (step : ∀ change ∈ changes, change.1 = resource → ∀ s : Selection, s.resource = resource →
      (P (change.2 s) ↔ P s ∨ P (change.2 (.blank resource)))) :
    P (outcome changes resource) ↔
      ∃ change ∈ changes, change.1 = resource ∧ P (change.2 (.blank resource)) := by
  induction changes using List.reverseRecOn with
  | nil => simp [outcome_nil,blank]
  | append_singleton changes change ih =>
    have before : ∀ change ∈ changes, IsOwn change :=
      fun change member => own change (List.mem_append_left _ member)
    have rest := ih before fun change member => step change (List.mem_append_left _ member)
    have here := step change (by simp)
    rw [outcome_concat]
    by_cases same : change.1 = resource
    · rw [if_pos same,here same _ (outcome_resource before resource),rest]
      simp only [List.mem_append,List.mem_singleton,or_and_right,exists_or,exists_eq_left,same,
        true_and]
    · rw [if_neg same,rest]
      simp only [List.mem_append,List.mem_singleton,or_and_right,exists_or,exists_eq_left,same,
        false_and,or_false]

private theorem mem_namesOf {nodes : List Document.Node} {name : String} :
    name ∈ Document.namesOf nodes resource ↔
      ∃ mention ∈ Document.mentions nodes, mention.resource = resource ∧ name ∈ mention.names := by
  simp [Document.namesOf,and_assoc]

/-- What a selection has is asked for by a field of the document or by an added measure. -/
private theorem selection_iff (blank : ¬P (.blank resource))
    (request : ∀ s field, s.resource = resource → (P (s.request field) ↔ P s ∨ A field))
    (add : ∀ s m, s.resource = resource → (P (s.addMeasure m) ↔ P s ∨ M m))
    (nodes : List Document.Node) (measures : List Measure) :
    P (outcome (changesOf nodes measures) resource) ↔
      (∃ field, Vocabulary.word field ∈ Document.namesOf nodes resource ∧ A field) ∨
        ∃ m ∈ measures, m.resource = resource ∧ M m := by
  have mentioned (names : List String) : P ((Selection.blank resource).requestAll names) ↔
      ∃ field, Vocabulary.word field ∈ names ∧ A field := by
    rw [requestAll_iff request names rfl]
    exact or_iff_right blank
  have measured (m : Measure) : P ((Selection.blank resource).addMeasure m) ↔ M m := by
    rw [add _ m rfl]
    exact or_iff_right blank
  rw [outcome_iff (changesOf_isOwn nodes measures) blank]
  · simp only [changesOf,List.mem_append,List.mem_map,or_and_right,exists_or]
    refine or_congr ?_ ?_
    · constructor
      · rintro ⟨_,⟨mention,member,rfl⟩,named,asks⟩
        obtain ⟨field,inside,asks⟩ := (mentioned _).mp asks
        exact ⟨field,mem_namesOf.mpr ⟨mention,member,named,inside⟩,asks⟩
      · rintro ⟨field,inside,asks⟩
        obtain ⟨mention,member,named,inside⟩ := mem_namesOf.mp inside
        exact ⟨_,⟨mention,member,rfl⟩,named,(mentioned _).mpr ⟨field,inside,asks⟩⟩
    · constructor
      · rintro ⟨_,⟨m,member,rfl⟩,named,adds⟩
        exact ⟨m,member,named,(measured m).mp adds⟩
      · rintro ⟨m,member,named,adds⟩
        exact ⟨_,⟨m,member,rfl⟩,named,(measured m).mpr adds⟩
  · intro change member _ s named
    rcases List.mem_append.mp member with inside | inside
    · obtain ⟨mention,_,rfl⟩ := List.mem_map.mp inside
      rw [mentioned,requestAll_iff request mention.names named]
    · obtain ⟨m,_,rfl⟩ := List.mem_map.mp inside
      rw [measured,add s m named]

theorem mem_appendNew {α : Type} [DecidableEq α] {items : List α} {item a : α} :
    a ∈ appendNew items item ↔ a ∈ items ∨ a = item := by
  unfold appendNew
  split
  · rename_i present
    exact ⟨.inl,fun held => held.elim id fun same => same ▸ present⟩
  · simp

/-- A measure is in the selection of its resource if it was added, or if it is the count and that
was asked for. -/
theorem mem_outcome_measures {nodes : List Document.Node} {measures : List Measure} {m : Measure} :
    m ∈ (outcome (changesOf nodes measures) resource).measures ↔
      m.resource = resource ∧
        (m ∈ measures ∨ m.operation = .count ∧ "count" ∈ Document.namesOf nodes resource) := by
  have asks (s : Selection) (field : RequestedField) (named : s.resource = resource) :
      m ∈ (s.request field).measures ↔
        m ∈ s.measures ∨ field = .count ∧ m = ⟨resource,.count⟩ := by
    cases field <;> simp [Selection.request,Selection.addMeasure,Selection.addDimension,
      mem_appendNew,named]
  have adds (s : Selection) (other : Measure) (_ : s.resource = resource) :
      m ∈ (s.addMeasure other).measures ↔ m ∈ s.measures ∨ m = other := mem_appendNew
  rw [selection_iff (P := fun s => m ∈ s.measures) (by simp [Selection.blank]) asks adds]
  obtain ⟨named,operation⟩ := m
  constructor
  · rintro (⟨_,inside,rfl,same⟩ | ⟨_,member,own,rfl⟩)
    · obtain ⟨rfl,rfl⟩ := Measure.mk.inj same
      exact ⟨rfl,.inr ⟨rfl,inside⟩⟩
    · exact ⟨own,.inl member⟩
  · rintro ⟨rfl,member | ⟨rfl,inside⟩⟩
    · exact .inr ⟨_,member,rfl,rfl⟩
    · exact .inl ⟨.count,inside,rfl,rfl⟩

private theorem mem_request_dimensions {s : Selection} {field : RequestedField} {dimension : String}
    (named : s.resource = resource) :
    dimension ∈ (s.request field).dimensions ↔ dimension ∈ s.dimensions ∨
      ∃ key, field = .ofKey key ∧ dimension = Selection.dimensionOf resource key := by
  constructor
  · intro member
    cases field with
    | count => exact .inl member
    | timestamp => exact .inl member
    | organizationId =>
      exact (mem_appendNew.mp member).imp_right fun same => ⟨.organization,rfl,named ▸ same⟩
    | projectId =>
      exact (mem_appendNew.mp member).imp_right fun same => ⟨.project,rfl,named ▸ same⟩
    | collectionId =>
      exact (mem_appendNew.mp member).imp_right fun same => ⟨.collection,rfl,named ▸ same⟩
  · rintro (held | ⟨key,rfl,rfl⟩)
    · cases field with
      | count => exact held
      | timestamp => exact held
      | organizationId => exact mem_appendNew.mpr (.inl held)
      | projectId => exact mem_appendNew.mpr (.inl held)
      | collectionId => exact mem_appendNew.mpr (.inl held)
    · cases key <;> exact mem_appendNew.mpr (.inr (named ▸ rfl))

theorem mem_outcome_dimensions {nodes : List Document.Node} {measures : List Measure}
    {dimension : String} :
    dimension ∈ (outcome (changesOf nodes measures) resource).dimensions ↔
      ∃ key, Vocabulary.word (RequestedField.ofKey key) ∈ Document.namesOf nodes resource ∧
        dimension = Selection.dimensionOf resource key := by
  rw [selection_iff (P := fun s => dimension ∈ s.dimensions) (M := fun _ => False)
    (by simp [Selection.blank]) (fun _ _ named => mem_request_dimensions named)
    fun _ _ _ => (or_false _).to_iff.symm]
  constructor
  · rintro (⟨_,inside,key,rfl,same⟩ | ⟨_,_,_,impossible⟩)
    · exact ⟨key,inside,same⟩
    · exact impossible.elim
  · rintro ⟨key,inside,same⟩
    exact .inl ⟨.ofKey key,inside,key,rfl,same⟩

theorem outcome_hasTimestamp {nodes : List Document.Node} {measures : List Measure} :
    (outcome (changesOf nodes measures) resource).hasTimestamp = true ↔
      "timestamp" ∈ Document.namesOf nodes resource := by
  have asks (s : Selection) (field : RequestedField) (_ : s.resource = resource) :
      (s.request field).hasTimestamp = true ↔ s.hasTimestamp = true ∨ field = .timestamp := by
    cases field <;> simp [Selection.request,Selection.addMeasure,Selection.addDimension]
  rw [selection_iff (P := fun s => s.hasTimestamp = true) (M := fun _ => False)
    (by simp [Selection.blank]) asks fun _ _ _ => (or_false _).to_iff.symm]
  constructor
  · rintro (⟨_,inside,rfl⟩ | ⟨_,_,_,impossible⟩)
    · exact inside
    · exact impossible.elim
  · exact fun inside => .inl ⟨.timestamp,inside,rfl⟩

theorem eq_outcome_of_mem {nodes : List Document.Node} {measures : List Measure} {s : Selection}
    (member : s ∈ addMeasures (extract nodes) measures) :
    s = outcome (changesOf nodes measures) s.resource := by
  rw [addMeasures_extract] at member
  obtain ⟨resource,_,rfl⟩ := List.mem_map.mp member
  rw [outcome_resource (changesOf_isOwn nodes measures)]

end Contents
end Selections
end ScopedAnalytics
