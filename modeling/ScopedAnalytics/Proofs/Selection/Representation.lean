import ScopedAnalytics.Proofs.Selection.Requested

/-! What holds of the selections of every request: there is one for each resource that is asked for and
for no other, and nothing stands in it twice or in the place of another. -/
namespace ScopedAnalytics

/-- A selection without a measure or a dimension that stands in it twice. -/
structure Selection.IsDistinct (s : Selection) : Prop where
  measures : s.measures.Nodup
  dimensions : s.dimensions.Nodup

namespace Selection.IsDistinct
variable {s : Selection}

theorem blank (resource : Resource) : (Selection.blank resource).IsDistinct :=
  ⟨List.nodup_nil,List.nodup_nil⟩

theorem addMeasure (distinct : s.IsDistinct) (m : Measure) : (s.addMeasure m).IsDistinct :=
  ⟨appendNew_nodup m distinct.measures,distinct.dimensions⟩

theorem addDimension (distinct : s.IsDistinct) (dimension : String) :
    (s.addDimension dimension).IsDistinct :=
  ⟨distinct.measures,appendNew_nodup dimension distinct.dimensions⟩

theorem request (distinct : s.IsDistinct) (field : RequestedField) : (s.request field).IsDistinct := by
  cases field with
  | count => exact distinct.addMeasure _
  | organizationId => exact distinct.addDimension _
  | projectId => exact distinct.addDimension _
  | collectionId => exact distinct.addDimension _
  | timestamp => exact ⟨distinct.measures,distinct.dimensions⟩

theorem requestAll (distinct : s.IsDistinct) (names : List String) : (s.requestAll names).IsDistinct := by
  unfold Selection.requestAll
  generalize (names.filterMap Vocabulary.find? : List RequestedField) = fields
  induction fields generalizing s with
  | nil => exact distinct
  | cons field fields ih => exact ih (distinct.request field)

end Selection.IsDistinct

namespace Selections
variable {nodes : List Document.Node} {measures : List Measure} {resource : Resource}

/-- What every change keeps holds of a selection after all of them. -/
theorem outcome_induction {P : Selection → Prop} {changes : List Change} (blank : P (.blank resource))
    (step : ∀ change ∈ changes, ∀ s, P s → P (change.2 s)) : P (outcome changes resource) := by
  induction changes using List.reverseRecOn with
  | nil => exact blank
  | append_singleton changes change ih =>
    have before := ih fun change member => step change (List.mem_append_left _ member)
    rw [outcome_concat]
    split
    · exact step change (by simp) _ before
    · exact before

theorem outcome_distinct : (outcome (changesOf nodes measures) resource).IsDistinct := by
  refine outcome_induction (.blank resource) fun change member s distinct => ?_
  rcases List.mem_append.mp member with asked | added
  · obtain ⟨mention,_,rfl⟩ := List.mem_map.mp asked
    exact distinct.requestAll mention.names
  · obtain ⟨m,_,rfl⟩ := List.mem_map.mp added
    exact distinct.addMeasure m

/-- Selections are what a document and added measures ask for. There is one for each resource that the
document mentions, in the order of the first mentions, and then one for each further resource that a measure
names, in the order of the first measures. Each has measures of its resource only, and no measure and no
dimension twice; a measure that is added, or the count if the document asks for it, is in the one of its
resource. -/
structure Represents (nodes : List Document.Node) (measures : List Measure)
    (selections : List Selection) : Prop where
  distinct : (selections.map (·.resource)).Nodup
  resources : selections.map (·.resource) =
    ((Document.mentions nodes).map (·.resource)).eraseDups ++
      (measures.map (·.resource)).eraseDups.filter (· ∉ (Document.mentions nodes).map (·.resource))
  asked : ∀ resource, (∃ s ∈ selections, s.resource = resource) ↔
    (∃ mention ∈ Document.mentions nodes, mention.resource = resource) ∨
      ∃ m ∈ measures, m.resource = resource
  each : ∀ s ∈ selections, s.IsDistinct ∧ ∀ m ∈ s.measures, m.resource = s.resource
  requested : ∀ m, (m ∈ measures ∨
      m.operation = .count ∧ "count" ∈ Document.namesOf nodes m.resource) →
    ∃ s ∈ selections, s.resource = m.resource ∧ m ∈ s.measures

theorem changesOf_resources (nodes : List Document.Node) (measures : List Measure) :
    (changesOf nodes measures).map (·.1) =
      (Document.mentions nodes).map (·.resource) ++ measures.map (·.resource) := by
  simp [changesOf,Function.comp_def]

theorem addMeasures_resources (nodes : List Document.Node) (measures : List Measure) :
    (addMeasures (extract nodes) measures).map (·.resource) =
      ((Document.mentions nodes).map (·.resource) ++ measures.map (·.resource)).eraseDups := by
  have named : (fun s : Selection => s.resource) ∘ outcome (changesOf nodes measures) = id :=
    funext (outcome_resource (changesOf_isOwn nodes measures))
  rw [addMeasures_extract,List.map_map,named,List.map_id,changesOf_resources]

theorem exists_selection_iff : (∃ s ∈ addMeasures (extract nodes) measures, s.resource = resource) ↔
    (∃ mention ∈ Document.mentions nodes, mention.resource = resource) ∨
      ∃ m ∈ measures, m.resource = resource := by
  rw [← List.mem_map,addMeasures_resources,List.mem_eraseDups,List.mem_append,List.mem_map,List.mem_map]

theorem addMeasures_represents (nodes : List Document.Node) (measures : List Measure) :
    Represents nodes measures (addMeasures (extract nodes) measures) where
  distinct := addMeasures_distinct nodes measures
  resources := by rw [addMeasures_resources,eraseDups_append_filter]
  asked := fun _ => exists_selection_iff
  each := by
    intro s member
    rw [eq_outcome_of_mem member]
    refine ⟨outcome_distinct,fun m held => ?_⟩
    rw [outcome_resource (changesOf_isOwn nodes measures)]
    exact (mem_outcome_measures.mp held).1
  requested := by
    intro m wanted
    have named : (∃ mention ∈ Document.mentions nodes, mention.resource = m.resource) ∨
        ∃ other ∈ measures, other.resource = m.resource := by
      rcases wanted with added | ⟨_,counted⟩
      · exact .inr ⟨m,added,rfl⟩
      · obtain ⟨mention,chosen,_⟩ := List.mem_flatMap.mp counted
        exact .inl ⟨mention,(List.mem_filter.mp chosen).1,by simpa using (List.mem_filter.mp chosen).2⟩
    obtain ⟨s,member,own⟩ := exists_selection_iff.mpr named
    refine ⟨s,member,own,?_⟩
    rw [eq_outcome_of_mem member,own]
    exact mem_outcome_measures.mpr ⟨rfl,wanted⟩

end Selections
end ScopedAnalytics
