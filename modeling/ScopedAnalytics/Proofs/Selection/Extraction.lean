import Mathlib.Data.List.Forall2
import ScopedAnalytics.Proofs.Document.Order
import ScopedAnalytics.Proofs.Selection.Requested

/-! What a document selects. The selection of a resource depends on the names of the fields it is
asked for and on nothing else of the document: the names are gathered from all mentions of the
resource, in the order of the document and at any depth of inline fragments. -/
namespace ScopedAnalytics
namespace Document

/-- A mention of a resource by a field of its name, with the names of the fields inside in their
order. -/
def IsMention (field : String × List Node) (found : Mention) : Prop :=
  field.1 = found.resource.name ∧
    ∃ inside, InOrder field.2 inside ∧ found.names = inside.map (·.1)

/-- The mentions in a document, in its order, are the fields whose names are resources. -/
def Mentioned (nodes : List Node) (found : List Mention) : Prop :=
  ∃ fields, InOrder nodes fields ∧
    List.Forall₂ IsMention (fields.filter fun field => (Resource.named? field.1).isSome) found

theorem isMention_iff {field : String × List Node} {found : Mention} :
    IsMention field found ↔ mention? field = some found := by
  obtain ⟨resource,names⟩ := found
  simp only [IsMention,mention?,inOrder_iff,exists_eq_left,Option.map_eq_some_iff,
    Resource.named?_eq_some_iff,Mention.mk.injEq]
  constructor
  · rintro ⟨named,rfl⟩
    exact ⟨resource,named,rfl,rfl⟩
  · rintro ⟨_,named,rfl,rfl⟩
    exact ⟨named,rfl⟩

theorem mentioned_iff {nodes : List Node} {found : List Mention} :
    Mentioned nodes found ↔ found = mentions nodes := by
  have kept (fields : List (String × List Node)) (found : List Mention) :
      List.Forall₂ IsMention (fields.filter fun field => (Resource.named? field.1).isSome) found ↔
        found = fields.filterMap mention? := by
    induction fields generalizing found with
    | nil => simp
    | cons field fields ih =>
      cases named : Resource.named? field.1 with
      | none =>
        have unread : mention? field = none := by rw [mention?,named,Option.map_none]
        simp [named,unread,ih]
      | some resource =>
        obtain ⟨first,read⟩ : ∃ first, mention? field = some first :=
          ⟨_,by rw [mention?,named,Option.map_some]⟩
        simp [named,read,List.forall₂_cons_left_iff,isMention_iff,ih]
  simp only [Mentioned,inOrder_iff,exists_eq_left,kept,mentions]

theorem mentions_append (nodes more : List Node) :
    mentions (nodes ++ more) = mentions nodes ++ mentions more := by
  rw [mentions,fieldsOf_append,List.filterMap_append,mentions,mentions]

end Document

namespace Selection

def dimensionNamed? (resource : Resource) (name : String) : Option String :=
  if name = "organizationId" then some (Resource.projects.member "organization_id")
  else if name = "projectId" then some (resource.member "project_id")
  else if name = "collectionId" then some (resource.member "collection_id")
  else none

/-- What fields of the given names ask of a resource. Each dimension stands where the first field
that asks for it does. -/
def asked (resource : Resource) (names : List String) : Selection where
  resource
  measures := if "count" ∈ names then [⟨resource,.count⟩] else []
  dimensions := names.eraseDups.filterMap (dimensionNamed? resource)
  hasTimestamp := "timestamp" ∈ names

theorem dimensionNamed?_injective {resource : Resource} {name other dimension : String}
    (first : dimensionNamed? resource name = some dimension)
    (second : dimensionNamed? resource other = some dimension) : name = other := by
  have organization (r : Resource) : Resource.projects.member "organization_id" ≠
      r.member "project_id" ∧ Resource.projects.member "organization_id" ≠
      r.member "collection_id" := by cases r <;> decide
  have apart (r : Resource) : r.member "project_id" ≠ r.member "collection_id" := by
    cases r <;> decide
  grind [dimensionNamed?]

theorem requestAll_append (names more : List String) (s : Selection) :
    s.requestAll (names ++ more) = (s.requestAll names).requestAll more := by
  simp [requestAll]

private theorem asked_dimensions_concat (resource : Resource) (names : List String)
    (name : String) :
    (asked resource (names ++ [name])).dimensions =
      ((dimensionNamed? resource name).toList).foldl appendNew (asked resource names).dimensions := by
  cases named : dimensionNamed? resource name with
  | none =>
    simp only [asked,eraseDups_concat,appendNew]
    split <;> simp [named]
  | some dimension =>
    have present : dimension ∈ names.eraseDups.filterMap (dimensionNamed? resource) ↔
        name ∈ names.eraseDups := by
      refine List.mem_filterMap.trans ⟨?_,fun member => ⟨name,member,named⟩⟩
      rintro ⟨other,member,same⟩
      exact dimensionNamed?_injective same named ▸ member
    simp only [asked,eraseDups_concat,appendNew,Option.toList_some,List.foldl_cons,List.foldl_nil,
      present]
    split <;> simp [named]

private theorem requestAll_single (s : Selection) (name : String) :
    s.requestAll [name] =
      { s with
        measures := if name = "count" then appendNew s.measures ⟨s.resource,.count⟩ else s.measures
        dimensions := ((dimensionNamed? s.resource name).toList).foldl appendNew s.dimensions
        hasTimestamp := s.hasTimestamp || name = "timestamp" } := by
  cases found : (Vocabulary.find? name : Option RequestedField) with
  | none =>
    have other (field : RequestedField) : name ≠ Vocabulary.word field := fun same =>
      Option.some_ne_none field ((RequestedField.find?_eq_some_iff.mpr same).symm.trans found)
    have count : name ≠ "count" := other .count
    have organization : name ≠ "organizationId" := other .organizationId
    have project : name ≠ "projectId" := other .projectId
    have collection : name ≠ "collectionId" := other .collectionId
    have timestamp : name ≠ "timestamp" := other .timestamp
    simp [requestAll,found,dimensionNamed?,count,organization,project,collection,timestamp]
  | some field =>
    obtain rfl := RequestedField.find?_eq_some_iff.mp found
    have one : s.requestAll [Vocabulary.word field] = s.request field := by
      simp [requestAll,found]
    rw [one]
    cases field <;> simp [request,dimensionNamed?,Vocabulary.word,addMeasure,addDimension,
      dimensionOf,ScopeKey.name]

theorem requestAll_blank (resource : Resource) (names : List String) :
    (blank resource).requestAll names = asked resource names := by
  induction names using List.reverseRecOn with
  | nil => simp [requestAll,blank,asked]
  | append_singleton names name ih =>
    rw [requestAll_append,ih,requestAll_single]
    have dimensions := asked_dimensions_concat resource names name
    simp only [asked] at dimensions ⊢
    rw [dimensions]
    by_cases again : "count" ∈ names <;> by_cases same : name = "count" <;>
      simp [again,same,appendNew,eq_comm]

end Selection

namespace Selections

/-- All mentions of a resource together ask what their names ask, one after the other. -/
theorem outcome_mentions (nodes : List Document.Node) (resource : Resource) :
    outcome (changesOf nodes []) resource =
      Selection.asked resource (Document.namesOf nodes resource) := by
  rw [← Selection.requestAll_blank,changesOf,Document.namesOf]
  induction Document.mentions nodes using List.reverseRecOn with
  | nil => rfl
  | append_singleton found mention ih =>
    simp only [List.map_nil,List.append_nil,List.map_append,List.map_cons] at ih ⊢
    rw [outcome_concat,ih,List.filter_append,List.flatMap_append]
    by_cases own : mention.resource = resource
    · simp [own,Selection.requestAll_append]
    · simp [own]

/-- A document selects each resource it mentions once, in the order of the first mentions, by the
names that all mentions of the resource bring; and what follows in a document is added, mention by
mention, to what is selected before. -/
theorem extract_meaning (nodes more : List Document.Node) :
    (∀ found, Document.Mentioned nodes found ↔ found = Document.mentions nodes) ∧
    extract nodes = ((Document.mentions nodes).map (·.resource)).eraseDups.map (fun resource =>
      Selection.asked resource (Document.namesOf nodes resource)) ∧
    extract (nodes ++ more) = (Document.mentions more).foldl addMention (extract nodes) := by
  refine ⟨fun _ => Document.mentioned_iff,?_,?_⟩
  · have selected := addMeasures_extract nodes []
    rw [funext (outcome_mentions nodes)] at selected
    have resources : (changesOf nodes []).map (·.1) =
        (Document.mentions nodes).map (·.resource) := by
      simp [changesOf,Function.comp_def]
    rw [resources] at selected
    exact selected
  · rw [extract,Document.mentions_append,List.foldl_append,extract]

end Selections
end ScopedAnalytics
