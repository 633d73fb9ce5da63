import ScopedAnalytics.Proofs.Dispatch.Traffic
import ScopedAnalytics.Proofs.Service.Settlement

/-! Which queries leave for the semantic layer. Whatever a request asks and however it ends, each is
for a resource of its own and is confined to the one identifier that the request gives. -/
namespace ScopedAnalytics

/-- A query of a request that is confined to its scope: it names no member but those of its own
resource and the organization's, and differs from the others in nothing but that and what the
document asks. -/
structure Query.Confined (r : Request) (nodes : List Document.Node) (scope : Scope)
    (window : Window) (q : Query) : Prop where
  filters : q.filters = [⟨q.resource.member scope.key.name,"equals",[scope.id]⟩]
  dated : q.timeDimension.dimension = q.resource.member "timestamp"
  ordered : q.order.1 = q.resource.member "timestamp"
  measures : ∀ name ∈ q.measures, ∃ operation : Operation,
    name = q.resource.member (Vocabulary.word operation)
  dimensions : ∀ name ∈ q.dimensions, name = q.resource.member "project_id" ∨
    name = q.resource.member "collection_id" ∨ name = "projects.organization_id"
  granularity : q.timeDimension.granularity =
    if "timestamp" ∈ Document.namesOf nodes q.resource then some window.granularity else none
  dateRange : q.timeDimension.dateRange = window.dateRange
  direction : q.order.2 = r.order.getD .descending
  limit : q.limit = r.limit.getD 100
  positive : 0 < q.limit

namespace Request
variable {r : Request} {plan : Plan}

/-- What holds of the queries that a request may send: they are for distinct resources, and all are
confined to the one scope and window that the request gives. -/
structure Isolates (r : Request) (queries : List Query) : Prop where
  distinct : (queries.map (·.resource)).Nodup
  confined : queries ≠ [] → ∃ nodes scope window, r.Reads nodes ∧
    r.scope.IsOnly scope.key scope.id ∧ Window.resolve r.window = .ok window ∧
      ∀ q ∈ queries, q.Confined r nodes scope window

theorem Isolates.nil : r.Isolates [] := ⟨List.nodup_nil,fun impossible => absurd rfl impossible⟩

theorem Isolates.of_subperm {sent queries : List Query} (isolates : r.Isolates queries)
    (part : sent.Subperm queries) : r.Isolates sent where
  distinct := by
    obtain ⟨chosen,same,inside⟩ := part
    exact ((same.map _).nodup_iff).mp ((inside.map _).nodup isolates.distinct)
  confined := by
    intro some
    have filled : queries ≠ [] := fun void => some (List.subperm_nil.mp (void ▸ part))
    obtain ⟨nodes,scope,window,reads,only,bounded,all⟩ := isolates.confined filled
    exact ⟨nodes,scope,window,reads,only,bounded,fun q member => all q (part.subset member)⟩

private theorem build_confined {nodes : List Document.Node} {s : Selection} {scope : Scope}
    {window : Window} {q : Query}
    (selected : s ∈ Selections.addMeasures (Selections.extract nodes) r.measures)
    (built : Query.build s scope window r.order r.limit = .ok q) :
    q.Confined r nodes scope window := by
  obtain ⟨resource,rfl⟩ : ∃ resource,
      s = Selections.outcome (Selections.changesOf nodes r.measures) resource :=
    ⟨_,Selections.eq_outcome_of_mem selected⟩
  have named := Selections.outcome_resource (Selections.changesOf_isOwn nodes r.measures) resource
  obtain ⟨positive,rfl⟩ := Query.build_ok_iff.mp built
  constructor
  case filters => rfl
  case dated => rfl
  case ordered => rfl
  case measures =>
    intro name member
    obtain ⟨⟨_,operation⟩,asked,rfl⟩ := List.mem_map.mp member
    obtain ⟨rfl,_⟩ := Selections.mem_outcome_measures.mp asked
    exact ⟨operation,by rw [named]; rfl⟩
  case dimensions =>
    intro name member
    obtain ⟨key,_,rfl⟩ := Selections.mem_outcome_dimensions.mp member
    dsimp only
    rw [named]
    cases key with
    | organization => exact .inr (.inr rfl)
    | project => exact .inl rfl
    | collection => exact .inr (.inl rfl)
  case granularity =>
    dsimp only
    simp only [named,Selections.outcome_hasTimestamp]
  case dateRange => rfl
  case direction => rfl
  case limit => rfl
  case positive =>
    dsimp only
    cases given : r.limit with
    | none => decide
    | some n => exact positive n given

theorem plan_isolates (valid : r.plan = .ok plan) : r.Isolates plan.queries where
  distinct := by
    rw [plan_resources valid]
    exact plan_distinct valid
  confined := by
    intro _
    obtain ⟨window,selected,narrowed,bounded,_,built⟩ := plan_spec valid
    obtain ⟨nodes,reads,same⟩ := selections_ok_iff.mp selected
    refine ⟨nodes,plan.scope,window,reads,Scope.resolve_ok_iff.mp narrowed,bounded,?_⟩
    intro q member
    obtain ⟨s,held,here⟩ := forall₂_right built q member
    exact build_confined (same ▸ held) here

end Request

namespace Service

theorem execute_sent (deadline : Option Quantity) (layer : Layer) (interruption : Interruption)
    (order : SortOrder) (plan : Plan) :
    (execute deadline layer interruption order plan).trace.queries.Subperm plan.queries := by
  rw [(execute_trace deadline layer interruption order plan).1]
  exact (Dispatch.run_recorded deadline interruption layer plan.queries).sent_subperm

private theorem analytics_isolates (deadline : Option Quantity) (layer : Layer)
    (interruption : Interruption) (r : Request) :
    r.Isolates (analytics deadline layer interruption r).trace.queries := by
  unfold analytics
  split
  · exact .nil
  · split
    · rename_i f _
      have none : (failed f).trace.queries = [] := by
        unfold failed
        dsimp only
        split <;> rfl
      rw [none]
      exact .nil
    · rename_i plan valid
      have sent := execute_sent deadline layer interruption (r.order.getD Query.defaultOrder) plan
      exact (Request.plan_isolates valid).of_subperm sent

/-- Whatever a request asks, however it is interrupted and whatever the layer does, the queries that
reach the layer are isolated, and so they are if the identifier is given apart. -/
theorem queries_isolated (deadline : Option Quantity) (layer : Layer) (interruption : Interruption)
    (r : Request) :
    r.Isolates (analytics deadline layer interruption r).trace.queries ∧
      ∀ key id, (r.within key id).Isolates
        (analyticsWithin key id deadline layer interruption r).trace.queries :=
  ⟨analytics_isolates deadline layer interruption r,
    fun key id => analytics_isolates deadline layer interruption (r.within key id)⟩

end Service
end ScopedAnalytics
