import ScopedAnalytics.Proofs.Selection.Extraction
import ScopedAnalytics.Proofs.Selection.Representation
import ScopedAnalytics.Proofs.Service.Settlement

/-! Which queries a request sends: one for each resource that it asks for, however often its document or
its measures ask for it. -/
namespace ScopedAnalytics.Service
variable {r : Request} {plan : Plan} {nodes : List Document.Node}

theorem plan_asked (reads : r.Reads nodes) (valid : r.plan = .ok plan) :
    plan.queries.map (·.resource) =
      (Selections.addMeasures (Selections.extract nodes) r.measures).map (·.resource) := by
  obtain ⟨_,selected,_⟩ := Request.plan_spec valid
  have own : r.selections = .ok (Selections.addMeasures (Selections.extract nodes) r.measures) :=
    Request.selections_ok_iff.mpr ⟨nodes,reads,rfl⟩
  rw [Request.plan_resources valid,Except.ok.inj (selected.symm.trans own)]

/-- What a document and measures ask for is represented by the selections of a request, whatever they are:
the mentions of resources are those in the order of the document, at any depth of inline fragments, and
the selections are one for each resource that is mentioned or measured. A request that is found good has
one query for each of them, in their order, and these are the queries that reach the layer. -/
theorem queries_cover (nodes : List Document.Node) (measures : List Measure) :
    let selections := Selections.addMeasures (Selections.extract nodes) measures
    (∀ found, Document.Mentioned nodes found ↔ found = Document.mentions nodes) ∧
    Selections.Represents nodes measures selections ∧
    ∀ (r : Request) (plan : Plan), r.Reads nodes → r.measures = measures → r.plan = .ok plan →
      plan.queries.map (·.resource) = selections.map (·.resource) ∧
      ∀ deadline layer interruption, Dispatch.isAhead deadline = true →
        interruption.leaving ≠ some 0 → interruption.leaving ≠ some 1 →
        (analytics deadline layer interruption r).trace.queries.map (·.resource) =
          selections.map (·.resource) := by
  intro selections
  refine ⟨fun _ => Document.mentioned_iff,Selections.addMeasures_represents nodes measures,?_⟩
  rintro r plan reads rfl valid
  refine ⟨plan_asked reads valid,fun deadline layer interruption ahead begins stays => ?_⟩
  rw [analytics_of_plan valid begins,execute_queries ahead stays]
  exact plan_asked reads valid

/-- A request whose document asks for mints twice and for wallets, and whose measures name customers twice
and mints once more. -/
def repetitive : Request where
  selection := .inr [.field none "mints" [] [] none,.field none "wallets" [] [] none,
    .field none "mints" [] [] none]
  measures := [⟨.customers,.count⟩,⟨.mints,.change⟩,⟨.customers,.count⟩]
  scope := ⟨none,some (.text "p"),none⟩
  window := ⟨some .today,none,none,none⟩
  order := none
  limit := none

/-- Three queries are sent for the three resources that are asked for six times in all. -/
theorem queries_cover_repetitive : ∃ nodes plan, repetitive.Reads nodes ∧ repetitive.plan = .ok plan ∧
    (analytics none (fun _ => .failed ⟨.layer none,"down"⟩) .none repetitive).trace.queries.map
      (·.resource) = [.mints,.wallets,.customers] := by
  refine ⟨_,_,rfl,rfl,?_⟩
  obtain ⟨_,_,sends⟩ := queries_cover _ repetitive.measures
  rw [(sends repetitive _ rfl rfl rfl).2 none _ .none rfl (by decide) (by decide)]
  rfl

end ScopedAnalytics.Service
