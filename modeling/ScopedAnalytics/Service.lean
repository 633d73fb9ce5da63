import ScopedAnalytics.Dispatch
import ScopedAnalytics.Timeline

/-! Requests for analytics. A request is checked and planned before any query is sent: one query
for each resource that its selection asks for. The answers make up points; the failure of one
query is the failure of the request. -/
namespace ScopedAnalytics

/-- A request. What it selects is a text or the selection set of one. -/
structure Request where
  selection : String ⊕ List Document.Node
  measures : List Measure
  scope : Scope.Given
  window : Window.Given
  order : Option SortOrder
  limit : Option Int

structure Plan where
  selections : List Selection
  scope : Scope
  granularity : Granularity
  queries : List Query
deriving DecidableEq, Repr

namespace Request

def selections (r : Request) : Except Failure (List Selection) := do
  let nodes ←
    match r.selection with
    | .inl text =>
      (Selections.readNodes text).mapError fun fault => ⟨.invalidRequest,fault.message⟩
    | .inr nodes => pure nodes
  return Selections.addMeasures (Selections.extract nodes) r.measures

/-- The plan of a request. The selection is checked before the scope, the scope before the window,
and the limit last. -/
def plan (r : Request) : Except Failure Plan := do
  let selections ← r.selections
  let scope ← (Scope.resolve r.scope).mapError fun fault => ⟨.invalidScope,fault.message⟩
  let window ← (Window.resolve r.window).mapError fun fault => ⟨.invalidTimeWindow,fault.message⟩
  let queries ← (selections.mapM fun s => Query.build s scope window r.order r.limit).mapError
    LimitFault.failure
  return ⟨selections,scope,window.granularity,queries⟩

/-- The request with an identifier of a kind that is given apart from the others. -/
def within (key : ScopeKey) (id : Identifier) (r : Request) : Request :=
  { r with scope := r.scope.put key id }

end Request

/-- What happens as a request is served, and how it ends. A request that never ends has no
result. -/
structure Course where
  trace : Trace
  result : Option (Except Failure (List Point))

namespace Service

/-- The failure of a request that came too late. It is one of the layer only if the deadline can be
told. -/
def expiry (deadline : Option Quantity) : Failure :=
  match deadline.elim (some "None") Quantity.text? with
  | some seconds => ⟨.layer none,"semantic layer did not answer within " ++ seconds ++ "s"⟩
  | none => .unwritable

/-- The failure of a request one of whose queries failed. A timeout of the layer counts as a
deadline that passed. -/
def failureOf (deadline : Option Quantity) (f : Failure) : Failure :=
  match f.kind with
  | .timeout => expiry deadline
  | _ => f

/-- The course of a request that failed. What is reported to the caller is counted and noted. -/
def failed (f : Failure) : Course where
  trace :=
    if f.kind.isReported then [.counted (.failure f.kind.name),.noted (.refused f)] else []
  result := some (.error f)

def mergeTrace (answers : List Answered) : Trace :=
  let leftOut := Timeline.leftOut answers
  if leftOut = 0 then [] else [.noted (.rowsLeftOut leftOut)]

def answered (order : SortOrder) (answers : List Answered) : Course :=
  let points := Timeline.points answers order
  { trace := mergeTrace answers ++
      [.counted (.points (.whole points.length)),.noted (.answered points.length)]
    result := some (.ok points) }

def conclude (deadline : Option Quantity) (order : SortOrder) (selections : List Selection) :
    Option (Except Failure (List (List Row))) → Course
  | some (.ok rows) => answered order (selections.zipWith Answered.mk rows)
  | some (.error f) => failed (failureOf deadline f)
  | none => ⟨[],none⟩

def notice (plan : Plan) : Notice :=
  .requested (plan.selections.map (·.resource)) plan.scope plan.granularity

def dispatch (deadline : Option Quantity) (layer : Layer) (interruption : Interruption)
    (plan : Plan) : Dispatch :=
  Dispatch.run deadline interruption (plan.queries.map (Fetch.fresh layer))

/-- The course of a request that has a plan. What is left of its queries ends after it. -/
def execute (deadline : Option Quantity) (layer : Layer) (interruption : Interruption)
    (order : SortOrder) (plan : Plan) : Course :=
  let d := dispatch deadline layer interruption plan
  let conclusion := conclude deadline order plan.selections d.outcome
  { trace := .noted (notice plan) :: d.trace ++ conclusion.trace ++ d.aftermath
    result := conclusion.result }

/-- The course of a request. A caller who leaves at once sees nothing happen. -/
def analytics (deadline : Option Quantity) (layer : Layer) (interruption : Interruption)
    (r : Request) : Course :=
  if interruption.leaving = some 0 then ⟨[],some (.error .cancellation)⟩
  else
    match r.plan with
    | .error f => failed f
    | .ok plan => execute deadline layer interruption (r.order.getD Query.defaultOrder) plan

/-- The course of a request for the analytics of one organization, project or collection. -/
def analyticsWithin (key : ScopeKey) (id : Identifier) (deadline : Option Quantity) (layer : Layer)
    (interruption : Interruption) (r : Request) : Course :=
  analytics deadline layer interruption (r.within key id)

end Service
end ScopedAnalytics
