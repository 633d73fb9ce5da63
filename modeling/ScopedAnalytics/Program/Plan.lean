import ScopedAnalytics.CommandLine
import ScopedAnalytics.Service

/-! The plan of a command line's request. A void value passes wherever it only has to be there; it
stands for the default where one is at hand, and where a value is needed it breaks the run, in the
order in which the parts of a request are looked at. -/
namespace ScopedAnalytics.Program

/-- The failure of a run that needs a member of a void value. -/
def lacking (member : String) : Failure :=
  ⟨.missingMember,"'list' object has no attribute " ++ quoted member⟩

/-- The failure of a run that compares values of types that have no common order. -/
def incomparable (sign left right : String) : Failure :=
  ⟨.wrongType,quoted sign ++ " not supported between instances of " ++ quoted left ++ " and " ++
    quoted right⟩

/-- The failure of a run that needs a range of dates and finds a void interval. -/
def noDates : Failure := .invalidValue "not enough values to unpack (expected 2, got 0)"

def measures (o : Options) : Except Failure (List Measure) :=
  (o.measures.getD []).mapM fun measure =>
    match measure with
    | .value measure => .ok measure
    | .void => .error (lacking "resource")

/-- The identifier that a flag gives. A void one has a text of its own. -/
def identifier : Given String → Identifier
  | .value text => .text text
  | .void => .text Given.voidText

def scope (o : Options) : Except Failure Scope :=
  (Scope.resolve {
    organization := o.organization.map identifier
    project := o.project.map identifier
    collection := o.collection.map identifier }).mapError fun fault =>
      ⟨.invalidScope,fault.message⟩

/-- A time window whose range may be void, so that it breaks the run once a query needs it. -/
structure Span where
  granularity : Granularity
  range : Except Failure Window.Range

def windowFailure (fault : Window.Fault) : Failure := ⟨.invalidTimeWindow,fault.message⟩

def spanBetween (granularity : Option Granularity) (start finish : Given Date) :
    Except Failure Span :=
  match start, finish with
  | .value start, .value finish => do
    let window ← (Window.resolve ⟨none,some start,some finish,granularity⟩).mapError windowFailure
    return ⟨window.granularity,.ok window.range⟩
  | .value _, .void => .error (incomparable ">" "datetime.date" "list")
  | .void, .value _ => .error (incomparable ">" "list" "datetime.date")
  | .void, .void =>
    .ok ⟨granularity.getD Window.defaultGranularity,.error (lacking "isoformat")⟩

def spanOf (granularity : Option Granularity) (interval : Given Interval) : Except Failure Span :=
  match interval, granularity with
  | .value interval, _ => do
    let window ← (Window.resolve ⟨some interval,none,none,granularity⟩).mapError windowFailure
    return ⟨window.granularity,.ok window.range⟩
  | .void, some granularity => .ok ⟨granularity,.error noDates⟩
  | .void, none => .error (lacking "granularity")

def span (o : Options) : Except Failure Span :=
  let granularity := o.granularity.bind Given.value?
  match o.start, o.finish, o.interval with
  | some _, some _, some _ => .error (windowFailure .intervalWithDates)
  | some start, some finish, none => spanBetween granularity start finish
  | none, none, some interval => spanOf granularity interval
  | none, none, none => .error (windowFailure .missing)
  | _, _, _ => .error (windowFailure .halfOpen)

def limit (o : Options) : Except Failure (Option Int) :=
  match o.limit with
  | none => .ok none
  | some .void => .error (incomparable "<=" "list" "int")
  | some (.value limit) =>
    ((Query.checkLimit limit).mapError LimitFault.failure).map some

def query (o : Options) (scope : Scope) (span : Span) (selection : Selection) :
    Except Failure Query := do
  let limit ← limit o
  let range ← span.range
  (Query.build selection scope ⟨span.granularity,range⟩ o.order.value? limit).mapError
    LimitFault.failure

/-- The plan of a command line. Its selection is read before its measures, and they come before
the scope, the time window and the limit. -/
def plan (c : CommandLine) : Except Failure Plan := do
  let nodes ← (Selections.readNodes c.selection).mapError fun fault =>
    ⟨.invalidRequest,fault.message⟩
  let selections := Selections.addMeasures (Selections.extract nodes) (← measures c.options)
  let scope ← scope c.options
  let span ← span c.options
  let queries ← selections.mapM (query c.options scope span)
  return ⟨selections,scope,span.granularity,queries⟩

end ScopedAnalytics.Program
