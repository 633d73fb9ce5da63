import ScopedAnalytics.Failure
import ScopedAnalytics.Json
import ScopedAnalytics.Scope
import ScopedAnalytics.Selection
import ScopedAnalytics.Window

/-! Queries to the semantic layer. A query asks for the selection of one resource within a scope
and a time window. Without a timestamp in the selection its time dimension has no granularity, and
the layer sums the whole window into one row. -/
namespace ScopedAnalytics

namespace Query

structure TimeDimension where
  dimension : String
  granularity : Option Granularity
  dateRange : Option Window.DateRange
deriving DecidableEq, Repr

structure Filter where
  member : String
  operator : String
  values : List String
deriving DecidableEq, Repr

end Query

structure Query where
  resource : Resource
  measures : List String
  dimensions : List String
  timeDimension : Query.TimeDimension
  filters : List Query.Filter
  order : String × SortOrder
  limit : Int
deriving DecidableEq, Repr

/-- A limit on the number of rows that is not positive. -/
structure LimitFault where
  limit : Int
deriving DecidableEq, Repr

namespace LimitFault

/-- What is told of a limit, none of one that cannot be written. -/
def message? (f : LimitFault) : Option String :=
  (Numeral.written? f.limit).map ("limit must be positive, got " ++ ·)

/-- The failure of a request with such a limit. It is one of the request only if the limit can be
told. -/
def failure (f : LimitFault) : Failure :=
  match f.message? with
  | some message => ⟨.invalidRequest,message⟩
  | none => .unwritable

end LimitFault

namespace Query

def defaultLimit : Int := 100

def defaultOrder : SortOrder := .descending

def checkLimit (limit : Int) : Except LimitFault Int :=
  if limit ≤ 0 then .error ⟨limit⟩ else .ok limit

def build (selection : Selection) (scope : Scope) (window : Window) (order : Option SortOrder)
    (limit : Option Int) : Except LimitFault Query := do
  let limit ← checkLimit (limit.getD defaultLimit)
  let resource := selection.resource
  let timestamp := resource.member "timestamp"
  return {
    resource
    measures := selection.measures.map Measure.text
    dimensions := selection.dimensions
    timeDimension := {
      dimension := timestamp
      granularity := if selection.hasTimestamp then some window.granularity else none
      dateRange := window.dateRange }
    filters := [⟨resource.member scope.key.name,"equals",[scope.id]⟩]
    order := (timestamp,order.getD defaultOrder)
    limit }

def selection (q : Query) : Except UnknownWord Selection := do
  let measures ← q.measures.mapM Measure.read
  return ⟨q.resource,measures,q.dimensions,q.timeDimension.granularity.isSome⟩

def dateRangeJson : Window.DateRange → Json
  | .named words => .str words
  | .between dates => .strs dates

def TimeDimension.toJson (d : TimeDimension) : Json :=
  .ofMembers ([("dimension",.str d.dimension)] ++
    (d.granularity.map fun g => ("granularity",Json.str g.name)).toList ++
    (d.dateRange.map fun range => ("dateRange",dateRangeJson range)).toList)

def Filter.toJson (f : Filter) : Json :=
  .ofMembers [("member",.str f.member),("operator",.str f.operator),("values",.strs f.values)]

def toJson (q : Query) : Json :=
  .ofMembers [
    ("measures",.strs q.measures),
    ("dimensions",.strs q.dimensions),
    ("timeDimensions",.list [q.timeDimension.toJson]),
    ("filters",.list (q.filters.map Filter.toJson)),
    ("order",.ofMembers [(q.order.1,.str q.order.2.name)]),
    ("limit",.int q.limit)]

end Query
end ScopedAnalytics
