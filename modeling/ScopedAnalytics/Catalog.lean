import ScopedAnalytics.Text.Quoted

/-! The fixed words of a request: the resources that can be reported on, the operations that
measure them, time granularities, named intervals, sort orders and the keys a request can be
scoped by. Each vocabulary is closed: its words determine its values and nothing else is read. -/
namespace ScopedAnalytics

/-- A type whose values are written as words. -/
class Vocabulary (α : Type) where
  title : String
  values : List α
  word : α → String

/-- A word that is in no vocabulary of the given title. -/
structure UnknownWord where
  title : String
  text : String
deriving DecidableEq, Repr

def UnknownWord.message (u : UnknownWord) : String :=
  quoted u.text ++ " is not a valid " ++ u.title

namespace Vocabulary

def find? {α : Type} [Vocabulary α] (text : String) : Option α :=
  (values : List α).find? fun value => word value == text

/-- The value that a word stands for, or what was read in its place. -/
def read (α : Type) [Vocabulary α] (text : String) : Except UnknownWord α :=
  match find? text with
  | some value => .ok value
  | none => .error ⟨title α,text⟩

end Vocabulary

/-- A subject that the semantic layer reports on. -/
inductive Resource where
  | mints | customers | wallets | collections | projects | transfers | webhooks | credits
deriving DecidableEq, Repr

namespace Resource

def name : Resource → String
  | mints => "mints"
  | customers => "customers"
  | wallets => "wallets"
  | collections => "collections"
  | projects => "projects"
  | transfers => "transfers"
  | webhooks => "webhooks"
  | credits => "credits"

def member (r : Resource) (field : String) : String := r.name ++ "." ++ field

instance : Vocabulary Resource where
  title := "Resource"
  values := [mints,customers,wallets,collections,projects,transfers,webhooks,credits]
  word := name

def named? (text : String) : Option Resource := Vocabulary.find? text

@[simp] theorem named?_name (r : Resource) : named? r.name = some r := by
  cases r <;> decide

theorem named?_eq_some_iff {text : String} {r : Resource} :
    named? text = some r ↔ text = r.name := by
  constructor
  · intro h
    have found := List.find?_some h
    exact (eq_of_beq found).symm
  · rintro rfl
    exact named?_name r

end Resource

/-- What a measure computes of a resource. -/
inductive Operation where
  | count | change
deriving DecidableEq, Repr

instance : Vocabulary Operation where
  title := "Operation"
  values := [.count,.change]
  word
    | .count => "count"
    | .change => "change"

/-- The length of the buckets of a time series. -/
inductive Granularity where
  | hour | day | week | month | year
deriving DecidableEq, Repr

def Granularity.name : Granularity → String
  | hour => "hour"
  | day => "day"
  | week => "week"
  | month => "month"
  | year => "year"

instance : Vocabulary Granularity where
  title := "Granularity"
  values := [.hour,.day,.week,.month,.year]
  word := Granularity.name

/-- The direction in which a time series is sorted. -/
inductive SortOrder where
  | ascending | descending
deriving DecidableEq, Repr

def SortOrder.name : SortOrder → String
  | ascending => "asc"
  | descending => "desc"

instance : Vocabulary SortOrder where
  title := "Order"
  values := [.ascending,.descending]
  word := SortOrder.name

/-- A date range that is named relative to the time at which a query runs. -/
inductive Interval where
  | all | today | yesterday | thisWeek | thisMonth | thisYear | last7Days | last30Days
  | lastWeek | lastMonth | lastQuarter | lastYear
deriving DecidableEq, Repr

namespace Interval

def name : Interval → String
  | all => "all"
  | today => "today"
  | yesterday => "yesterday"
  | thisWeek => "this week"
  | thisMonth => "this month"
  | thisYear => "this year"
  | last7Days => "last 7 days"
  | last30Days => "last 30 days"
  | lastWeek => "last week"
  | lastMonth => "last month"
  | lastQuarter => "last quarter"
  | lastYear => "last year"

instance : Vocabulary Interval where
  title := "Interval"
  values := [all,today,yesterday,thisWeek,thisMonth,thisYear,last7Days,last30Days,lastWeek,
    lastMonth,lastQuarter,lastYear]
  word := name

def granularity : Interval → Granularity
  | today | yesterday => .hour
  | all | thisWeek | last7Days | lastWeek | thisMonth | last30Days | lastMonth => .day
  | lastQuarter => .week
  | thisYear | lastYear => .month

end Interval

inductive ScopeKey where
  | organization | project | collection
deriving DecidableEq, Repr

def ScopeKey.name : ScopeKey → String
  | organization => "organization_id"
  | project => "project_id"
  | collection => "collection_id"

instance : Vocabulary ScopeKey where
  title := "ScopeKey"
  values := [.organization,.project,.collection]
  word := ScopeKey.name

/-- An operation on a resource. -/
structure Measure where
  resource : Resource
  operation : Operation
deriving DecidableEq, Repr

namespace Measure

def text (m : Measure) : String := m.resource.member (Vocabulary.word m.operation)

def splitPoint (cs : List Char) : List Char × List Char :=
  match cs.span (· != '.') with
  | (before,after) => (before,after.drop 1)

/-- The measure that a member name stands for. The name of the resource ends at the first point,
and it is looked up before the operation. -/
def read (name : String) : Except UnknownWord Measure := do
  let (resource,operation) := splitPoint name.toList
  let resource ← Vocabulary.read Resource (String.ofList resource)
  let operation ← Vocabulary.read Operation (String.ofList operation)
  return ⟨resource,operation⟩

end Measure
end ScopedAnalytics
