import ScopedAnalytics.Calendar.Date
import ScopedAnalytics.Catalog

/-! The time window of a request: a range of time and the length of its buckets. A named interval
stays symbolic, for the semantic layer resolves it when a query runs. -/
namespace ScopedAnalytics

inductive Window.Range where
  | named (interval : Interval)
  | dates (start finish : Date)
deriving DecidableEq, Repr

structure Window where
  granularity : Granularity
  range : Window.Range
deriving DecidableEq, Repr

namespace Window

/-- The ways in which a query states a date range. -/
inductive DateRange where
  | named (words : String)
  | between (dates : List String)
deriving DecidableEq, Repr

/-- The date range of a window. The interval of all time has none. -/
def dateRange (w : Window) : Option DateRange :=
  match w.range with
  | .named .all => none
  | .named interval => some (.named interval.name)
  | .dates start finish => some (.between [start.iso,finish.iso])

structure Given where
  interval : Option Interval
  start : Option Date
  finish : Option Date
  granularity : Option Granularity
deriving DecidableEq, Repr

inductive Fault where
  | halfOpen
  | intervalWithDates
  | reversed (start finish : Date)
  | missing
deriving DecidableEq, Repr

def Fault.message : Fault → String
  | halfOpen => "start and end must be provided together"
  | intervalWithDates => "an interval cannot be combined with an explicit start and end"
  | reversed start finish => "start " ++ start.iso ++ " is after end " ++ finish.iso
  | missing => "either an interval or a start and end date must be provided"

def defaultGranularity : Granularity := .day

/-- The window of a request. Dates have buckets of a day and an interval those of its own
granularity, unless another one is given. -/
def resolve (given : Given) : Except Fault Window :=
  match given.start, given.finish with
  | some start, some finish =>
    if given.interval.isSome then .error .intervalWithDates
    else if finish < start then .error (.reversed start finish)
    else .ok ⟨given.granularity.getD defaultGranularity,.dates start finish⟩
  | none, none =>
    match given.interval with
    | some interval => .ok ⟨given.granularity.getD interval.granularity,.named interval⟩
    | none => .error .missing
  | _, _ => .error .halfOpen

end Window
end ScopedAnalytics
