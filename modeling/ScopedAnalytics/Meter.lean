import ScopedAnalytics.Json.Writer
import ScopedAnalytics.Numeral.Quantity

/-! Running totals of what requests cost and how they ended: the durations and row numbers of
queries by resource, failures by kind, and points answered. Totals only grow. -/
namespace ScopedAnalytics

inductive Measurement where
  | query (resource : String) (duration rows : Quantity)
  | failure (kind : String)
  | points (number : Quantity)
deriving DecidableEq, Repr

/-- Durations by size. A duration is counted in the first bucket whose bound it does not pass. -/
structure Histogram where
  counts : List Nat
  total : Binary64
deriving DecidableEq, Repr

structure Meter where
  durations : List (String × Histogram)
  rows : List (String × Binary64)
  failures : List (String × Binary64)
  points : Binary64
deriving DecidableEq, Repr

inductive Meter.Fault where
  | negative
  | tooLarge
deriving DecidableEq, Repr

def Meter.Fault.message : Meter.Fault → String
  | negative => "Counters can only be incremented by non-negative amounts."
  | tooLarge => "int too large to convert to float"

namespace Histogram

def bounds : List (Binary64 × String) :=
  [(.ofDecimal false 5 (-3),"0.005"),(.ofDecimal false 1 (-2),"0.01"),
    (.ofDecimal false 25 (-3),"0.025"),(.ofDecimal false 5 (-2),"0.05"),
    (.ofDecimal false 75 (-3),"0.075"),(.ofDecimal false 1 (-1),"0.1"),
    (.ofDecimal false 25 (-2),"0.25"),(.ofDecimal false 5 (-1),"0.5"),
    (.ofDecimal false 75 (-2),"0.75"),(.ofDecimal false 1 0,"1.0"),
    (.ofDecimal false 25 (-1),"2.5"),(.ofDecimal false 5 0,"5.0"),
    (.ofDecimal false 75 (-1),"7.5"),(.ofDecimal false 10 0,"10.0"),(.infinite false,"+Inf")]

def empty : Histogram := ⟨bounds.map fun _ => 0,.zero false⟩

def place (duration : Binary64) : List (Binary64 × String) → List Nat → List Nat
  | (bound,_) :: bounds, count :: counts =>
    if duration.le bound then (count + 1) :: counts else count :: place duration bounds counts
  | _, counts => counts

def observe (h : Histogram) (duration : Binary64) : Histogram :=
  ⟨place duration bounds h.counts,h.total + duration⟩

def cumulative (total : Nat) : List Nat → List Nat
  | [] => []
  | count :: counts => (total + count) :: cumulative (total + count) counts

def size (h : Histogram) : Nat := h.counts.foldr (· + ·) 0

end Histogram

namespace Meter

def empty : Meter := ⟨[],[],[],.zero false⟩

def under {α : Type} (start : α) (totals : List (String × α)) (label : String) : α :=
  (totals.lookup label).getD start

def put {α : Type} (label : String) (total : α) : List (String × α) → List (String × α)
  | [] => [(label,total)]
  | (other,held) :: rest =>
    if other = label then (label,total) :: rest else (other,held) :: put label total rest

/-- A total after a quantity is added, which must not be negative. -/
def increase (total : Binary64) (q : Quantity) : Except Fault Binary64 :=
  if q.isNegative then .error .negative
  else
    match q.approximate? with
    | some x => .ok (total + x)
    | none => .error .tooLarge

/-- The meter after the duration of a query is counted. Its label is there even if the duration
cannot be counted. -/
def recordDuration (m : Meter) (resource : String) (duration : Quantity) :
    Meter × Option Fault :=
  let held := under .empty m.durations resource
  match duration.approximate? with
  | some x => ({ m with durations := put resource (held.observe x) m.durations },none)
  | none => ({ m with durations := put resource held m.durations },some .tooLarge)

/-- The meter after the rows of a query are counted. The label is there even if they cannot be. -/
def recordRows (m : Meter) (resource : String) (rows : Quantity) : Meter × Option Fault :=
  let held := under (.zero false) m.rows resource
  match increase held rows with
  | .ok total => ({ m with rows := put resource total m.rows },none)
  | .error fault => ({ m with rows := put resource held m.rows },some fault)

/-- The meter after a measurement, and why that is not counted in full if it is not. The rows of
a query are counted after its duration. -/
def record (m : Meter) : Measurement → Meter × Option Fault
  | .query resource duration rows =>
    match m.recordDuration resource duration with
    | (m,none) => m.recordRows resource rows
    | (m,fault) => (m,fault)
  | .failure kind =>
    let held := under (.zero false) m.failures kind
    ({ m with failures := put kind (held + .ofInt 1) m.failures },none)
  | .points number =>
    match increase m.points number with
    | .ok total => ({ m with points := total },none)
    | .error fault => (m,some fault)

def recordAll (m : Meter) (measurements : List Measurement) : Meter :=
  measurements.foldl (fun m x => (m.record x).1) m

/-- One number of a meter under its name and labels. -/
structure Sample where
  name : String
  labels : List (String × String)
  value : Binary64
deriving DecidableEq, Repr

namespace Sample

def labelText (s : Sample) : String :=
  (Json.ofMembers (s.labels.map fun label => (label.1,.str label.2))).writtenAt false 0

/-- The order of samples: by name, then by the text of the labels. -/
def before (a b : Sample) : Bool :=
  a.name < b.name || (a.name == b.name && a.labelText ≤ b.labelText)

end Sample

def durationName : String := "hub_analytics_cube_query_duration_seconds"

def bucketSamples (resource : String) (h : Histogram) : List Sample :=
  (Histogram.bounds.zip (Histogram.cumulative 0 h.counts)).map fun entry =>
    ⟨durationName ++ "_bucket",[("le",entry.1.2),("resource",resource)],.ofInt entry.2⟩

/-- The samples of a meter in their order. Bucket counts and duration sums are only there if they
are asked for. -/
def samples (m : Meter) (detailed : Bool) : List Sample :=
  let details := m.durations.flatMap fun entry =>
    bucketSamples entry.1 entry.2 ++
      [⟨durationName ++ "_sum",[("resource",entry.1)],entry.2.total⟩]
  let counts := m.durations.map fun entry =>
    ⟨durationName ++ "_count",[("resource",entry.1)],.ofInt entry.2.size⟩
  let rows := m.rows.map fun entry =>
    ⟨"hub_analytics_cube_rows_total",[("resource",entry.1)],entry.2⟩
  let failures := m.failures.map fun entry =>
    ⟨"hub_analytics_query_errors_total",[("kind",entry.1)],entry.2⟩
  let points := [⟨"hub_analytics_datapoints_total",[],m.points⟩]
  ((if detailed then details else []) ++ counts ++ rows ++ failures ++ points).mergeSort
    Sample.before

end Meter
end ScopedAnalytics
