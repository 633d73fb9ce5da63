import ScopedAnalytics.Point
import ScopedAnalytics.Selection

/-! The points of a whole request. The rows of all its queries go into buckets by timestamp, or
into one aggregate if no query asked for a time series. Queries are taken in the order of their
selections, so the points do not depend on which answer came first. -/
namespace ScopedAnalytics

structure Answered where
  selection : Selection
  rows : List Row
deriving DecidableEq, Repr

namespace Timeline

structure Dated where
  timestamp : DateTime
  resource : Resource
  row : Row
deriving DecidableEq, Repr

def dated? (resource : Resource) (row : Row) : Option Dated :=
  row.timestamp.map fun t => ⟨t,resource,row⟩

def dated (answers : List Answered) : List Dated :=
  answers.flatMap fun a => a.rows.filterMap (dated? a.selection.resource)

def undated (answers : List Answered) : Nat :=
  (answers.flatMap (·.rows)).countP (·.timestamp.isNone)

def addRow (d : Dated) : List Point → List Point
  | [] => [(Point.blank (some d.timestamp)).insert d.resource [d.row]]
  | p :: rest =>
    match p.timestamp with
    | none => p :: addRow d rest
    | some t =>
      if d.timestamp = t then p.insert d.resource [d.row] :: rest
      else if d.timestamp < t then
        (Point.blank (some d.timestamp)).insert d.resource [d.row] :: p :: rest
      else p :: addRow d rest

def buckets (rows : List Dated) : List Point := rows.foldl (fun points d => addRow d points) []

def aggregate (answers : List Answered) : Point :=
  (Point.blank none).insertAll (answers.map fun a => (a.selection.resource,a.rows))

def isSeries (answers : List Answered) : Bool := answers.any (·.selection.hasTimestamp)

def directed (order : SortOrder) (points : List Point) : List Point :=
  match order with
  | .ascending => points
  | .descending => points.reverse

def points (answers : List Answered) (order : SortOrder) : List Point :=
  if isSeries answers then directed order (buckets (dated answers)) else [aggregate answers]

def leftOut (answers : List Answered) : Nat := if isSeries answers then undated answers else 0

end Timeline
end ScopedAnalytics
