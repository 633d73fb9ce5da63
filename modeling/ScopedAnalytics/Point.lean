import ScopedAnalytics.Catalog
import ScopedAnalytics.Row

/-! Data points: the rows of all resources that fall into one bucket of time. A resource without
rows is missing from a point; it is never there with an empty list. -/
namespace ScopedAnalytics

/-- The rows of the resources of one bucket, in the order in which the resources came in. The
point of an aggregate over a whole window has no timestamp. -/
structure Point where
  timestamp : Option DateTime
  resources : List (Resource × List Row)
deriving DecidableEq, Repr

structure Point.Conflict where
  left : Option DateTime
  right : Option DateTime
deriving DecidableEq, Repr

namespace Point

def Conflict.shown : Option DateTime → String
  | some t => t.spaced
  | none => "None"

def Conflict.message (c : Conflict) : String :=
  "cannot merge data points at " ++ shown c.left ++ " and " ++ shown c.right

def blank (timestamp : Option DateTime) : Point := ⟨timestamp,[]⟩

def isEmpty (p : Point) : Bool := p.resources.isEmpty

def rowsOf (p : Point) (resource : Resource) : List Row := (p.resources.lookup resource).getD []

/-- Resources with rows added to one of them, which comes in at the end if it is new. -/
def addRows (resource : Resource) (rows : List Row) :
    List (Resource × List Row) → List (Resource × List Row)
  | [] => [(resource,rows)]
  | (r,held) :: rest =>
    if r = resource then (r,held ++ rows) :: rest else (r,held) :: addRows resource rows rest

def insert (p : Point) (resource : Resource) (rows : List Row) : Point :=
  if rows.isEmpty then p else { p with resources := addRows resource rows p.resources }

def insertAll (p : Point) (resources : List (Resource × List Row)) : Point :=
  resources.foldl (fun p entry => p.insert entry.1 entry.2) p

/-- The rows of two points of one bucket in one point. Where one point has no rows the other is
the answer, whatever the buckets. -/
def merge (a b : Point) : Except Conflict Point :=
  if b.isEmpty then .ok a
  else if a.isEmpty then .ok b
  else if a.timestamp ≠ b.timestamp then .error ⟨a.timestamp,b.timestamp⟩
  else .ok (((blank a.timestamp).insertAll a.resources).insertAll b.resources)

def sameRows : List Row → List Row → Bool
  | [], [] => true
  | a :: as, b :: bs => a.same b && sameRows as bs
  | _, _ => false

/-- Whether two points are of one bucket and hold the same rows of each resource, in whatever
order the resources came in. -/
def same (a b : Point) : Bool :=
  a.timestamp == b.timestamp && a.resources.length == b.resources.length &&
    a.resources.all fun entry =>
      match b.resources.lookup entry.1 with
      | some rows => sameRows entry.2 rows
      | none => false

/-- The object that prints a point: the timestamp, and the rows under each resource's name. -/
def toJson (p : Point) : Json :=
  .ofMembers (("timestamp",match p.timestamp with
      | some t => .str t.iso
      | none => .null) ::
    p.resources.map fun entry => (entry.1.name,.list (entry.2.map Row.toJson)))

end Point
end ScopedAnalytics
