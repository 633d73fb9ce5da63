import ScopedAnalytics.Point

/-! Points under names. A name refers to a point, and a point to a list of rows for each of its
resources. Rows that come in go to the end of that list, where all that refer to it find them; a merge
makes lists of its own, so that what happens to the merged point later leaves the two as they were. -/
namespace ScopedAnalytics

/-- A point whose rows are in lists that it refers to by their numbers. -/
structure Holder where
  timestamp : Option DateTime
  resources : List (Resource × Nat)
deriving DecidableEq, Repr

/-- Lists of rows and points, each by its number, and the numbers of the points that have names, the
names in ascending order. -/
structure Store where
  lists : List (List Row)
  holders : List Holder
  slots : List (String × Nat)
deriving DecidableEq, Repr

namespace Store

inductive Step where
  | create (target : String) (timestamp : Option DateTime)
  | insert (target : String) (resource : Resource) (rows : List Row)
  | merge (target left right : String)
  | compare (left right : String)
deriving DecidableEq, Repr

inductive Fault where
  | conflict (c : Point.Conflict)
  | unknown (name : String)
deriving DecidableEq, Repr

def Fault.message : Fault → String
  | conflict c => c.message
  | unknown name => "no point " ++ quoted name

def empty : Store := ⟨[],[],[]⟩

def rowsAt (s : Store) (list : Nat) : List Row := s.lists.getD list []

def shown (s : Store) (h : Holder) : Point :=
  ⟨h.timestamp,h.resources.map fun entry => (entry.1,s.rowsAt entry.2)⟩

def holder? (s : Store) (name : String) : Option Holder :=
  (s.slots.lookup name).bind fun number => s.holders[number]?

def point? (s : Store) (name : String) : Option Point := (s.holder? name).map s.shown

def points (s : Store) : List (String × Point) :=
  s.slots.filterMap fun slot => s.holders[slot.2]?.map fun h => (slot.1,s.shown h)

def setSlot (name : String) (number : Nat) : List (String × Nat) → List (String × Nat)
  | [] => [(name,number)]
  | (other,held) :: rest =>
    if other = name then (name,number) :: rest
    else if name < other then (name,number) :: (other,held) :: rest
    else (other,held) :: setSlot name number rest

def bind (s : Store) (name : String) (number : Nat) : Store :=
  { s with slots := setSlot name number s.slots }

/-- A further point, which has lists of its own. -/
def addPoint (s : Store) (p : Point) : Store :=
  { s with
    lists := s.lists ++ p.resources.map (·.2)
    holders := s.holders ++ [⟨p.timestamp,(p.resources.map (·.1)).zipIdx s.lists.length⟩] }

def addList (s : Store) : Store := { s with lists := s.lists ++ [[]] }

/-- A point refers to a list for a resource that is new to it. -/
def refer (s : Store) (number : Nat) (resource : Resource) (list : Nat) : Store :=
  { s with holders := s.holders.modify number fun h =>
      { h with resources := h.resources ++ [(resource,list)] } }

def extend (s : Store) (list : Nat) (rows : List Row) : Store :=
  { s with lists := s.lists.modify list (· ++ rows) }

def insert (s : Store) (number : Nat) (resource : Resource) (rows : List Row) : Store :=
  if rows.isEmpty then s
  else
    match s.holders[number]?.bind fun h => h.resources.lookup resource with
    | some list => s.extend list rows
    | none => (s.addList.refer number resource s.lists.length).extend s.lists.length rows

def merge (s : Store) (a b : Holder) : Except Point.Conflict Unit × Store :=
  if b.resources.isEmpty then (.ok (),s.addPoint (s.shown a))
  else if a.resources.isEmpty then (.ok (),s.addPoint (s.shown b))
  else if a.timestamp ≠ b.timestamp then (.error ⟨a.timestamp,b.timestamp⟩,s)
  else
    let number := s.holders.length
    (.ok (),(a.resources ++ b.resources).foldl
      (fun s entry => s.insert number entry.1 (s.rowsAt entry.2)) (s.addPoint (.blank a.timestamp)))

def step (s : Store) : Step → Except Fault Unit × Store
  | .create target timestamp =>
    (.ok (),(s.addPoint (.blank timestamp)).bind target s.holders.length)
  | .insert target resource rows =>
    match s.slots.lookup target with
    | none => (.error (.unknown target),s)
    | some number => (.ok (),s.insert number resource rows)
  | .merge target left right =>
    match s.holder? left, s.holder? right with
    | none, _ => (.error (.unknown left),s)
    | some _, none => (.error (.unknown right),s)
    | some a, some b =>
      match s.merge a b with
      | (.ok _,after) => (.ok (),after.bind target s.holders.length)
      | (.error c,after) => (.error (.conflict c),after)
  | .compare .. => (.ok (),s)

def answer (s : Store) : Step → Option Bool
  | .compare left right =>
    match s.point? left, s.point? right with
    | some a, some b => some (a.same b)
    | _, _ => none
  | _ => none

def run (steps : List Step) (s : Store) : Store := steps.foldl (fun s step => (s.step step).2) s

end Store
end ScopedAnalytics
