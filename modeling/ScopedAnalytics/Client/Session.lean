import ScopedAnalytics.Client

/-! A client in use, from its making to its closing and after. Every query is posted once, whatever
became of those before it, until the client is closed; after that none is. -/
namespace ScopedAnalytics.Client

inductive Use where
  | load (query : Query) (exchange : Http.Exchange)
  | fetch (query : Query) (exchange : Http.Exchange)
  | close

/-- What a use gives: the rows as they are, the rows decoded, or nothing. -/
inductive Yield where
  | data (rows : List Json)
  | rows (rows : List Row)
  | nothing

/-- What happens in one use, and what it gives. A use that never ends gives no result. -/
structure Use.Course where
  trace : Trace
  result : Option (Except Failure Yield)

namespace Use

def courseOf {α : Type} (wrap : α → Yield) (reply : Reply α) : Course where
  trace := (reply.opening ++ reply.closing).map Remark.event
  result :=
    match reply.ending with
    | .answer value => some (.ok (wrap value))
    | .failure f => some (.error f)
    | .silence | .signal => none

def reply (c : Client) (closed : Bool) (query : Query) (exchange : Http.Exchange) :
    Reply (List Json) :=
  if closed then c.loadClosed query else c.load exchange query

def course (c : Client) (closed : Bool) : Use → Course
  | load query exchange => courseOf .data (reply c closed query exchange)
  | fetch query exchange => courseOf .rows (decoded query (reply c closed query exchange))
  | close => ⟨[],some (.ok .nothing)⟩

def closes : Use → Bool
  | close => true
  | _ => false

end Use

def courses (c : Client) (closed : Bool) : List Use → List Use.Course
  | [] => []
  | use :: uses => use.course c closed :: courses c (closed || use.closes) uses

end ScopedAnalytics.Client
