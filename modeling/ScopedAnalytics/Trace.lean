import ScopedAnalytics.Http.Message
import ScopedAnalytics.Journal
import ScopedAnalytics.Meter

/-! What can be seen of a request while it is served, in the order in which it happens. -/
namespace ScopedAnalytics

/-- One thing that happens. A query reaches the semantic layer when it is sent, and it is given up
when it is cancelled while the answer is awaited. -/
inductive Event where
  | noted (notice : Notice)
  | sent (query : Query)
  | posted (request : Http.Request)
  | counted (measurement : Measurement)
  | givenUp (resource : Resource)

namespace Event

def entry? : Event → Option Entry
  | .noted notice => some notice.entry
  | _ => none

def query? : Event → Option Query
  | .sent query => some query
  | _ => none

def request? : Event → Option Http.Request
  | .posted request => some request
  | _ => none

def measurement? : Event → Option Measurement
  | .counted measurement => some measurement
  | _ => none

def givenUp? : Event → Option Resource
  | .givenUp resource => some resource
  | _ => none

end Event

abbrev Trace := List Event

namespace Trace

def entries (trace : Trace) : List Entry := trace.filterMap Event.entry?

def queries (trace : Trace) : List Query := trace.filterMap Event.query?

def requests (trace : Trace) : List Http.Request := trace.filterMap Event.request?

def measurements (trace : Trace) : List Measurement := trace.filterMap Event.measurement?

def givenUp (trace : Trace) : List Resource := trace.filterMap Event.givenUp?

end Trace
end ScopedAnalytics
