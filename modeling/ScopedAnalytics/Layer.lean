import ScopedAnalytics.Row
import ScopedAnalytics.Trace

/-! The semantic layer, as far as a request can tell: what it makes of each query that reaches
it. -/
namespace ScopedAnalytics

/-- What comes of a query: an answer, a failure, no end, or a signal that ends the whole request
while the answer is awaited. -/
inductive Ending (α : Type) where
  | answer (value : α)
  | failure (f : Failure)
  | silence
  | signal

/-- What a layer lets be seen of its own dealings with a query. -/
inductive Remark where
  | asked (query : Query)
  | posted (request : Http.Request)
  | answered (resource : Resource) (rows : Nat)

def Remark.event : Remark → Event
  | asked query => .noted (.querySent query)
  | posted request => .posted request
  | answered resource rows => .noted (.queryAnswered resource rows)

/-- What the layer makes of a query. The opening is seen as the query arrives and the closing as
it ends, after a number of rounds in which it waits and the time that it takes. -/
structure Reply (α : Type) where
  opening : List Remark
  rounds : Nat
  ending : Ending α
  closing : List Remark
  duration : Duration

namespace Reply

def failed {α : Type} (f : Failure) : Reply α := ⟨[],0,.failure f,[],.zero⟩

def andThen {α β : Type} (reply : Reply α) (f : α → Except Failure β) : Reply β :=
  { reply with
    ending := match reply.ending with
      | .answer value =>
        match f value with
        | .ok value => .answer value
        | .error failure => .failure failure
      | .failure failure => .failure failure
      | .silence => .silence
      | .signal => .signal }

end Reply

abbrev Layer := Query → Reply (List Row)

end ScopedAnalytics
