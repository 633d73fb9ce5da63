import ScopedAnalytics.Layer

/-! One query on its way. Turn by turn it is sent, waits for the rounds that the layer takes and ends
as the layer's reply says. A query that is cut ends at its next turn, whatever the reply. -/
namespace ScopedAnalytics

/-- How a query ends. One that is dropped was never sent, one that is given up was. -/
inductive Fate where
  | finished (rows : List Row)
  | failed (f : Failure)
  | givenUp
  | dropped

/-- How far a query has come. One that waits has rounds before it; one that is stalled has no turn
of its own any more. -/
inductive Stage where
  | unsent
  | waiting (rounds : Nat)
  | stalled
  | ended (fate : Fate)

/-- A query on its way. Its end is known once the request has learned of it. -/
structure Fetch where
  query : Query
  reply : Reply (List Row)
  stage : Stage
  isCut : Bool
  isKnown : Bool

namespace Fetch

def fresh (layer : Layer) (query : Query) : Fetch := ⟨query,layer query,.unsent,false,false⟩

def isEnded (f : Fetch) : Bool :=
  match f.stage with
  | .ended _ => true
  | _ => false

def isResting (f : Fetch) : Bool :=
  match f.stage with
  | .stalled => !f.isCut
  | _ => false

def rows (f : Fetch) : List Row :=
  match f.stage with
  | .ended (.finished rows) => rows
  | _ => []

def cut (f : Fetch) : Fetch := if f.isEnded then f else { f with isCut := true }

/-- What a query calls for as its turn is over: another turn, that the request learns of its end,
that a signal is noticed, or nothing. -/
inductive Call where
  | again
  | news
  | signal
  | nothing
deriving DecidableEq, Repr

structure Turn where
  fetch : Fetch
  trace : Trace
  call : Call

def ending (f : Fetch) (fate : Fate) (trace : Trace) : Turn :=
  ⟨{ f with stage := .ended fate },trace,.news⟩

def measurement (f : Fetch) (rows : List Row) : Measurement :=
  .query f.query.resource.name (.real f.reply.duration.seconds) (.whole rows.length)

def complaint (f : Fetch) (failure : Failure) : Trace :=
  if failure.kind.isLayer then [.noted (.queryFailed f.query.resource)] else []

def arrival (f : Fetch) : Turn :=
  let closing := f.reply.closing.map Remark.event
  match f.reply.ending with
  | .answer rows => f.ending (.finished rows) (closing ++ [.counted (f.measurement rows)])
  | .failure failure => f.ending (.failed failure) (closing ++ f.complaint failure)
  | .silence => ⟨{ f with stage := .stalled },[],.nothing⟩
  | .signal => ⟨{ f with stage := .stalled },[],.signal⟩

def patience (f : Fetch) : Nat → Turn
  | 0 => f.arrival
  | rounds + 1 => ⟨{ f with stage := .waiting rounds },[],.again⟩

def departure (f : Fetch) : Turn :=
  let turn := f.patience f.reply.rounds
  { turn with trace := .sent f.query :: f.reply.opening.map Remark.event ++ turn.trace }

def turn (f : Fetch) : Turn :=
  match f.stage, f.isCut with
  | .ended _, _ | .stalled, false => ⟨f,[],.nothing⟩
  | .unsent, true => f.ending .dropped []
  | _, true => f.ending .givenUp [.givenUp f.query.resource]
  | .unsent, false => f.departure
  | .waiting rounds, false => f.patience rounds

def effort (f : Fetch) : Nat :=
  match f.stage, f.isCut with
  | .ended _, _ => 0
  | _, true => 1
  | .stalled, false => 2
  | .waiting rounds, false => rounds + 4
  | .unsent, false => f.reply.rounds + 4

end Fetch
end ScopedAnalytics
