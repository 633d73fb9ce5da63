import ScopedAnalytics.Fetch

/-! The queries of one request on their way, in rounds. A round is a list of jobs that are done in
order, and what they call for is left to the next one. The request itself waits until it is called:
by the first failure, by the last answer, by its deadline or by its caller. Whatever has not ended
when it stops waiting is cut. -/
namespace ScopedAnalytics

/-- What is done in a round: the turn of the query at a place, the news of its end, the release of
a request by its answers, the passing of its deadline, its own turn, a signal that is noticed, its
caller's leaving and the turn of a caller who leaves after some more. -/
inductive Job where
  | fetch (place : Nat)
  | news (place : Nat)
  | release
  | deadline
  | request
  | signal
  | leave
  | caller (turns : Nat)
deriving DecidableEq, Repr

def Fetch.Call.jobs (place : Nat) : Fetch.Call → List Job
  | .again => [.fetch place]
  | .news => [.news place]
  | .signal | .nothing => []

/-- The jobs that a query calls for which come after all others of the next round. -/
def Fetch.Call.lateJobs : Fetch.Call → List Job
  | .signal => [.signal]
  | _ => []

/-- A bound on the number of jobs that come of a job, with itself. -/
def Job.effort : Job → Nat
  | signal => 2
  | caller turns => turns + 1
  | _ => 1

/-- When a deadline passes: never, once nothing else is left to happen, or at the latest at the end
of a round that is some rounds away. -/
inductive Timer where
  | off
  | idle
  | after (rounds : Nat)
deriving DecidableEq, Repr

namespace Timer

def isDue (isIdle : Bool) : Timer → Bool
  | off => false
  | idle | after (_ + 1) => isIdle
  | after 0 => true

def elapsed : Timer → Timer
  | after (rounds + 1) => after rounds
  | timer => timer

def effort : Timer → Nat
  | off => 0
  | idle | after _ => 1

end Timer

/-- How a request is interrupted from outside: the turns after which its caller leaves, and the
round in which its deadline passes. A deadline that passes in no such round does so once nothing
else is left to happen. -/
structure Interruption where
  leaving : Option Nat
  passing : Option Nat
deriving DecidableEq, Repr

def Interruption.none : Interruption := ⟨.none,.none⟩

/-- What a request waits for: its answers alone, its answers or its deadline, that the queries it
has cut end after its deadline passed or its caller left, or nothing. -/
inductive Waiting where
  | plain
  | timed
  | expiring
  | leaving
  | stopped (outcome : Except Failure (List (List Row)))

/-- A bound on the number of jobs that are yet to come of the request itself, which has its answers
and is called or not. -/
def Waiting.effort (isAnswered isCalled : Bool) : Waiting → Nat
  | stopped _ => 0
  | timed => (!isAnswered).toNat + (!isCalled).toNat + 1
  | plain | expiring | leaving => (!isAnswered).toNat + (!isCalled).toNat

/-- The queries of a request and how far they and the request have come. The answers are gathered
once all are known or the first failure is. A request that is called has its turn ahead, and one
that is struck is interrupted in it. The aftermath is what happens when the waiting is over. -/
structure Dispatch where
  fetches : List Fetch
  queue : List Job
  late : List Job
  timer : Timer
  gathered : Option (Except Failure (List (List Row)))
  waiting : Waiting
  isCalled : Bool
  isStruck : Bool
  trace : Trace
  aftermath : Trace

namespace Dispatch

def lateness : Failure := ⟨.timeout,""⟩

def isOver (d : Dispatch) : Bool :=
  match d.waiting with
  | .stopped _ => true
  | _ => false

/-- How the waiting ended, none if it has not. -/
def outcome (d : Dispatch) : Option (Except Failure (List (List Row))) :=
  match d.waiting with
  | .stopped outcome => some outcome
  | _ => none

def push (d : Dispatch) (job : Job) : Dispatch := { d with queue := d.queue ++ [job] }

def note (d : Dispatch) (events : Trace) : Dispatch :=
  if d.isOver then { d with aftermath := d.aftermath ++ events }
  else { d with trace := d.trace ++ events }

def call (d : Dispatch) : Dispatch :=
  if d.isCalled then d else { d with isCalled := true }.push .request

def wakings (fetches : List Fetch) : List Job :=
  fetches.zipIdx.filterMap fun entry => if entry.1.isResting then some (.fetch entry.2) else none

def cutAll (d : Dispatch) : Dispatch :=
  { d with fetches := d.fetches.map Fetch.cut, queue := d.queue ++ wakings d.fetches }

def turn (d : Dispatch) (place : Nat) : Dispatch :=
  match d.fetches[place]? with
  | none => d
  | some f =>
    { d with
      fetches := d.fetches.set place f.turn.fetch
      queue := d.queue ++ f.turn.call.jobs place
      late := d.late ++ f.turn.call.lateJobs }.note f.turn.trace

/-- The dispatch with its answers gathered, or the failure that stands for them. -/
def receive (d : Dispatch) (answers : Except Failure (List (List Row))) : Dispatch :=
  { d with gathered := some answers }

/-- The dispatch after its answers are gathered, which calls the request or is to release it. -/
def gather (d : Dispatch) (answers : Except Failure (List (List Row))) : Dispatch :=
  match d.waiting with
  | .plain => (d.receive answers).call
  | .timed | .expiring | .leaving => (d.receive answers).push .release
  | .stopped _ => d.receive answers

/-- What there is to gather as the end of a query becomes known: the first failure, or the rows of
all queries once each is known. A query without an end of its own counts as cancelled. -/
def news? (fetches : List Fetch) (f : Fetch) : Option (Except Failure (List (List Row))) :=
  match f.stage with
  | .ended (.finished _) =>
    if fetches.all Fetch.isKnown then some (.ok (fetches.map Fetch.rows)) else none
  | .ended (.failed failure) => some (.error failure)
  | .ended .givenUp | .ended .dropped => some (.error .cancellation)
  | _ => none

def mark (d : Dispatch) (place : Nat) (f : Fetch) : Dispatch :=
  { d with fetches := d.fetches.set place { f with isKnown := true } }

def learn (d : Dispatch) (place : Nat) : Dispatch :=
  match d.fetches[place]? with
  | none => d
  | some f =>
    match d.gathered, news? (d.mark place f).fetches f with
    | none, some answers => (d.mark place f).gather answers
    | _, _ => d.mark place f

def finish (d : Dispatch) (outcome : Except Failure (List (List Row))) : Dispatch :=
  { d.cutAll with waiting := .stopped outcome, timer := .off }

/-- The dispatch after the request gave up its queries, and waits for them to end. -/
def windUp (d : Dispatch) (waiting : Waiting) : Dispatch :=
  { d.cutAll with waiting, isCalled := false, isStruck := false }

/-- How the waiting ends after a deadline passed: as if it had not, if the answers or a failure
came in before all was cut. -/
def belated : Except Failure (List (List Row)) → Except Failure (List (List Row))
  | .error f => .error (if f.kind = .cancelled then lateness else f)
  | .ok rows => .ok rows

/-- The dispatch after the turn of the request. One that is struck while it waits for a deadline as
well still takes the answers if they are there. -/
def resume (d : Dispatch) : Dispatch :=
  match d.waiting, d.gathered with
  | .stopped _, _ | .plain, none => d
  | .plain, some answers => d.finish (if d.isStruck then .error .cancellation else answers)
  | .timed, some answers => d.finish answers
  | .timed, none => d.windUp (if d.isStruck then .leaving else .expiring)
  | .leaving, _ => d.finish (.error .cancellation)
  | .expiring, some answers => d.finish (if d.isStruck then .error .cancellation else belated answers)
  | .expiring, none => d.finish (.error (if d.isStruck then .cancellation else lateness))

def strike (d : Dispatch) : Dispatch := { d with isStruck := true }

/-- The dispatch after the caller left. A request that waits for its answers alone hands this on to
its queries, unless all have ended. -/
def leave (d : Dispatch) : Dispatch :=
  match d.waiting with
  | .stopped _ => d
  | .plain =>
    if d.gathered.isSome || d.fetches.all Fetch.isEnded then d.strike
    else d.cutAll
  | .timed | .expiring | .leaving => d.strike.call

def release (d : Dispatch) : Dispatch :=
  match d.waiting with
  | .timed | .expiring | .leaving => d.call
  | .plain | .stopped _ => d

def expire (d : Dispatch) : Dispatch :=
  match d.waiting with
  | .timed => d.call
  | _ => d

def perform (d : Dispatch) : Job → Dispatch
  | .fetch place => d.turn place
  | .news place => d.learn place
  | .release => d.release
  | .deadline => d.expire
  | .request => d.resume
  | .signal => d.push .leave
  | .leave | .caller 0 => d.leave
  | .caller (turns + 1) => d.push (.caller turns)

def opened (d : Dispatch) : Dispatch :=
  let jobs := d.queue ++ d.late
  if d.timer.isDue jobs.isEmpty then
    { d with queue := jobs ++ [.deadline], late := [], timer := .off }
  else { d with queue := jobs, late := [], timer := d.timer.elapsed }

def performAll (d : Dispatch) (jobs : List Job) : Dispatch := jobs.foldl perform d

def round (d : Dispatch) : Dispatch := { d.opened with queue := [] }.performAll d.opened.queue

def isQuiet (d : Dispatch) : Bool := d.opened.queue.isEmpty

/-- The dispatch after rounds, fewer if nothing is left to happen. -/
def rounds : Nat → Dispatch → Dispatch
  | 0, d => d
  | n + 1, d => if d.isQuiet then d else rounds n d.round

def effort (d : Dispatch) : Nat :=
  (d.fetches.map Fetch.effort).foldr (· + ·) 0 +
    ((d.queue ++ d.late).map Job.effort).foldr (· + ·) 0 +
    d.waiting.effort d.gathered.isSome d.isCalled + d.timer.effort

/-- The timer of a deadline in seconds. One that is an undefined number passes in the round in which
the queries are sent, and one without bounds never does. -/
def timerOf (passing : Option Nat) : Binary64 → Timer
  | .nan => .after 0
  | .infinite _ => .off
  | .finite .. => passing.elim .idle .after

def overlong : Failure := ⟨.tooLarge,"int too large to convert to float"⟩

/-- Queries before any of them is sent, each with its first turn ahead. -/
def ready (fetches : List Fetch) (waiting : Waiting) (timer : Timer) : Dispatch where
  fetches
  queue := (List.range fetches.length).map .fetch
  late := []
  timer
  gathered := none
  waiting
  isCalled := false
  isStruck := false
  trace := []
  aftermath := []

/-- The dispatch as its request begins to wait. There is nothing to wait for without queries. A
deadline that has passed already has all queries cut before they are sent. -/
def start (deadline : Option Quantity) (passing : Option Nat) (fetches : List Fetch) : Dispatch :=
  if fetches.isEmpty then ready [] (.stopped (.ok [])) .off
  else
    match deadline with
    | none => ready fetches .plain .off
    | some seconds =>
      if seconds.isSpent then (ready fetches .plain .off).windUp .expiring
      else
        match seconds.approximate? with
        | none => (ready fetches .plain .off).finish (.error overlong)
        | some x => ready fetches .timed (timerOf passing x)

/-- The dispatch with a caller who leaves after turns, the first of which it has before any query
is sent. -/
def accompany (d : Dispatch) : Option Nat → Dispatch
  | none | some 0 => d
  | some 1 => d.leave
  | some (turns + 2) => d.push (.caller turns)

def run (deadline : Option Quantity) (interruption : Interruption) (fetches : List Fetch) :
    Dispatch :=
  let d := (start deadline interruption.passing fetches).accompany interruption.leaving
  d.rounds d.effort

end Dispatch
end ScopedAnalytics
