import ScopedAnalytics.Client
import ScopedAnalytics.Journal.Threshold
import ScopedAnalytics.Program.Plan

/-! One run of the program: it reads the command line and the environment, serves one request and
prints its points. Nothing is printed unless the request is answered in full. -/
namespace ScopedAnalytics

/-- How a run ends. A run that breaks ends with a failure that is none of the request's own. -/
inductive Program.Exit where
  | done
  | help
  | misuse (m : CommandLine.Misuse)
  | noToken
  | failed
  | cancelled
  | broken (failure : Failure)
  | endless
deriving DecidableEq, Repr

/-- What a run does. The form and the threshold are those of the journal, if the run came to set
them. -/
structure Program where
  exit : Program.Exit
  output : String
  trace : Trace
  form : LineForm
  threshold : Nat

namespace Program

def noTokenMessage : String :=
  "No Cube auth token configured. Set CUBE_AUTH_TOKEN environment variable."

/-- What is printed of points, if they can be written. -/
def printed? (points : List Point) : Option String :=
  ((Json.list (points.map Point.toJson)).written? true).map (· ++ "\n")

def ending : Option (Except Failure (List Point)) → Exit × String × Trace
  | none => (.endless,"",[])
  | some (.ok points) =>
    match printed? points with
    | some output => (.done,output,[])
    | none => (.broken .unwritable,"",[])
  | some (.error f) =>
    if f.kind.isReported then (.failed,"",[.noted (.runFailed f)])
    else if f.kind = .cancelled then (.cancelled,"",[.noted .runCancelled])
    else (.broken f,"",[])

def early (exit : Exit) : Program := ⟨exit,"",[],.console,Level.info.rank⟩

def settingsFailure (fault : Settings.Fault) : Failure := .invalidValue fault.message

/-- The course of a request that has a plan. A void deadline breaks it as soon as there are queries
to wait for. -/
def execute (deadline : Option (Given Binary64)) (layer : Layer) (o : Options) (plan : Plan) :
    Course :=
  let order := o.order.value?.getD Query.defaultOrder
  match deadline with
  | some .void =>
    if plan.queries.isEmpty then Service.execute none layer .none order plan
    else ⟨[.noted (Service.notice plan)],some (.error (incomparable "<=" "list" "int"))⟩
  | some (.value seconds) => Service.execute (some (.real seconds)) layer .none order plan
  | none => Service.execute none layer .none order plan

def course (deadline : Option (Given Binary64)) (layer : Layer) (c : CommandLine) : Course :=
  match plan c with
  | .error f => Service.failed f
  | .ok plan => execute deadline layer c.options plan

def serve (s : Settings) (c : CommandLine) (exchange : Query → Http.Exchange) : Program :=
  match s.level with
  | .void => early (.broken (lacking "upper"))
  | .value level =>
    let form := s.form.value?.getD .console
    let base := { early .noToken with form, threshold := level.rank }
    if !s.isEnabled then base
    else
      match Client.ofBase s.baseUrl s.token with
      | .error fault => { base with exit := .broken fault.failure }
      | .ok client =>
        let course := course s.requestTimeout (client.layer exchange) c
        let (exit,output,last) := ending course.result
        { base with exit, output, trace := course.trace ++ last }

def run (env : Environment) (arguments : List String) (exchange : Query → Http.Exchange) :
    Program :=
  match CommandLine.read arguments with
  | .error .help => early .help
  | .error (.misuse m) => early (.misuse m)
  | .ok c =>
    match CommandLine.settings env c.options with
    | .error fault => early (.broken (settingsFailure fault))
    | .ok s => serve s c exchange

def journal (p : Program) : List Entry := Journal.kept p.threshold p.trace.entries

end Program
end ScopedAnalytics
