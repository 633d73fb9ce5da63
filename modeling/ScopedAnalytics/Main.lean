import ScopedAnalytics.Json.Writer
import ScopedAnalytics.Program

/-! The command line. The program does not speak to the host itself: it writes the requests to
standard error, one line each, and reads from standard input one line for the response to each of
them, in the same order, an object with a status, a body and a content type. -/
namespace ScopedAnalytics.Main

def member? (j : Json) (name : String) : Option Json :=
  match j with
  | .object members => Json.member? members name
  | _ => none

/-- What a line of input says of a request. A line without a status says that there is no
response. -/
def readEnding (line : String) : Http.Ending :=
  match Json.ofString line with
  | .error fault => .trouble .exchange fault.message
  | .ok j =>
    match member? j "status" with
    | some (.int status) => .response {
        status
        contentType := (member? j "content_type").map (Json.shown · |>.shown)
        body := Charset.utf8Bytes (((member? j "body").map (Json.shown · |>.shown)).getD "") }
    | _ => .trouble .exchange "no response"

def requestLine (r : Http.Request) : String :=
  (Json.ofMembers [("method",.str Http.Request.method),("url",.str r.url.text),
    ("authorization",.str r.authorization),("content_type",.str Http.Request.contentType),
    ("body",r.body)]).writtenAt false 0

def exchangeOf (endings : List (Query × Http.Ending)) (q : Query) : Http.Exchange :=
  ⟨0,(endings.lookup q).getD .silence,.zero⟩

def journalLine (form : LineForm) (entry : Entry) : String :=
  match Journal.written form entry with
  | .ok text => text
  | .error fault => fault.message

def report : Program.Exit → UInt32 × List String
  | .done => (0,[])
  | .help => (0,["usage: hub-analytics [options] selection"])
  | .misuse m => (2,["usage: hub-analytics [options] selection","hub-analytics: error: " ++ m.message])
  | .noToken => (1,[Program.noTokenMessage])
  | .failed => (1,[])
  | .cancelled => (130,[])
  | .broken failure => (1,[failure.kind.name ++ ": " ++ failure.message.shown])
  | .endless => (1,[])

/-- The run of a command line. A first run, to whose queries nothing comes, tells the requests. -/
def run (env : Environment) (arguments : List String) : IO UInt32 := do
  let input ← IO.getStdin
  let errors ← IO.getStderr
  let asked := (Program.run env arguments (exchangeOf [])).trace
  for request in asked.requests do errors.putStrLn (requestLine request)
  let endings ← asked.queries.mapM fun q => do return (q,readEnding (← input.getLine))
  let p := Program.run env arguments (exchangeOf endings)
  for entry in p.journal do errors.putStrLn (journalLine p.form entry)
  let (code,lines) := report p.exit
  for line in lines do errors.putStrLn line
  IO.print p.output
  return code

end ScopedAnalytics.Main

def main (arguments : List String) : IO UInt32 := do
  let env : ScopedAnalytics.Environment :=
    ⟨← IO.getEnv "CUBE_BASE_URL",← IO.getEnv "CUBE_AUTH_TOKEN",← IO.getEnv "CUBE_TIMEOUT"⟩
  ScopedAnalytics.Main.run env arguments
