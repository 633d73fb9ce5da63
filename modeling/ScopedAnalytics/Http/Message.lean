import ScopedAnalytics.Http.ContentType
import ScopedAnalytics.Http.Url
import ScopedAnalytics.Json.Encoded
import ScopedAnalytics.Numeral.Quantity

/-! Requests to a host and its responses. -/
namespace ScopedAnalytics.Http

structure Request where
  url : Url
  authorization : String
  body : Json

def Request.method : String := "POST"

def Request.contentType : String := "application/json"

structure Response where
  status : Int
  contentType : Option String
  body : List UInt8

namespace Response

def isError (r : Response) : Bool := 400 ≤ r.status && r.status < 600

/-- The charset of the body: the one that the content type names, if it is known, or else UTF-8. -/
def charset (r : Response) : Except ContentType.Fault Charset :=
  match r.contentType with
  | some contentType =>
    (ContentType.charset? contentType.toList).map (·.getD (.unicode (.utf8 false)))
  | none => .ok (.unicode (.utf8 false))

/-- The text of the body. Of no bytes it is empty in every charset. -/
def text (r : Response) : Except Failure Text :=
  if r.body.isEmpty then .ok ""
  else
    match r.charset with
    | .ok charset => (charset.text r.body).mapError Charset.Fault.failure
    | .error fault => .error fault.failure

/-- The JSON value of the body, whatever its content type. -/
def json (r : Response) : Except Json.Unreadable Json := Json.ofBytes r.body

end Response

/-- Why there is no response: the exchange itself failed, or what was to be exchanged was bad. -/
inductive Trouble where
  | exchange | badUrl | badCookie
deriving DecidableEq, Repr

/-- What comes of a request: a response, trouble, no end, or a signal to stop that arrives while
the response is awaited. -/
inductive Ending where
  | response (r : Response)
  | trouble (t : Trouble) (message : String)
  | silence
  | signal

/-- What comes of a request after a number of rounds of waiting, and the time that it takes. -/
structure Exchange where
  rounds : Nat
  ending : Ending
  duration : Duration

end ScopedAnalytics.Http
