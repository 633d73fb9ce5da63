import ScopedAnalytics.Http.Base64
import ScopedAnalytics.Json.Writer
import ScopedAnalytics.Layer
import ScopedAnalytics.Row.Decoding
import ScopedAnalytics.Settings.BaseUrl

/-! The semantic layer behind a host. Each query is posted to one path of the host, and only the
first result set of the response is read. -/
namespace ScopedAnalytics

structure Client where
  base : Url
  header : String
deriving DecidableEq, Repr

/-- Why there is no client for a host, or why it cannot post a query. -/
inductive Client.Fault where
  | url (fault : Url.Fault)
  | beyondAscii (first last : Nat) (c : Char)
  | unwritable
deriving DecidableEq, Repr

namespace Client

def loadPath : String := "/cubejs-api/v1/load"

def Fault.message : Fault → String
  | url fault => fault.message
  | beyondAscii first last c =>
    let what :=
      if first = last then
        "character '" ++ String.ofList (Text.numericEscape c.toNat) ++ "' in position " ++
          toString first
      else "characters in position " ++ toString first ++ "-" ++ toString last
    "'ascii' codec can't encode " ++ what ++ ": ordinal not in range(128)"
  | unwritable => Numeral.unwritable

def Fault.failure (f : Fault) : Failure :=
  ⟨match f with
    | url _ => .badUrl
    | beyondAscii .. => .badHeader
    | unwritable => .invalidValue,f.message⟩

def trimSlashes (text : String) : String :=
  String.ofList (text.toList.reverse.dropWhile (· == '/')).reverse

def beyondAscii? (cs : List Char) : Option Fault :=
  match cs.span (·.toNat < 0x80) with
  | (_,[]) => none
  | (before,c :: rest) =>
    some (.beyondAscii before.length (before.length + (rest.takeWhile (0x80 ≤ ·.toNat)).length) c)

def asciiText (text : String) : Except Fault String :=
  match beyondAscii? text.toList with
  | some fault => .error fault
  | none => .ok text

def readBase (baseUrl : String) : Except Fault Url :=
  (Url.read (trimSlashes baseUrl) >>= Url.asBase).mapError .url

def ofBase (baseUrl token : String) : Except Fault Client := do
  let base ← readBase baseUrl
  let header ← asciiText ("Bearer " ++ token)
  return ⟨base,header⟩

def basicAuthorization (credentials : String × String) : String :=
  "Basic " ++ Base64.encode (Charset.utf8Bytes (credentials.1 ++ ":" ++ credentials.2))

/-- The header that a client sends. A name or a password in its URL takes the place of the
token. -/
def authorization (c : Client) : String :=
  let credentials := c.base.credentials
  if credentials = ("","") then c.header else basicAuthorization credentials

def bodyOf (query : Query) : Json :=
  .ofMembers [("query",query.toJson),("queryType",.str "multi")]

def checkBody (body : Json) : Except Fault Unit :=
  if body.isWritable then .ok () else .error .unwritable

/-- The request that carries a query. Its body must have a text and its host must be writable in
ASCII. -/
def request (c : Client) (query : Query) : Except Fault Http.Request := do
  let url ← (c.base.below loadPath).mapError .url
  checkBody (bodyOf query)
  let _ ← asciiText url.hostAndPort
  return { url, authorization := c.authorization, body := bodyOf query }

def queryError (status : Int) (error : Json) : Failure :=
  ⟨.layer (some status),"cube query error: " ++ error.shown⟩

def readData (r : Http.Response) : Except Failure (List Json) :=
  if r.isError then
    match r.text with
    | .ok text =>
      .error ⟨.layer (some r.status),"cube responded with " ++ toString r.status ++ ": " ++ text⟩
    | .error failure => .error failure
  else
    match r.json with
    | .error u =>
      .error (if u.failure.kind = .tooDeep then u.failure else Undecodable.bodyNotJson.failure)
    | .ok body =>
      match body with
      | .object members =>
        match Json.member? members "error" with
        | some error => .error (queryError r.status error)
        | none => (Response.data body).mapError Undecodable.failure
      | _ => (Response.data body).mapError Undecodable.failure

def exchangeFailure (trouble : Http.Trouble) (message : String) : Failure :=
  match trouble with
  | .exchange => ⟨.layer none,"cube request failed: " ++ message⟩
  | .badUrl => ⟨.badUrl,message⟩
  | .badCookie => ⟨.badCookie,message⟩

/-- The text of a URL, without an empty fragment. -/
def shownUrl (url : Url) : String :=
  match Url.splitLast? '#' url.text.toList with
  | some (before,[]) => String.ofList before
  | _ => url.text

def namesScheme (url : Url) : Bool :=
  let text := url.text.toList
  match (((Url.splitLast? '#' text).map (·.1)).getD text).span fun c => c != '/' && c != ':' with
  | (_ :: _,':' :: _) => true
  | _ => false

def checkAnswered (url : Url) : Except Failure Unit :=
  if !namesScheme url then .error (.invalidValue ("unknown url type: " ++ quoted (shownUrl url)))
  else
    match BaseUrl.split (shownUrl url) with
    | .ok _ => .ok ()
    | .error fault => .error (.invalidValue fault.message)

/-- The check that a response must pass to be one: its content type is in ASCII. -/
def checkResponse (r : Http.Response) : Except Failure Unit :=
  match asciiText (r.contentType.getD "") with
  | .ok _ => .ok ()
  | .error fault => .error fault.failure

def ending (url : Url) : Http.Ending → Ending (List Json)
  | .response r =>
    match do checkResponse r; checkAnswered url; readData r with
    | .ok data => .answer data
    | .error failure => .failure failure
  | .trouble trouble message => .failure (exchangeFailure trouble message)
  | .silence => .silence
  | .signal => .signal

def load (c : Client) (exchange : Http.Exchange) (query : Query) : Reply (List Json) :=
  match c.request query with
  | .error fault => { Reply.failed fault.failure with opening := [.asked query] }
  | .ok request =>
    let ending := ending request.url exchange.ending
    { opening := [.asked query,.posted request]
      rounds := exchange.rounds
      ending
      closing := match ending with
        | .answer data => [.answered query.resource data.length]
        | _ => []
      duration := exchange.duration }

def closedFailure : Failure :=
  ⟨.closed,"Cannot send a request, as the client has been closed."⟩

/-- The load of a query after the closing. The request is put together before it is refused. -/
def loadClosed (c : Client) (query : Query) : Reply (List Json) :=
  let failure :=
    match c.request query with
    | .error fault => fault.failure
    | .ok _ => closedFailure
  { Reply.failed failure with opening := [.asked query] }

def decoded (query : Query) (reply : Reply (List Json)) : Reply (List Row) :=
  reply.andThen fun data => (Row.decodeAll query.resource data).mapError Undecodable.failure

def layer (c : Client) (exchange : Query → Http.Exchange) : Layer := fun query =>
  decoded query (c.load (exchange query) query)

end Client
end ScopedAnalytics
