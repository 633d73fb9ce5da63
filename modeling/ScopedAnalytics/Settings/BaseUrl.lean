import ScopedAnalytics.Http.Url.Address
import ScopedAnalytics.Text.Quoted

/-! The check that a base URL must pass: its scheme is `http` or `https` and its authority is not
empty. Scheme and authority are split off leniently, after blanks at the front and line breaks
anywhere are left out, and nothing is said about the host that the authority names. -/
namespace ScopedAnalytics.BaseUrl

inductive Fault where
  | notAbsolute (text : String)
  | misplacedBracket
  | futureAddress
  | notAddress (text : String)
  | version4InBrackets
  | hiddenDelimiter (authority : String)
deriving DecidableEq, Repr

def Fault.message : Fault → String
  | notAbsolute text => "invalid cube base URL: " ++ quoted text
  | misplacedBracket => "Invalid IPv6 URL"
  | futureAddress => "IPvFuture address is invalid"
  | notAddress text => quoted text ++ " does not appear to be an IPv4 or IPv6 address"
  | version4InBrackets => "An IPv4 address cannot be in brackets"
  | hiddenDelimiter authority =>
    "netloc '" ++ authority ++ "' contains invalid characters under NFKC normalization"

def significant (text : String) : List Char :=
  (text.toList.dropWhile (·.toNat ≤ 0x20)).filter fun c => c != '\t' && c != '\r' && c != '\n'

def inScheme (c : Char) : Bool := c.isAlphanum || c == '+' || c == '-' || c == '.'

def splitScheme (cs : List Char) : List Char × List Char :=
  match cs.span (· != ':') with
  | (first :: more,_ :: rest) =>
    if first.isAlpha && more.all inScheme then ((first :: more).map Char.toLower,rest)
    else ([],cs)
  | _ => ([],cs)

def authorityOf : List Char → List Char
  | '/' :: '/' :: rest => rest.takeWhile fun c => c != '/' && c != '?' && c != '#'
  | _ => []

/-- The host that an authority with brackets names. It stands after the user information, either
in brackets, with nothing before them and at most a port after them, or else before a port. -/
def hostOf (authority : List Char) : Except Fault (List Char) :=
  let place := (authority.reverse.takeWhile (· != '@')).reverse
  match place.span (· != '[') with
  | (_,[]) => .ok (place.takeWhile (· != ':'))
  | (before,_ :: rest) =>
    match before, rest.span (· != ']') with
    | [], (host,[]) | [], (host,[_]) | [], (host,_ :: ':' :: _) => .ok host
    | _, _ => .error .misplacedBracket

/-- Whether a text is an address of a version to come: the version after a `v`, and something
after a point. -/
def isFutureAddress (cs : List Char) : Bool :=
  match (cs.drop 1).span Percent.isHexDigit with
  | (_ :: _,'.' :: _ :: _) => true
  | _ => false

def checkHost (cs : List Char) : Except Fault Unit :=
  if cs.head? = some 'v' then
    if isFutureAddress cs then .ok () else .error .futureAddress
  else if Address.isVersion4 cs then .error .version4InBrackets
  else if Address.isVersion6 cs then .ok ()
  else .error (.notAddress (String.ofList cs))

/-- The characters that stand for text with a delimiter of URLs in it. -/
def delimiterForms : List Nat :=
  [0x2047,0x2048,0x2049,0x2100,0x2101,0x2105,0x2106,0x2A74,0xFE13,0xFE16,0xFE55,0xFE56,0xFE5F,
    0xFE6B,0xFF03,0xFF0F,0xFF1A,0xFF1F,0xFF20]

def checkAuthority (authority : List Char) : Except Fault Unit := do
  if authority.contains '[' != authority.contains ']' then throw .misplacedBracket
  if authority.contains '[' then checkHost (← hostOf authority)
  if authority.any fun c => delimiterForms.contains c.toNat then
    throw (.hiddenDelimiter (String.ofList authority))

/-- The scheme and the authority of a URL whose authority passes its check. -/
def split (text : String) : Except Fault (List Char × List Char) := do
  let (scheme,rest) := splitScheme (significant text)
  let authority := authorityOf rest
  checkAuthority authority
  return (scheme,authority)

def check (text : String) : Except Fault Unit := do
  let (scheme,authority) ← split text
  if !(["http","https"].contains (String.ofList scheme)) || authority.isEmpty then
    throw (.notAbsolute text)

end ScopedAnalytics.BaseUrl
