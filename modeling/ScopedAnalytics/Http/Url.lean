import ScopedAnalytics.Http.Url.DomainName
import ScopedAnalytics.Numeral.Integer
import ScopedAnalytics.Text.Quoted
import ScopedAnalytics.Text.SmallLetter

/-! URLs in a normal form: scheme and host in small letters, no default port, no dot segments in
the path, and every character that cannot stand for itself percent-encoded. -/
namespace ScopedAnalytics

/-- A URL. An empty scheme, user information or host is one that is missing. -/
structure Url where
  scheme : String
  userInfo : String
  host : String
  port : Option Int
  path : String
  query : Option String
  fragment : Option String
deriving DecidableEq, Repr

inductive Url.Fault where
  | tooLong
  | partTooLong (part : String)
  | control (c : Char) (position : Nat)
  | badVersion4 (host : String)
  | badVersion6 (host : String)
  | badName (host : String)
  | badPort (text : String)
  | rootless
  | doubleSlash
  | leadingColon
deriving DecidableEq, Repr

namespace Url

def Fault.message : Fault → String
  | tooLong => "URL too long"
  | partTooLong part => "URL component '" ++ part ++ "' too long"
  | control c position =>
    "Invalid non-printable ASCII character in URL, " ++ quoted (String.singleton c) ++
      " at position " ++ toString position ++ "."
  | badVersion4 host => "Invalid IPv4 address: " ++ quoted host
  | badVersion6 host => "Invalid IPv6 address: " ++ quoted host
  | badName host => "Invalid IDNA hostname: " ++ quoted host
  | badPort text => "Invalid port: " ++ quoted text
  | rootless => "For absolute URLs, path must be empty or begin with '/'"
  | doubleSlash => "Relative URLs cannot have a path starting with '//'"
  | leadingColon => "Relative URLs cannot have a path starting with ':'"

/-- The most characters that a URL, or each part of one that is put together, may have. -/
def lengthLimit : Nat := 65536

structure Parts where
  scheme : List Char
  authority : List Char
  path : List Char
  query : Option (List Char)
  fragment : Option (List Char)

def inScheme (c : Char) : Bool := c.isAlphanum || c == '+' || c == '.' || c == '-'

def splitScheme (cs : List Char) : List Char × List Char :=
  match cs.span inScheme with
  | ([],':' :: rest) => ([],rest)
  | (c :: scheme,':' :: rest) => if c.isAlpha then (c :: scheme,rest) else ([],cs)
  | _ => ([],cs)

def splitAuthority : List Char → List Char × List Char
  | '/' :: '/' :: rest => rest.span fun c => c != '/' && c != '?' && c != '#'
  | cs => ([],cs)

/-- What stands before a mark, and what follows the mark if it is there. -/
def splitMark (mark : Char) (cs : List Char) : List Char × Option (List Char) :=
  match cs.span (· != mark) with
  | (before,[]) => (before,none)
  | (before,_ :: after) => (before,some after)

def split (cs : List Char) : Parts :=
  let (scheme,cs) := splitScheme cs
  let (authority,cs) := splitAuthority cs
  let (cs,fragment) := splitMark '#' cs
  let (path,query) := splitMark '?' cs
  ⟨scheme,authority,path,query,fragment⟩

/-- The text before the last occurrence of a character and the text after it. -/
def splitLast? (mark : Char) (cs : List Char) : Option (List Char × List Char) :=
  match cs.reverse.span (· != mark) with
  | (_,[]) => none
  | (after,_ :: before) => some (before.reverse,after.reverse)

/-- The host of an authority without user information, and the port after it. A host in brackets
ends at the last closing bracket. -/
def splitHost (cs : List Char) : List Char × List Char :=
  let (host,rest) :=
    match cs, splitLast? ']' cs with
    | '[' :: _, some (host,rest) => (host ++ [']'],rest)
    | _, _ => cs.span fun c => c != ':' && c != '@'
  (host,match rest with
    | ':' :: port => port
    | port => port)

def readHost (host : List Char) : Except Fault (List Char) :=
  if host.isEmpty then .ok []
  else if Address.looksVersion4 host then
    if Address.isVersion4 host then .ok host else .error (.badVersion4 (String.ofList host))
  else if host.head? = some '[' ∧ host.getLast? = some ']' then
    let address := host.tail.dropLast
    if Address.isVersion6 address then .ok address
    else .error (.badVersion6 (String.ofList host))
  else
    if host.all (·.toNat < 0x80) then .ok (Percent.encode Percent.inHost (host.map Char.toLower))
    else
      match DomainName.encode? (Text.small host) with
      | some name => .ok name
      | none => .error (.badName (String.ofList host))

def defaultPort? (scheme : String) : Option Int :=
  ([("ftp",21),("http",80),("https",443),("ws",80),("wss",443)] : List (String × Int)).lookup
    scheme

/-- The port that a text names, none if it is that of the scheme. -/
def readPort (scheme : String) (text : List Char) : Except Fault (Option Int) :=
  if text.isEmpty then .ok none
  else
    match Numeral.readInteger? text with
    | none => .error (.badPort (String.ofList text))
    | some port => .ok (if defaultPort? scheme = some port then none else some port)

/-- The segments of a path without dot segments. The first segment stays. -/
def dropDots (kept : List (List Char)) : List (List Char) → List (List Char)
  | [] => kept
  | ['.'] :: rest => dropDots kept rest
  | ['.','.'] :: rest => dropDots (if kept = [[]] then kept else kept.dropLast) rest
  | segment :: rest => dropDots (kept ++ [segment]) rest

def readPath (rooted : Bool) (path : List Char) : List Char :=
  let segments := Address.splitAtChar '/' path
  if rooted then ((dropDots [] segments).intersperse ['/']).flatten else path

/-- What stands in an authority. -/
structure Site where
  userInfo : List Char
  host : List Char
  port : Option Int
deriving DecidableEq, Repr

def Site.isEmpty (s : Site) : Bool := s.userInfo.isEmpty && s.host.isEmpty && s.port.isNone

def readSite (scheme : String) (authority : List Char) : Except Fault Site := do
  let (userInfo,hostAndPort) := (splitLast? '@' authority).getD ([],authority)
  let (host,port) := splitHost hostAndPort
  let host ← readHost host
  let port ← readPort scheme port
  return ⟨Percent.encode Percent.inUserInfo userInfo,host,port⟩

/-- The check of a path, by what stands before it. -/
def checkPath (hasScheme hasAuthority : Bool) (path : List Char) : Except Fault Unit :=
  if hasAuthority && !path.isEmpty && path.head? != some '/' then .error .rootless
  else if hasScheme || hasAuthority then .ok ()
  else if path.take 2 == ['/','/'] then .error .doubleSlash
  else if path.head? == some ':' then .error .leadingColon
  else .ok ()

def ofParts (parts : Parts) : Except Fault Url := do
  let hasScheme := !parts.scheme.isEmpty
  let site ← readSite (String.ofList parts.scheme) parts.authority
  checkPath hasScheme (!site.isEmpty) parts.path
  let path := readPath (hasScheme || !site.isEmpty) parts.path
  return {
    scheme := String.ofList (parts.scheme.map Char.toLower)
    userInfo := String.ofList site.userInfo
    host := String.ofList site.host
    port := site.port
    path := String.ofList (Percent.encode Percent.inPath path)
    query := parts.query.map fun q => String.ofList (Percent.encode Percent.inQuery q)
    fragment := parts.fragment.map fun f => String.ofList (Percent.encode Percent.inFragment f) }

def isControl (c : Char) : Bool := c.toNat < 0x20 || c.toNat == 0x7F

def read (text : String) : Except Fault Url :=
  let cs := text.toList
  if lengthLimit < cs.length then .error .tooLong
  else
    match cs.find? isControl with
    | some c => .error (.control c (cs.idxOf c))
    | none => ofParts (split cs)

/-- The text of host and port. A host with colons stands in brackets. -/
def hostAndPort (u : Url) : String :=
  (if u.host.toList.contains ':' then "[" ++ u.host ++ "]" else u.host) ++
    (match u.port with
      | some port => ":" ++ toString port
      | none => "")

def authority (u : Url) : String :=
  (if u.userInfo.isEmpty then "" else u.userInfo ++ "@") ++ u.hostAndPort

def text (u : Url) : String :=
  (if u.scheme.isEmpty then "" else u.scheme ++ ":") ++
    (if u.authority.isEmpty then "" else "//" ++ u.authority) ++ u.path ++
    (match u.query with
      | some query => "?" ++ query
      | none => "") ++
    (match u.fragment with
      | some fragment => "#" ++ fragment
      | none => "")

def target (u : Url) : String :=
  (if u.path.isEmpty then "/" else u.path) ++
    (match u.query with
      | some query => "?" ++ query
      | none => "")

def Parts.check (parts : Parts) : Except Fault Unit :=
  let named := [("scheme",parts.scheme),("authority",parts.authority),("path",parts.path),
    ("query",parts.query.getD []),("fragment",parts.fragment.getD [])]
  match named.find? fun part => lengthLimit < part.2.length with
  | some (name,_) => .error (.partTooLong name)
  | none => .ok ()

def withTarget (u : Url) (target : String) : Except Fault Url := do
  let (path,query) := splitMark '?' target.toList
  let parts : Parts :=
    ⟨u.scheme.toList,u.authority.toList,path,query,u.fragment.map String.toList⟩
  parts.check
  ofParts parts

def asBase (u : Url) : Except Fault Url :=
  if u.target.endsWith "/" then .ok u else u.withTarget (u.target ++ "/")

def below (base : Url) (path : String) : Except Fault Url :=
  base.withTarget (base.target ++ String.ofList (path.toList.dropWhile (· == '/')))

def credentials (u : Url) : String × String :=
  let (name,password) := splitMark ':' u.userInfo.toList
  (Percent.decode name,Percent.decode (password.getD []))

end Url
end ScopedAnalytics
