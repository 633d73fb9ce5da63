import ScopedAnalytics.Catalog
import ScopedAnalytics.Text.DecimalDigit

/-! The flags of the command line and how an argument can spell one. A flag can be spelled by any
beginning of its name that no other flag's name has, and its value can follow an equals sign. -/
namespace ScopedAnalytics

inductive Flag where
  | help | organization | project | collection | interval | start | finish | granularity | order
  | limit | measure | baseUrl | layerTimeout | requestTimeout | level | form
deriving DecidableEq, Repr

namespace Flag

def spellings : List (String × Flag) :=
  [("-h",help),("--help",help),("--organization-id",organization),("--project-id",project),
    ("--collection-id",collection),("--interval",interval),("--start",start),("--end",finish),
    ("--granularity",granularity),("--order",order),("--limit",limit),("--measure",measure),
    ("--cube.base-url",baseUrl),("--cube.timeout",layerTimeout),
    ("--request.timeout",requestTimeout),("--log.level",level),("--log.format",form)]

def title (flag : Flag) : String :=
  String.intercalate "/" ((spellings.filter (·.2 == flag)).map (·.1))

end Flag

/-- An argument of the command line, by what it can be. The flag of an argument may be one in a
cluster of letters after one hyphen, and its value may follow in the same argument. -/
inductive Argument.Kind where
  | word
  | divider
  | flag (flag : Flag) (inCluster : Bool) (value : Option String)
  | unknown
deriving DecidableEq, Repr

/-- An argument that could be the beginning of several spellings. -/
structure Argument.Ambiguous where
  text : String
  spellings : List String
deriving DecidableEq, Repr

namespace Argument

/-- The divider, after which all arguments are words. -/
def divider : String := "--"

def isLetter (spelling : String) : Bool := spelling.toList.length == 2

def splitEquals (text : String) : String × Option String :=
  match text.toList.span (· != '=') with
  | (name,[]) => (String.ofList name,none)
  | (name,_ :: value) => (String.ofList name,some (String.ofList value))

def longMatches (text : String) : List (String × Kind) :=
  let (name,value) := splitEquals text
  (Flag.spellings.filter fun entry => name.toList.isPrefixOf entry.1.toList).map fun entry =>
    (entry.1,.flag entry.2 (isLetter entry.1) value)

/-- The flags that an argument after one hyphen can be: that of its first letter, the rest being
the value, and those it is the beginning of. -/
def shortMatches (text : String) : List (String × Kind) :=
  let first := String.ofList (text.toList.take 2)
  let rest := String.ofList (text.toList.drop 2)
  Flag.spellings.filterMap fun entry =>
    if entry.1 = first then some (entry.1,.flag entry.2 true (some rest))
    else if text.toList.isPrefixOf entry.1.toList then
      some (entry.1,.flag entry.2 (isLetter entry.1) none)
    else none

def areDigits (cs : List Char) : Bool := !cs.isEmpty && cs.all Text.isDecimal

/-- Whether a text looks like a negative number: digits after a hyphen, or digits after a point
with or without others before it. One line break may follow. -/
def looksNegative (text : String) : Bool :=
  match text.toList with
  | '-' :: rest =>
    let rest := if rest.getLast? = some '\n' then rest.dropLast else rest
    areDigits rest ||
      match rest.span (· != '.') with
      | (whole,_ :: places) => whole.all Text.isDecimal && areDigits places
      | _ => false
  | _ => false

def classify (text : String) : Except Ambiguous Kind :=
  match text.toList with
  | ['-','-'] => .ok .divider
  | '-' :: second :: _ =>
    let (name,value) := splitEquals text
    match Flag.spellings.lookup text, value, Flag.spellings.lookup name with
    | some flag, _, _ => .ok (.flag flag (isLetter text) none)
    | none, some value, some flag => .ok (.flag flag (isLetter name) (some value))
    | none, _, _ =>
      match if second = '-' then longMatches text else shortMatches text with
      | [(_,kind)] => .ok kind
      | [] => .ok (if looksNegative text || text.contains ' ' then .word else .unknown)
      | several => .error ⟨text,several.map (·.1)⟩
  | _ => .ok .word

/-- The arguments with what they can be. After the divider all are words. -/
def classifyAll : List String → Except Ambiguous (List (String × Kind))
  | [] => .ok []
  | text :: rest => do
    let kind ← classify text
    if kind = .divider then return (text,kind) :: rest.map fun text => (text,.word)
    return (text,kind) :: (← classifyAll rest)

end Argument
end ScopedAnalytics
