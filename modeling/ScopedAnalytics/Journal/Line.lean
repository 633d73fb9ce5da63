import ScopedAnalytics.Journal
import ScopedAnalytics.Json.Writer
import ScopedAnalytics.Text.Lines

/-! The lines of a journal. An entry is written as one JSON object or, for a console, as a text
whose first part shows the entry and whose further lines show a stack and the course of an
exception, where the entry has fields of these names. -/
namespace ScopedAnalytics

namespace Json

def typeName : Json → String
  | null => "NoneType"
  | bool _ => "bool"
  | int _ => "int"
  | float _ => "float"
  | text _ => "str"
  | list _ => "list"
  | object _ => "dict"

/-- Whether a value counts as true: it is neither zero nor empty. -/
def isTruthy : Json → Bool
  | null => false
  | bool value => value
  | int value => value != 0
  | float value => value != .zero false && value != .zero true
  | text value => !value.letters.isEmpty
  | list items => !items.isEmpty
  | object members => !members.isEmpty

end Json

inductive LineForm where
  | console | json
deriving DecidableEq, Repr

instance : Vocabulary LineForm where
  title := "form"
  values := [.console,.json]
  word
    | .console => "console"
    | .json => "json"

inductive Journal.Fault where
  | taken (action name : String)
  | nameless (found : Json)
  | notText (found : Json)
  | unwritable

namespace Journal

def Fault.message : Fault → String
  | taken action name =>
    "BoundLogger." ++ action ++ "() got multiple values for argument " ++ quoted name
  | nameless found => "'" ++ found.typeName ++ "' object has no attribute 'name'"
  | notText found => "can only concatenate str (not \"" ++ found.typeName ++ "\") to str"
  | unwritable => Numeral.unwritable

def Fault.failure (f : Fault) : Failure :=
  ⟨match f with
    | taken _ _ | notText _ => .wrongType
    | nameless _ => .missingMember
    | unwritable => .invalidValue,f.message⟩

/-- The name of the part that has the given name; without one it is the root of all parts. -/
def loggerName (name : String) : String := if name.isEmpty then "root" else name

def kept (threshold : Nat) (entries : List Entry) : List Entry :=
  entries.filter fun entry => threshold ≤ entry.level.rank

def field? (entry : Entry) (name : String) : Option Json := entry.fields.lookup name

/-- Whether an entry can be made. No field may have a name that its maker needs for itself, nor one
under which a record with a name of its own is looked for. -/
def checkNames (entry : Entry) : Except Fault Unit :=
  match entry.fields.find? fun field => field.1 = "event" ∨ field.1 = "self" with
  | some (name,_) => .error (.taken entry.level.name name)
  | none =>
    if (field? entry "method_name").isSome then .error (.taken "_proxy_to_logger" "method_name")
    else
      match field? entry "_record" with
      | none | some .null => .ok ()
      | some found => .error (.nameless found)

/-- The names that a line has for its own members and its exception. -/
def reserved : List String := ["event","level","logger","timestamp","exception","exc_info"]

/-- The object that an entry is written as, without the time and the course of an exception. The
members of the line itself replace fields of their names. -/
def line (entry : Entry) : List (String × Json) :=
  entry.fields.filter (fun field => !reserved.contains field.1) ++
    [("event",.str entry.event),("level",.str entry.level.name),("logger",.str entry.logger)]

/-- Whether the course of an exception is written, in the place of a field of that name. -/
def tellsCourse (entry : Entry) : Bool :=
  entry.isException && ((field? entry "exc_info").map Json.isTruthy).getD true

def showsException (entry : Entry) : Bool :=
  tellsCourse entry || (field? entry "exception").isSome

/-- The values that an entry brings to its JSON line: those of all fields that nothing replaces. -/
def lineValues (entry : Entry) : List Json :=
  let replaced := if tellsCourse entry then reserved else reserved.erase "exception"
  (entry.fields.filter fun field => !replaced.contains field.1).map (·.2)

def jsonText (entry : Entry) : Except Fault String :=
  if (lineValues entry).all Json.isWritable then
    .ok ((Json.ofMembers (line entry)).writtenAt false 0)
  else .error .unwritable

def needsQuotes (value : Text) : Bool :=
  value.letters.any fun letter =>
    [' ','\t','=','\r','\n','"','\''].any fun c => letter == .char c

def consoleValue (value : Json) : String :=
  match value with
  | .text text => if needsQuotes text then text.quoted else text.shown
  | value => value.literal

def section? (entry : Entry) (name : String) : Except Fault (Option String) :=
  match field? entry name with
  | none | some .null => .ok none
  | some (.text text) => .ok (some text.shown)
  | some found => .error (.notText found)

/-- The text of an entry on a console. A stack is set apart from the exception after it. -/
def consoleText (entry : Entry) : Except Fault String := do
  let plain := entry.fields.filter fun field =>
    !("stack" :: "logger_name" :: reserved).contains field.1
  let shown := plain.map (·.2) ++ (field? entry "logger_name").toList
  unless shown.all Json.isWritable do throw .unwritable
  let names := [entry.logger] ++ ((field? entry "logger_name").map (Json.shown · |>.shown)).toList
  let head := String.intercalate " " (("[" ++ entry.level.name ++ "]") :: entry.event ::
    names.map (fun name => "[" ++ name ++ "]") ++
    plain.map fun field => field.1 ++ "=" ++ consoleValue field.2)
  match ← section? entry "stack", ← section? entry "exception" with
  | none, none => return head
  | none, some course => return head ++ "\n" ++ course
  | some stack, none =>
    let rule := if ((field? entry "exc_info").map Json.isTruthy).getD false then
      "\n\n" ++ String.ofList (List.replicate 79 '=') ++ "\n" else ""
    return head ++ "\n" ++ stack ++ rule
  | some stack, some course =>
    return head ++ "\n" ++ stack ++ "\n\n" ++ String.ofList (List.replicate 79 '=') ++ "\n\n" ++
      course

def written (form : LineForm) (entry : Entry) : Except Fault String := do
  checkNames entry
  match form with
  | .json => jsonText entry
  | .console => consoleText entry

/-- The texts of a journal. An entry has to be writable even if it is not kept. -/
def texts (form : LineForm) (threshold : Nat) (entries : List Entry) :
    Except Fault (List String) := do
  let _ ← entries.mapM (written form)
  (kept threshold entries).mapM (written form)

/-- The number of lines that a text takes with the line end after it. -/
def lineCount (text : String) : Nat := (Text.lines (text.toList ++ ['\n'])).length

end Journal
end ScopedAnalytics
