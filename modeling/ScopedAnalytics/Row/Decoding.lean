import ScopedAnalytics.Calendar.Timestamp
import ScopedAnalytics.Catalog
import ScopedAnalytics.Failure
import ScopedAnalytics.Json.Writer
import ScopedAnalytics.Numeral.Decimal
import ScopedAnalytics.Row

/-! Rows decoded from the JSON objects of a response. Each field is read under the member name
that a query asks for it by, and a field's value is accepted only in the forms that its reader
states. -/
namespace ScopedAnalytics

inductive Undecodable where
  | invalid (field : String) (value : Json)
  | negativeCount (value : Json)
  | changeTooLarge
  | rowNotObject (resource : Resource) (value : Json)
  | bodyNotJson
  | bodyNotObject
  | noResultSet
  | noDataArray

namespace Undecodable

def message : Undecodable → String
  | invalid field value => "invalid " ++ field ++ ": " ++ value.literal
  | negativeCount value => "negative count: " ++ value.literal
  | changeTooLarge => "int too large to convert to float"
  | rowNotObject resource value => resource.name ++ " row is not an object: " ++ value.literal
  | bodyNotJson => "cube response is not valid JSON"
  | bodyNotObject => "response body is not an object"
  | noResultSet => "response has no result set"
  | noDataArray => "result set has no data array"

/-- An integer change beyond the floating-point numbers is no decoding failure but passes
through. -/
def kind : Undecodable → Failure.Kind
  | changeTooLarge => .tooLarge
  | _ => .undecodable

/-- The value that the message tells of, if it tells of one. -/
def value? : Undecodable → Option Json
  | invalid _ value | negativeCount value | rowNotObject _ value => some value
  | _ => none

/-- What is raised. A message cannot be made of a value that cannot be written. -/
def failure (u : Undecodable) : Failure :=
  if u.value?.all Json.isWritable then ⟨u.kind,u.message⟩ else .unwritable

end Undecodable

namespace Row

/-- A count: an integer or the text of one, not negative. -/
def decodeCount (value : Json) : Except Undecodable (Option Int) :=
  let accept (n : Int) := if n < 0 then .error (.negativeCount value) else .ok (some n)
  match value with
  | .null => .ok none
  | .int n => accept n
  | .text t =>
    match t.chars? >>= Numeral.readInteger? with
    | some n => accept n
    | none => .error (.invalid "count" value)
  | _ => .error (.invalid "count" value)

def integerChange (n : Int) : Except Undecodable (Option Binary64) :=
  (Binary64.ofInt? n).elim (.error .changeTooLarge) fun x => .ok (some x)

/-- A change: a number or the text of one, not infinite and not undefined. -/
def decodeChange (value : Json) : Except Undecodable (Option Binary64) :=
  let accept (x : Binary64) :=
    if x.isFinite then .ok (some x) else .error (.invalid "change" value)
  match value with
  | .null => .ok none
  | .float x => accept x
  | .int n => integerChange n
  | .text t =>
    match t.chars? >>= Numeral.readBinary64? with
    | some x => accept x
    | none => .error (.invalid "change" value)
  | _ => .error (.invalid "change" value)

def decodeText {α : Type} (field : String) (read? : List Char → Option α) (value : Json) :
    Except Undecodable (Option α) :=
  match value with
  | .null => .ok none
  | .text t =>
    match t.chars? >>= read? with
    | some x => .ok (some x)
    | none => .error (.invalid field value)
  | _ => .error (.invalid field value)

def decodeUuid (value : Json) : Except Undecodable (Option Uuid) :=
  decodeText "uuid" Uuid.read? value

def decodeTimestamp (value : Json) : Except Undecodable (Option DateTime) :=
  decodeText "timestamp" DateTime.read? value

def valueOf (members : List (Text × Json)) (name : String) : Json :=
  (Json.member? members name).getD .null

/-- The value of a row's timestamp: that of the plain member, or else of the first member whose
name continues the plain name after a point. -/
def timestampValue (resource : Resource) (members : List (Text × Json)) : Json :=
  let name := resource.member "timestamp"
  match Json.member? members name with
  | some value => value
  | none =>
    ((members.find? fun member => member.1.startsWith (name ++ ".")).map (·.2)).getD .null

def decodeMembers (resource : Resource) (members : List (Text × Json)) :
    Except Undecodable Row := do
  let count ← decodeCount (valueOf members (resource.member "count"))
  let change ← decodeChange (valueOf members (resource.member "change"))
  let organizationId ←
    decodeUuid (valueOf members (Resource.projects.member ScopeKey.organization.name))
  let projectId ← decodeUuid (valueOf members (resource.member ScopeKey.project.name))
  let collectionId ← decodeUuid (valueOf members (resource.member ScopeKey.collection.name))
  let timestamp ← decodeTimestamp (timestampValue resource members)
  return ⟨count,change,organizationId,projectId,collectionId,timestamp⟩

def decode (resource : Resource) : Json → Except Undecodable Row
  | .object members => decodeMembers resource members
  | value => .error (.rowNotObject resource value)

def decodeAll (resource : Resource) (data : List Json) : Except Undecodable (List Row) :=
  data.mapM (decode resource)

end Row

namespace Response

def data (body : Json) : Except Undecodable (List Json) :=
  match body with
  | .object members =>
    match Json.member? members "results" with
    | some (.list (.object first :: _)) =>
      match Json.member? first "data" with
      | some (.list data) => .ok data
      | _ => .error .noDataArray
    | some (.list (_ :: _)) => .error .noDataArray
    | _ => .error .noResultSet
  | _ => .error .bodyNotObject

def rows (resource : Resource) (body : Json) : Except Undecodable (List Row) := do
  Row.decodeAll resource (← data body)

end Response
end ScopedAnalytics
