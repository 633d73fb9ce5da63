import ScopedAnalytics.Calendar.DateTime
import ScopedAnalytics.Json
import ScopedAnalytics.Uuid

/-! Rows of a resource's result set. Every field is optional, since not every resource carries
every dimension. -/
namespace ScopedAnalytics

/-- One row. The change is the difference to the period before and may be negative. -/
structure Row where
  count : Option Int
  change : Option Binary64
  organizationId : Option Uuid
  projectId : Option Uuid
  collectionId : Option Uuid
  timestamp : Option DateTime
deriving DecidableEq, Repr

namespace Row

def empty : Row := ⟨none,none,none,none,none,none⟩

def field {α : Type} (name : String) (encode : α → Json) (value : Option α) :
    List (String × Json) :=
  match value with
  | some value => [(name,encode value)]
  | none => []

def members (r : Row) : List (String × Json) :=
  field "count" .int r.count ++ field "change" .float r.change ++
    field "organizationId" (fun id => .str id.text) r.organizationId ++
    field "projectId" (fun id => .str id.text) r.projectId ++
    field "collectionId" (fun id => .str id.text) r.collectionId ++
    field "timestamp" (fun t => .str t.iso) r.timestamp

def toJson (r : Row) : Json := .ofMembers r.members

/-- Whether two changes are equal as numbers, a missing one only to a missing one. -/
def sameChange : Option Binary64 → Option Binary64 → Bool
  | some x, some y => x.sameValue y
  | none, none => true
  | _, _ => false

/-- Whether two rows are equal field by field, their changes as numbers. -/
def same (a b : Row) : Bool :=
  a.count == b.count && sameChange a.change b.change &&
    a.organizationId == b.organizationId && a.projectId == b.projectId &&
    a.collectionId == b.collectionId && a.timestamp == b.timestamp

end Row
end ScopedAnalytics
