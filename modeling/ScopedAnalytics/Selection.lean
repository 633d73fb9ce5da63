import ScopedAnalytics.Catalog
import ScopedAnalytics.Document.Grammar

/-! Selections: what a request asks of each resource. A document selects a resource by a top-level
field of its name and asks by the fields inside; measures can be added to what it selects. There
is one selection for each resource, in the order in which resources are first asked for. -/
namespace ScopedAnalytics

/-- What is asked of one resource: measures, dimensions to group by, and whether a time series is
wanted rather than one aggregate. -/
structure Selection where
  resource : Resource
  measures : List Measure
  dimensions : List String
  hasTimestamp : Bool
deriving DecidableEq, Repr

inductive RequestedField where
  | count | organizationId | projectId | collectionId | timestamp
deriving DecidableEq, Repr

instance : Vocabulary RequestedField where
  title := "field"
  values := [.count,.organizationId,.projectId,.collectionId,.timestamp]
  word
    | .count => "count"
    | .organizationId => "organizationId"
    | .projectId => "projectId"
    | .collectionId => "collectionId"
    | .timestamp => "timestamp"

/-- A list with an item at its end unless it holds the item already. -/
def appendNew {α : Type} [DecidableEq α] (items : List α) (item : α) : List α :=
  if item ∈ items then items else items ++ [item]

namespace Document

mutual

/-- The fields that a node stands for, as their names and selection sets: a field itself, and the
fields of an inline fragment. A named fragment stands for none. -/
def Node.fields : Node → List (String × List Node)
  | .field _ name _ _ children => [(name,children.getD [])]
  | .spread _ _ => []
  | .inline _ _ children => fieldsOf children

def fieldsOf : List Node → List (String × List Node)
  | [] => []
  | node :: nodes => node.fields ++ fieldsOf nodes

end

/-- A place at which a document asks for a resource, with the names of the fields it asks for. -/
structure Mention where
  resource : Resource
  names : List String
deriving DecidableEq, Repr

/-- The mention that a top-level field is, if its name is that of a resource. -/
def mention? (field : String × List Node) : Option Mention :=
  (Resource.named? field.1).map fun resource => ⟨resource,(fieldsOf field.2).map (·.1)⟩

def mentions (nodes : List Node) : List Mention := (fieldsOf nodes).filterMap mention?

end Document

namespace Selection

def blank (resource : Resource) : Selection := ⟨resource,[],[],false⟩

def addMeasure (m : Measure) (s : Selection) : Selection :=
  { s with measures := appendNew s.measures m }

def addDimension (dimension : String) (s : Selection) : Selection :=
  { s with dimensions := appendNew s.dimensions dimension }

/-- The dimension of an identifier. That of the organization is held by the projects. -/
def dimensionOf (resource : Resource) : ScopeKey → String
  | .organization => Resource.projects.member ScopeKey.organization.name
  | key => resource.member key.name

def request (s : Selection) : RequestedField → Selection
  | .count => s.addMeasure ⟨s.resource,.count⟩
  | .organizationId => s.addDimension (dimensionOf s.resource .organization)
  | .projectId => s.addDimension (dimensionOf s.resource .project)
  | .collectionId => s.addDimension (dimensionOf s.resource .collection)
  | .timestamp => { s with hasTimestamp := true }

/-- The selection after the fields of the given names are asked for; other names ask nothing. -/
def requestAll (names : List String) (s : Selection) : Selection :=
  (names.filterMap Vocabulary.find?).foldl request s

end Selection

namespace Selections

/-- The selections after the one of a resource is changed, the last one if there are several. -/
def changeLast? (resource : Resource) (change : Selection → Selection) :
    List Selection → Option (List Selection)
  | [] => none
  | s :: rest =>
    match changeLast? resource change rest with
    | some changed => some (s :: changed)
    | none => if s.resource = resource then some (change s :: rest) else none

/-- The selections after the one of a resource is changed, which at first asks nothing and stands
at the end. -/
def adjust (resource : Resource) (change : Selection → Selection) (selections : List Selection) :
    List Selection :=
  (changeLast? resource change selections).getD (selections ++ [change (.blank resource)])

def addMention (selections : List Selection) (mention : Document.Mention) : List Selection :=
  adjust mention.resource (Selection.requestAll mention.names) selections

def extract (nodes : List Document.Node) : List Selection :=
  (Document.mentions nodes).foldl addMention []

def addMeasures (selections : List Selection) (measures : List Measure) : List Selection :=
  measures.foldl (fun selections m => adjust m.resource (Selection.addMeasure m) selections)
    selections

end Selections

inductive SelectionFault where
  | unreadable (fault : Document.Fault)
  | noOperation
deriving DecidableEq, Repr

def SelectionFault.message : SelectionFault → String
  | unreadable fault => "invalid selection: " ++ fault.message
  | noOperation => "selection document has no operation"

def Selections.readNodes (text : String) : Except SelectionFault (List Document.Node) :=
  match Document.read text with
  | .error fault => .error (.unreadable fault)
  | .ok definitions =>
    match Document.firstOperation? definitions with
    | some nodes => .ok nodes
    | none => .error .noOperation

end ScopedAnalytics
