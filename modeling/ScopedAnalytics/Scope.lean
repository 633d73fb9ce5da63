import ScopedAnalytics.Catalog
import ScopedAnalytics.Uuid

/-! The single identifier that a request is scoped to. -/
namespace ScopedAnalytics

/-- An identifier as it is given: a text or an identifier proper. -/
inductive Identifier where
  | text (value : String)
  | uuid (value : Uuid)
deriving DecidableEq, Repr

def Identifier.shown : Identifier → String
  | text value => value
  | uuid value => value.text

structure Scope where
  id : String
  key : ScopeKey
deriving DecidableEq, Repr

structure Scope.Given where
  organization : Option Identifier
  project : Option Identifier
  collection : Option Identifier
deriving DecidableEq, Repr

namespace Scope.Given

def ofKey (given : Given) : ScopeKey → Option Identifier
  | .organization => given.organization
  | .project => given.project
  | .collection => given.collection

def put (key : ScopeKey) (id : Identifier) (given : Given) : Given :=
  match key with
  | .organization => { given with organization := some id }
  | .project => { given with project := some id }
  | .collection => { given with collection := some id }

end Scope.Given

/-- A request that gives `count` identifiers instead of one. -/
structure Scope.Ambiguous where
  count : Nat
deriving DecidableEq, Repr

def Scope.Ambiguous.message (a : Ambiguous) : String :=
  "exactly one of organization_id, project_id or collection_id must be provided, got " ++
    toString a.count

namespace Scope

/-- The scope that an identifier of a kind gives; one without text gives none. -/
def candidate? (id : Option Identifier) (key : ScopeKey) : Option Scope :=
  match id with
  | none => none
  | some id => if id.shown = "" then none else some ⟨id.shown,key⟩

def Given.candidates (given : Given) : List Scope :=
  (candidate? given.organization .organization).toList ++
    (candidate? given.project .project).toList ++
    (candidate? given.collection .collection).toList

def resolve (given : Given) : Except Ambiguous Scope :=
  match given.candidates with
  | [scope] => .ok scope
  | candidates => .error ⟨candidates.length⟩

end Scope
end ScopedAnalytics
