/-! Selection documents: operations that select fields, fragments, and definitions of a type
system, which are recognised and carry no content here. -/
namespace ScopedAnalytics.Document

inductive Literal where
  | variable (name : String)
  | int (digits : String)
  | float (digits : String)
  | text (value : String)
  | bool (value : Bool)
  | null
  | enum (name : String)
  | list (items : List Literal)
  | object (fields : List (String × Literal))
deriving Repr

namespace Literal

mutual

def same : Literal → Literal → Bool
  | .variable a, .variable b | int a, int b | float a, float b | text a, text b | enum a, enum b => a == b
  | bool a, bool b => a == b
  | null, null => true
  | list as, list bs => sameItems as bs
  | object as, object bs => sameFields as bs
  | _, _ => false

def sameItems : List Literal → List Literal → Bool
  | [], [] => true
  | a :: as, b :: bs => same a b && sameItems as bs
  | _, _ => false

def sameFields : List (String × Literal) → List (String × Literal) → Bool
  | [], [] => true
  | (name,a) :: as, (other,b) :: bs => name == other && same a b && sameFields as bs
  | _, _ => false

end

mutual

theorem same_iff : (a b : Literal) → (same a b = true ↔ a = b)
  | .variable _, b | int _, b | float _, b | text _, b | bool _, b | null, b | enum _, b => by
    cases b <;> simp [same]
  | list as, b => by
    cases b with
    | list bs => rw [same,sameItems_iff as bs,list.injEq]
    | _ => simp [same]
  | object as, b => by
    cases b with
    | object bs => rw [same,sameFields_iff as bs,object.injEq]
    | _ => simp [same]

theorem sameItems_iff : (as bs : List Literal) → (sameItems as bs = true ↔ as = bs)
  | [], bs => by cases bs <;> simp [sameItems]
  | a :: as, [] => by simp [sameItems]
  | a :: as, b :: bs => by
    rw [sameItems,Bool.and_eq_true,same_iff a b,sameItems_iff as bs,List.cons.injEq]

theorem sameFields_iff : (as bs : List (String × Literal)) → (sameFields as bs = true ↔ as = bs)
  | [], bs => by cases bs <;> simp [sameFields]
  | _ :: _, [] => by simp [sameFields]
  | (name,a) :: as, (other,b) :: bs => by
    rw [sameFields,Bool.and_eq_true,Bool.and_eq_true,beq_iff_eq,same_iff a b,sameFields_iff as bs,
      List.cons.injEq,Prod.mk.injEq]

end

instance : DecidableEq Literal := fun a b => decidable_of_iff _ (same_iff a b)

end Literal

structure Argument where
  name : String
  value : Literal
deriving DecidableEq, Repr

structure Directive where
  name : String
  arguments : List Argument
deriving DecidableEq, Repr

/-- One entry of a selection set: a field, the spread of a named fragment, or an inline
fragment. -/
inductive Node where
  | field (label : Option String) (name : String) (arguments : List Argument)
      (directives : List Directive) (children : Option (List Node))
  | spread (name : String) (directives : List Directive)
  | inline (condition : Option String) (directives : List Directive) (children : List Node)
deriving Repr

namespace Node

mutual

def same : Node → Node → Bool
  | field label name arguments directives children,
    field label' name' arguments' directives' children' =>
      label == label' && name == name' && arguments == arguments' && directives == directives' &&
        sameChildren children children'
  | spread name directives, spread name' directives' => name == name' && directives == directives'
  | inline condition directives children, inline condition' directives' children' =>
    condition == condition' && directives == directives' && sameAll children children'
  | _, _ => false

def sameAll : List Node → List Node → Bool
  | [], [] => true
  | a :: as, b :: bs => same a b && sameAll as bs
  | _, _ => false

def sameChildren : Option (List Node) → Option (List Node) → Bool
  | none, none => true
  | some as, some bs => sameAll as bs
  | _, _ => false

end

mutual

theorem same_iff : (a b : Node) → (same a b = true ↔ a = b)
  | field _ _ _ _ children, b => by
    cases b with
    | field label name arguments directives children' =>
      simp [same,sameChildren_iff children children',and_assoc]
    | _ => simp [same]
  | spread _ _, b => by cases b <;> simp [same]
  | inline _ _ children, b => by
    cases b with
    | inline condition directives children' => simp [same,sameAll_iff children children',and_assoc]
    | _ => simp [same]

theorem sameAll_iff : (as bs : List Node) → (sameAll as bs = true ↔ as = bs)
  | [], bs => by cases bs <;> simp [sameAll]
  | _ :: _, [] => by simp [sameAll]
  | a :: as, b :: bs => by rw [sameAll,Bool.and_eq_true,same_iff a b,sameAll_iff as bs,List.cons.injEq]

theorem sameChildren_iff : (as bs : Option (List Node)) → (sameChildren as bs = true ↔ as = bs)
  | none, bs => by cases bs <;> simp [sameChildren]
  | some as, none => by simp [sameChildren]
  | some as, some bs => by rw [sameChildren,sameAll_iff as bs,Option.some.injEq]

end

instance : DecidableEq Node := fun a b => decidable_of_iff _ (same_iff a b)

end Node

inductive OperationKind where
  | query | mutation | subscription
deriving DecidableEq, Repr

inductive Definition where
  | operation (kind : OperationKind) (name : Option String) (nodes : List Node)
  | fragment (name : String) (condition : String) (nodes : List Node)
  | typeSystem
deriving DecidableEq, Repr

def Definition.operationNodes? : Definition → Option (List Node)
  | operation _ _ nodes => some nodes
  | _ => none

def firstOperation? (definitions : List Definition) : Option (List Node) :=
  definitions.findSome? Definition.operationNodes?

end ScopedAnalytics.Document
