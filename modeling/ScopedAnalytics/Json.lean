import ScopedAnalytics.Numeral.Shortest
import ScopedAnalytics.Text.Quoted

/-! JSON values. Integers are unbounded and apart from floating-point numbers, and an object keeps
its members in the order in which their names first appeared. -/
namespace ScopedAnalytics

inductive Json where
  | null
  | bool (value : Bool)
  | int (value : Int)
  | float (value : Binary64)
  | text (value : Text)
  | list (items : List Json)
  | object (members : List (Text × Json))
deriving Repr

namespace Json

mutual

def same : Json → Json → Bool
  | null, null => true
  | bool a, bool b => a == b
  | int a, int b => a == b
  | float a, float b => a == b
  | text a, text b => a == b
  | list as, list bs => sameItems as bs
  | object as, object bs => sameMembers as bs
  | _, _ => false

def sameItems : List Json → List Json → Bool
  | [], [] => true
  | a :: as, b :: bs => same a b && sameItems as bs
  | _, _ => false

def sameMembers : List (Text × Json) → List (Text × Json) → Bool
  | [], [] => true
  | (name,a) :: as, (other,b) :: bs => name == other && same a b && sameMembers as bs
  | _, _ => false

end

mutual

theorem same_iff : (a b : Json) → (same a b = true ↔ a = b)
  | null, b => by cases b <;> simp [same]
  | bool _, b => by cases b <;> simp [same]
  | int _, b => by cases b <;> simp [same]
  | float _, b => by cases b <;> simp [same]
  | text _, b => by cases b <;> simp [same]
  | list as, b => by
    cases b with
    | list bs => rw [same,sameItems_iff as bs,list.injEq]
    | _ => simp [same]
  | object as, b => by
    cases b with
    | object bs => rw [same,sameMembers_iff as bs,object.injEq]
    | _ => simp [same]

theorem sameItems_iff : (as bs : List Json) → (sameItems as bs = true ↔ as = bs)
  | [], bs => by cases bs <;> simp [sameItems]
  | a :: as, bs => by
    cases bs with
    | nil => simp [sameItems]
    | cons b bs => rw [sameItems,Bool.and_eq_true,same_iff a b,sameItems_iff as bs,List.cons.injEq]

theorem sameMembers_iff : (as bs : List (Text × Json)) → (sameMembers as bs = true ↔ as = bs)
  | [], bs => by cases bs <;> simp [sameMembers]
  | (name,a) :: as, bs => by
    cases bs with
    | nil => simp [sameMembers]
    | cons member bs =>
      rw [sameMembers,Bool.and_eq_true,Bool.and_eq_true,beq_iff_eq,same_iff a member.2,
        sameMembers_iff as bs,List.cons.injEq,Prod.ext_iff]

end

instance : DecidableEq Json := fun a b => decidable_of_iff _ (same_iff a b)

def str (s : String) : Json := text (Text.ofString s)

def strs (items : List String) : Json := list (items.map str)

def ofMembers (members : List (String × Json)) : Json :=
  object (members.map fun member => (Text.ofString member.1,member.2))

def member? (members : List (Text × Json)) (name : String) : Option Json :=
  (members.find? fun member => member.1.isString name).map (·.2)

/-- The members after one is set: a name that is present keeps its place and takes the value. -/
def setMember (members : List (Text × Json)) (name : Text) (value : Json) : List (Text × Json) :=
  if members.any (·.1 == name) then
    members.map fun member => if member.1 == name then (name,value) else member
  else members ++ [(name,value)]

def separated (separator : String) : List String → String
  | [] => ""
  | [item] => item
  | item :: rest => item ++ separator ++ separated separator rest

mutual

/-- What is told of a value. It is one whose integers can be written, as all are that were read. -/
def literal : Json → String
  | null => "None"
  | bool value => if value then "True" else "False"
  | int value => toString value
  | float value => value.text
  | text value => value.quoted
  | list items => "[" ++ separated ", " (literals items) ++ "]"
  | object members => "\x7b" ++ separated ", " (memberLiterals members) ++ "\x7d"

def literals : List Json → List String
  | [] => []
  | item :: items => literal item :: literals items

def memberLiterals : List (Text × Json) → List String
  | [] => []
  | (name,value) :: members =>
    (name.quoted ++ ": " ++ literal value) :: memberLiterals members

end

/-- The text of a value in running text: a text is itself, all else its literal. -/
def shown : Json → Text
  | text value => value
  | value => value.literal

end Json
end ScopedAnalytics
