/-! Reading of bytes, a few at a time, where those before can change what the next ones mean. -/
namespace ScopedAnalytics.Charset

/-- What bytes begin with: some that stand for code points, some that stand for none, the beginning
of what would need more bytes, or some that cannot be read at all. -/
inductive Reading (State : Type) where
  | stands (points : List Nat) (size : Nat) (state : State)
  | wrong (size : Nat)
  | short
  | stuck
deriving DecidableEq, Repr

/-- What bytes stand for. Each part that stands for no code point is missing. At the end some bytes
may be pending, the beginning of what would need more, and reading may have got stuck before. -/
structure Decoded where
  points : List (Option Nat)
  pending : Nat := 0
  stuck : Bool := false
deriving DecidableEq, Repr

namespace Decoded

def after (points : List (Option Nat)) (d : Decoded) : Decoded :=
  { d with points := points ++ d.points }

def all? (d : Decoded) : Option (List Nat) :=
  if d.pending = 0 ∧ !d.stuck then d.points.mapM id else none

def replaced (d : Decoded) : List Nat :=
  d.points.map (·.getD 0xFFFD) ++ if d.pending = 0 then [] else [0xFFFD]

end Decoded

def readAll {State : Type} (read : State → List Nat → Reading State) (state : State) :
    List Nat → Decoded
  | [] => ⟨[],0,false⟩
  | b :: rest =>
    match read state (b :: rest) with
    | .stands points size next => (readAll read next (rest.drop (size - 1))).after (points.map some)
    | .wrong size => (readAll read state (rest.drop (size - 1))).after [none]
    | .short => ⟨[],(b :: rest).length,false⟩
    | .stuck => ⟨[],0,true⟩
termination_by bytes => bytes.length
decreasing_by all_goals (simp only [List.length_drop,List.length_cons]; omega)

/-- A part of a given size that stands for one code point, or else is wrong in its first byte. -/
def Reading.ofPoint? {State : Type} (point? : Option Nat) (size : Nat) (state : State) :
    Reading State :=
  match point? with
  | some point => .stands [point] size state
  | none => .wrong 1

def readPair (point? : Nat → Nat → Option Nat) : List Nat → Reading Unit
  | [] => .short
  | a :: rest =>
    if a < 0x80 then .stands [a] 1 ()
    else
      match rest with
      | [] => .short
      | b :: _ => .ofPoint? (point? a b) 2 ()

end ScopedAnalytics.Charset
