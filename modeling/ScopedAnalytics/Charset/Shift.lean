/-! The charset of seven bits in which a plus sign turns to digits of base 64 and any other
character turns back. The digits are those of units of 16 bits, of which two can be the halves of
one code point. -/
namespace ScopedAnalytics.Charset

def digit64? (b : Nat) : Option Nat :=
  if 0x41 ≤ b ∧ b ≤ 0x5A then some (b - 0x41)
  else if 0x61 ≤ b ∧ b ≤ 0x7A then some (b - 0x61 + 26)
  else if 0x30 ≤ b ∧ b ≤ 0x39 then some (b - 0x30 + 52)
  else if b = 0x2B then some 62
  else if b = 0x2F then some 63
  else none

/-- What digits have left: some bits, and a first half that waits for a second one. -/
structure Shift where
  size : Nat := 0
  bits : Nat := 0
  half : Option Nat := none

namespace Shift

/-- The code points that one more unit completes, and the half that then waits. -/
def addUnit (half : Option Nat) (unit : Nat) : List Nat × Option Nat :=
  let isFirst := 0xD800 ≤ unit && unit < 0xDC00
  match half with
  | some first =>
    if 0xDC00 ≤ unit ∧ unit < 0xE000 then
      ([0x10000 + (first - 0xD800) * 0x400 + (unit - 0xDC00)],none)
    else if isFirst then ([first],some unit)
    else ([first,unit],none)
  | none => if isFirst then ([],some unit) else ([unit],none)

/-- The code points that one more digit completes, and what is left. -/
def add (s : Shift) (value : Nat) : List Nat × Shift :=
  let size := s.size + 6
  let bits := s.bits * 64 + value
  if 16 ≤ size then
    let (points,half) := addUnit s.half (bits / Nat.pow 2 (size - 16))
    (points,⟨size - 16,bits % Nat.pow 2 (size - 16),half⟩)
  else ([],⟨size,bits,s.half⟩)

def hasRest (s : Shift) : Bool := 6 ≤ s.size || s.bits != 0

def decode (shift : Option Shift) : List Nat → List (Option Nat)
  | [] =>
    match shift with
    | some s => if s.hasRest || s.half.isSome then [none] else []
    | none => []
  | b :: rest =>
    match shift with
    | some s =>
      match digit64? b with
      | some value =>
        let (points,s) := s.add value
        points.map some ++ decode (some s) rest
      | none =>
        if s.hasRest then none :: decode none rest
        else if 0x80 ≤ b then none :: decode none rest
        else s.half.toList.map some ++ (if b = 0x2D then [] else [some b]) ++ decode none rest
    | none =>
      if 0x80 ≤ b then none :: decode none rest
      else if b = 0x2B then
        match rest with
        | [] => []
        | c :: further =>
          if c = 0x2D then some b :: decode none further
          else if (digit64? c).isNone then none :: decode none further
          else decode (some ⟨0,0,none⟩) (c :: further)
      else some b :: decode none rest

end Shift
end ScopedAnalytics.Charset
