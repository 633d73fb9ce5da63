import ScopedAnalytics.Charset.Reading
import ScopedAnalytics.Charset.Table.Jis0208
import ScopedAnalytics.Charset.Table.Jis0212
import ScopedAnalytics.Charset.Table.Jis0213
import ScopedAnalytics.Charset.Table.Windows932

/-! Japanese charsets. A place in a plane of 94 rows with 94 cells is given by two bytes from `0x21`
to `0x7E`; the charsets encode places, or else katakana in single bytes. -/
namespace ScopedAnalytics.Charset

inductive Edition where
  | first | second
deriving DecidableEq, Repr

namespace Japanese

/-- The katakana of half width that a byte of the upper half stands for. -/
def katakana? (b : Nat) : Option Nat := if 0xA1 ≤ b ∧ b ≤ 0xDF then some (0xFEC0 + b) else none

/-- The character of a byte in the national variant of ASCII. -/
def roman (b : Nat) : Nat := if b = 0x5C then 0xA5 else if b = 0x7E then 0x203E else b

/-- The places of the first plane that stand for two code points each. -/
def composed : List (Nat × List Nat) :=
  [(0x2477,[0x304B,0x309A]),(0x2478,[0x304D,0x309A]),(0x2479,[0x304F,0x309A]),
    (0x247A,[0x3051,0x309A]),(0x247B,[0x3053,0x309A]),(0x2577,[0x30AB,0x309A]),
    (0x2578,[0x30AD,0x309A]),(0x2579,[0x30AF,0x309A]),(0x257A,[0x30B1,0x309A]),
    (0x257B,[0x30B3,0x309A]),(0x257C,[0x30BB,0x309A]),(0x257D,[0x30C4,0x309A]),
    (0x257E,[0x30C8,0x309A]),(0x2678,[0x31F7,0x309A]),(0x2B44,[0xE6,0x300]),(0x2B48,[0x254,0x300]),
    (0x2B49,[0x254,0x301]),(0x2B4A,[0x28C,0x300]),(0x2B4B,[0x28C,0x301]),(0x2B4C,[0x259,0x300]),
    (0x2B4D,[0x259,0x301]),(0x2B4E,[0x25A,0x300]),(0x2B4F,[0x25A,0x301]),(0x2B65,[0x2E9,0x2E5]),
    (0x2B66,[0x2E5,0x2E9])]

/-- The places of the first plane that the second edition added. -/
def added : List Nat :=
  [0x2E21,0x2F7E,0x4F54,0x4F7E,0x7427,0x7E7A,0x7E7B,0x7E7C,0x7E7D,0x7E7E]

def firstPlane? (place : Nat) : Option (List Nat) :=
  match Table.pointIn? [Table.jis0213,Table.jis0208] place with
  | some point => some [point]
  | none => composed.lookup place

def secondPlane? (place : Nat) : Option Nat := Table.jis0213Second.point? place

/-- Two bytes that stand for a place in the first plane, some places standing for other code points
than usual. -/
def readFirstPlane (edition : Edition) (others : List (Nat × Nat)) (place : Nat) : Reading Unit :=
  if edition = .first ∧ place ∈ added then .wrong 2
  else
    match others.lookup place with
    | some point => .stands [point] 2 ()
    | none =>
      match firstPlane? place with
      | some points => .stands points 2 ()
      | none => .wrong 1

/-- The row and the cell, counted from zero, that two bytes stand for where two rows share each
first byte. -/
def shifted? (a b : Nat) : Option (Nat × Nat) :=
  if b < 0x40 ∨ b = 0x7F ∨ 0xFC < b then none
  else
    let pair := if a < 0xE0 then a - 0x81 else a - 0xC1
    let cell := if b < 0x80 then b - 0x40 else b - 0x41
    some (2 * pair + cell / 94,cell % 94)

def place (row cell : Nat) : Nat := Table.code (row + 0x21) (cell + 0x21)

/-- The row of the second plane by its number among all rows of both planes. -/
def secondRow (row : Nat) : Nat :=
  if row = 0x5E then 0
  else if row = 0x5F then 7
  else if row < 0x63 then row - 0x5E
  else if row < 0x67 then row - 0x58
  else row - 0x1A

def isShiftLead (last a : Nat) : Bool := (0x81 ≤ a && a ≤ 0x9F) || (0xE0 ≤ a && a ≤ last)

/-- Two bytes of which the first is shared by two rows, by what a row and a cell stand for. -/
def readShifted (points : Nat → Nat → Reading Unit) (a : Nat) : List Nat → Reading Unit
  | [] => .short
  | b :: _ =>
    match shifted? a b with
    | some (row,cell) => points row cell
    | none => .wrong 1

def readShift : List Nat → Reading Unit
  | [] => .short
  | a :: rest =>
    if a < 0x80 then .stands [a] 1 ()
    else if isShiftLead 0xEA a then
      readShifted (fun row cell => .ofPoint? (Table.jis0208.point? (place row cell)) 2 ()) a rest
    else .ofPoint? (katakana? a) 1 ()

def readShiftPlanes (edition : Edition) : List Nat → Reading Unit
  | [] => .short
  | a :: rest =>
    if a < 0x80 then .stands [roman a] 1 ()
    else if isShiftLead 0xFC a then
      readShifted (fun row cell =>
        if row < 94 then readFirstPlane edition [(0x2140,0x5C)] (place row cell)
        else
          let place := place (secondRow row) cell
          if edition = .first ∧ place = 0x7D3B then .stands [0x9B1D] 2 ()
          else .ofPoint? (secondPlane? place) 2 ()) a rest
    else .ofPoint? (katakana? a) 1 ()

/-- What bytes begin with in the charset of a vendor, which has no byte without a meaning. -/
def readWindows : List Nat → Reading Unit
  | [] => .short
  | a :: rest =>
    if a ≤ 0x80 then .stands [a] 1 ()
    else if a = 0xA0 then .stands [0xF8F0] 1 ()
    else if 0xFD ≤ a then .stands [0xF8F1 + (a - 0xFD)] 1 ()
    else if isShiftLead 0xFC a then
      match rest with
      | [] => .short
      | b :: _ =>
        match Table.windows932.point? (Table.code a b) with
        | some point => .stands [point] 2 ()
        | none =>
          readShifted (fun row cell => .ofPoint? (Table.jis0208.point? (place row cell)) 2 ()) a rest
    else .ofPoint? (katakana? a) 1 ()

def upperPlace? (a b : Nat) : Option Nat :=
  if 0x80 ≤ a ∧ 0x80 ≤ b then some (Table.code (a - 0x80) (b - 0x80)) else none

/-- What bytes begin with where two bytes of the upper half stand for a place, and three where the
first of them marks the supplementary standard. -/
def readExtended (first : Nat → Reading Unit) (second? : Nat → Option Nat) :
    List Nat → Reading Unit
  | [] => .short
  | a :: rest =>
    if a < 0x80 then .stands [a] 1 ()
    else
      match rest with
      | [] => .short
      | b :: rest =>
        if a = 0x8E then .ofPoint? (katakana? b) 2 ()
        else if a = 0x8F then
          match rest with
          | [] => .short
          | c :: _ => .ofPoint? ((upperPlace? b c).bind second?) 3 ()
        else
          match upperPlace? a b with
          | some place => first place
          | none => .wrong 1

def readStandards : List Nat → Reading Unit :=
  readExtended (fun place => .ofPoint? (Table.jis0208.point? place) 2 ()) Table.jis0212.point?

def readPlanes (edition : Edition) : List Nat → Reading Unit :=
  readExtended (readFirstPlane edition [(0x2232,0xFF5E)]) fun place =>
    if edition = .first ∧ place = 0x7D3B then some 0x9B1D
    else (secondPlane? place).or (Table.jis0212.point? place)

end Japanese
end ScopedAnalytics.Charset
