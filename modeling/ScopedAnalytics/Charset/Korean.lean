import ScopedAnalytics.Charset.Reading
import ScopedAnalytics.Charset.Table.Ksx1001
import ScopedAnalytics.Charset.Table.Windows949

/-! Korean charsets. A syllable has an initial consonant, a vowel and perhaps final consonants; it
is a character of the standard, or one of a vendor's additions, or it is composed of its parts. -/
namespace ScopedAnalytics.Charset.Korean

def syllable (initial vowel final : Nat) : Nat := 0xAC00 + initial * 588 + vowel * 28 + final

def initials : List Nat := [0,1,3,6,7,8,16,17,18,20,21,22,23,24,25,26,27,28,29]

def finals : List Nat := [0,1,2,3,4,5,6,8,9,10,11,12,13,14,15,16,17,19,20,21,22,23,25,26,27,28,29]

def standard? (a b : Nat) : Option Nat :=
  if 0x80 ≤ a ∧ 0x80 ≤ b then Table.ksx1001.point? (Table.code (a - 0x80) (b - 0x80)) else none

def number? (items : List Nat) (item : Nat) : Option Nat :=
  if item ∈ items then some (items.idxOf item) else none

/-- The syllable of three parts that the standard names by bytes, the filler being no final
consonant. -/
def composed? (initial vowel final : Nat) : Option Nat := do
  let initial ← if 0xA1 ≤ initial then number? initials (initial - 0xA1) else none
  let vowel ← if 0xBF ≤ vowel ∧ vowel ≤ 0xD3 then some (vowel - 0xBF) else none
  let final ←
    if final = 0xD4 then some 0
    else if 0xA1 ≤ final then (number? finals (final - 0xA1)).map (· + 1)
    else none
  return syllable initial vowel final

/-- What bytes begin with in the charset of the standard. Two bytes announce a syllable that is
composed of three parts. -/
def readStandard : List Nat → Reading Unit
  | [] => .short
  | a :: rest =>
    if a < 0x80 then .stands [a] 1 ()
    else
      match rest with
      | [] => .short
      | b :: rest =>
        if a = 0xA4 ∧ b = 0xD4 then
          match rest with
          | c :: initial :: d :: vowel :: e :: final :: _ =>
            if c = 0xA4 ∧ d = 0xA4 ∧ e = 0xA4 then .ofPoint? (composed? initial vowel final) 8 ()
            else .wrong 1
          | _ => .short
        else .ofPoint? (standard? a b) 2 ()

def readWindows : List Nat → Reading Unit :=
  readPair fun a b => (standard? a b).or (Table.windows949.point? (Table.code a b))

def initialBits : List Nat := (List.range 20).map (· + 1)

def vowelBits : List Nat := [2,3,4,5,6,7,10,11,12,13,14,15,18,19,20,21,22,23,26,27,28,29]

def finalBits : List Nat :=
  [1,2,3,4,5,6,7,8,9,10,11,12,13,14,15,16,17,19,20,21,22,23,24,25,26,27,28,29]

/-- The code point of the composed form of two bytes: a syllable, a part that stands alone, or a
space. -/
def combined? (a b : Nat) : Option Nat :=
  match number? initialBits (a / 4 % 32), number? vowelBits (a % 4 * 8 + b / 32),
      number? finalBits (b % 32) with
  | some 0, some 0, some 0 => some 0x3000
  | some 0, some 0, some (final + 1) => (finals[final]?).map (0x3131 + ·)
  | some 0, some (vowel + 1), some 0 => some (0x314F + vowel)
  | some (initial + 1), some 0, some 0 => (initials[initial]?).map (0x3131 + ·)
  | some (initial + 1), some (vowel + 1), some final => some (syllable initial vowel final)
  | _, _, _ => none

/-- The code point of two bytes that stand for a place of the standard where two rows share each
first byte; syllables and their parts have no place there. -/
def shared? (a b : Nat) : Option Nat :=
  if a < 0xD9 ∨ a = 0xDF ∨ 0xF9 < a ∨ b < 0x31 ∨ (0x80 ≤ b ∧ b < 0x91) ∨ b % 0x80 = 0x7F ∨
      (a = 0xDA ∧ 0xA1 ≤ b ∧ b ≤ 0xD3) then none
  else
    let pair := if a < 0xE0 then 2 * (a - 0xD9) else 2 * a - 0x197
    let cell := if b < 0x91 then b - 0x31 else b - 0x43
    Table.ksx1001.point? (Table.code (pair + cell / 94 + 0x21) (cell % 94 + 0x21))

def readCombined : List Nat → Reading Unit :=
  readPair fun a b => if a < 0xD8 then combined? a b else shared? a b

end ScopedAnalytics.Charset.Korean
