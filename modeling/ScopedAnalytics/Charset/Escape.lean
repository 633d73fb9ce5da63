import ScopedAnalytics.Charset.Reading

/-! Charsets in which a backslash begins an escape and all other bytes are code points. -/
namespace ScopedAnalytics.Charset.Escape

def hexDigit? (b : Nat) : Option Nat :=
  if 0x30 ≤ b ∧ b ≤ 0x39 then some (b - 0x30)
  else if 0x41 ≤ b ∧ b ≤ 0x46 then some (b - 0x41 + 10)
  else if 0x61 ≤ b ∧ b ≤ 0x66 then some (b - 0x61 + 10)
  else none

def number (base : Nat) (digits : List Nat) : Nat :=
  digits.foldl (fun value digit => value * base + digit) 0

/-- An escape with a given number of digits in base 16 after its first two bytes. -/
def readHex (count : Nat) (bytes : List Nat) : Reading Unit :=
  let digits := ((bytes.take count).takeWhile fun b => (hexDigit? b).isSome).filterMap hexDigit?
  if digits.length = count then
    let point := number 16 digits
    if point ≤ 0x10FFFF then .stands [point] (count + 2) () else .wrong (count + 2)
  else if digits.length = bytes.length then .short
  else .wrong (digits.length + 2)

def hexCount? (b : Nat) : Option Nat :=
  ([(0x78,2),(0x75,4),(0x55,8)] : List (Nat × Nat)).lookup b

/-- The code point that the byte after a backslash stands for. -/
def control? (b : Nat) : Option Nat :=
  ([(0x5C,0x5C),(0x27,0x27),(0x22,0x22),(0x61,7),(0x62,8),(0x74,9),(0x6E,10),(0x76,11),(0x66,12),
    (0x72,13)] : List (Nat × Nat)).lookup b

/-- The first digits in base 8, three at the most. -/
def octalDigits (bytes : List Nat) : List Nat :=
  ((bytes.take 3).takeWhile fun b => 0x30 ≤ b && b ≤ 0x37).map (· - 0x30)

/-- An escape that names a character in braces. No name is known. -/
def readName : List Nat → Reading Unit
  | [] => .short
  | brace :: rest =>
    if brace ≠ 0x7B then .wrong 2
    else
      let name := rest.takeWhile (· != 0x7D)
      if name.length = rest.length then .short
      else if name.isEmpty then .wrong 3
      else .wrong (name.length + 4)

def readAny : List Nat → Reading Unit
  | [] => .short
  | b :: rest =>
    if b ≠ 0x5C then .stands [b] 1 ()
    else
      match rest with
      | [] => .short
      | c :: further =>
        match control? c, hexCount? c with
        | some point, _ => .stands [point] 2 ()
        | none, some count => readHex count further
        | none, none =>
          let digits := octalDigits rest
          if c = 0x0A then .stands [] 2 ()
          else if !digits.isEmpty then .stands [number 8 digits] (digits.length + 1) ()
          else if c = 0x4E then readName further
          else .stands [b,c] 2 ()

def readCodes : List Nat → Reading Unit
  | [] => .short
  | b :: rest =>
    if b ≠ 0x5C then .stands [b] 1 ()
    else
      match rest with
      | [] => .stands [b] 1 ()
      | c :: further =>
        if c = 0x75 then readHex 4 further
        else if c = 0x55 then readHex 8 further
        else .stands [b,c] 2 ()

end ScopedAnalytics.Charset.Escape
