/-! The charsets of all code points. Decoding yields one code point after the other and marks every
part that stands for none. Where `halves` is set, an encoded surrogate half stands for itself, and
else for no code point. -/
namespace ScopedAnalytics

inductive ByteOrder where
  | big | little
deriving DecidableEq, Repr

namespace Charset

/-- A form of code points. Where an order of bytes is missing, a byte order mark tells it, and else
the least byte comes first; a form with a signature leaves it out. -/
inductive Unicode where
  | utf8 (signature : Bool)
  | utf16 (order : Option ByteOrder)
  | utf32 (order : Option ByteOrder)
deriving DecidableEq, Repr

def isHalf (code : Nat) : Bool := 0xD800 ≤ code && code < 0xE000

/-- The bytes that a first byte needs after it in UTF-8: their number, and the least and greatest
value of the first of them. -/
def continuation? (halves : Bool) (lead : Nat) : Option (Nat × Nat × Nat) :=
  if lead < 0x80 then some (0,0x80,0xBF)
  else if lead < 0xC2 then none
  else if lead < 0xE0 then some (1,0x80,0xBF)
  else if lead = 0xE0 then some (2,0xA0,0xBF)
  else if lead = 0xED ∧ !halves then some (2,0x80,0x9F)
  else if lead < 0xF0 then some (2,0x80,0xBF)
  else if lead = 0xF0 then some (3,0x90,0xBF)
  else if lead < 0xF4 then some (3,0x80,0xBF)
  else if lead = 0xF4 then some (3,0x80,0x8F)
  else none

/-- The code point that continues with the given number of bytes, and what follows. The bytes up
to the first that cannot continue it stand for none. -/
def continueCode (code : Nat) : Nat → Nat → Nat → List Nat → Option Nat × List Nat
  | 0, _, _, bytes => (some code,bytes)
  | _ + 1, _, _, [] => (none,[])
  | owed + 1, low, high, b :: bytes =>
    if low ≤ b ∧ b ≤ high then continueCode (code * 64 + b % 64) owed 0x80 0xBF bytes
    else (none,b :: bytes)

theorem length_continueCode (code owed low high : Nat) (bytes : List Nat) :
    (continueCode code owed low high bytes).2.length ≤ bytes.length := by
  induction bytes generalizing code owed low high with
  | nil => cases owed <;> simp [continueCode]
  | cons b bytes ih =>
    cases owed with
    | zero => simp [continueCode]
    | succ owed =>
      rw [continueCode]
      split
      · exact Nat.le_succ_of_le (ih ..)
      · exact Nat.le_refl _

def leadBits (owed lead : Nat) : Nat := if owed = 0 then lead else lead % Nat.pow 2 (6 - owed)

def decodeUtf8 (halves : Bool) : List Nat → List (Option Nat)
  | [] => []
  | lead :: bytes =>
    match continuation? halves lead with
    | none => none :: decodeUtf8 halves bytes
    | some (owed,low,high) =>
      let next := continueCode (leadBits owed lead) owed low high bytes
      next.1 :: decodeUtf8 halves next.2
termination_by bytes => bytes.length
decreasing_by
  · simp
  · exact Nat.lt_succ_of_le (length_continueCode ..)

def unitOf (order : ByteOrder) (bytes : List Nat) : Nat :=
  (match order with
    | .big => bytes
    | .little => bytes.reverse).foldl (fun value b => value * 256 + b) 0

/-- The code points of bytes in UTF-16. A first half without a second one stands for no code
point, and at the end neither does what is left after it. -/
def decodeUtf16 (halves : Bool) (order : ByteOrder) : List Nat → List (Option Nat)
  | [] => []
  | [_] => [none]
  | a :: b :: bytes =>
    let unit := unitOf order [a,b]
    let alone := if halves then some unit else none
    if 0xD800 ≤ unit ∧ unit < 0xDC00 then
      match bytes with
      | c :: d :: rest =>
        let second := unitOf order [c,d]
        if 0xDC00 ≤ second ∧ second < 0xE000 then
          some (0x10000 + (unit - 0xD800) * 0x400 + (second - 0xDC00)) ::
            decodeUtf16 halves order rest
        else alone :: decodeUtf16 halves order (c :: d :: rest)
      | rest => if halves then alone :: decodeUtf16 halves order rest else [none]
    else if isHalf unit then alone :: decodeUtf16 halves order bytes
    else some unit :: decodeUtf16 halves order bytes
termination_by bytes => bytes.length
decreasing_by
  all_goals
    simp only [List.length_cons]
    omega

def decodeUtf32 (halves : Bool) (order : ByteOrder) : List Nat → List (Option Nat)
  | a :: b :: c :: d :: bytes =>
    let code := unitOf order [a,b,c,d]
    let valid := code < 0x110000 && (halves || !isHalf code)
    (if valid then some code else none) :: decodeUtf32 halves order bytes
  | [] => []
  | _ => [none]

/-- The order that a byte order mark tells, and the bytes after it. -/
def splitMark (size : Nat) (bytes : List Nat) : ByteOrder × List Nat :=
  let mark := bytes.take size
  if mark.length = size ∧ unitOf .big mark = 0xFEFF then (.big,bytes.drop size)
  else if mark.length = size ∧ unitOf .little mark = 0xFEFF then (.little,bytes.drop size)
  else (.little,bytes)

def Unicode.decode (form : Unicode) (halves : Bool) (bytes : List Nat) : List (Option Nat) :=
  match form with
  | utf8 signature =>
    let marked := signature && bytes.take 3 == [0xEF,0xBB,0xBF]
    decodeUtf8 halves (if marked then bytes.drop 3 else bytes)
  | utf16 (some order) => decodeUtf16 halves order bytes
  | utf16 none =>
    let (order,bytes) := splitMark 2 bytes
    decodeUtf16 halves order bytes
  | utf32 (some order) => decodeUtf32 halves order bytes
  | utf32 none =>
    let (order,bytes) := splitMark 4 bytes
    decodeUtf32 halves order bytes

/-- The size of the units whose order a byte order mark has to tell, if bytes lack the mark though
they are long enough to hold one. -/
def Unicode.unmarkedSize? (form : Unicode) (bytes : List Nat) : Option Nat :=
  let unmarked (size : Nat) :=
    if size ≤ bytes.length ∧ (splitMark size bytes).2.length = bytes.length then some size else none
  match form with
  | utf16 none => unmarked 2
  | utf32 none => unmarked 4
  | _ => none

def Unicode.breaksOff (form : Unicode) (bytes : List Nat) : Bool :=
  form == .utf8 true && (bytes == [0xEF] || bytes == [0xEF,0xBB])

def utf8Bytes (s : String) : List UInt8 := s.toList.flatMap String.utf8EncodeChar

/-- The string that bytes in UTF-8 stand for, with a replacement character wherever they stand for
none. -/
def utf8String (bytes : List UInt8) : String :=
  String.ofList ((decodeUtf8 false (bytes.map UInt8.toNat)).map fun point? =>
    match point? with
    | some point => Char.ofNat point
    | none => '\uFFFD')

end Charset
end ScopedAnalytics
