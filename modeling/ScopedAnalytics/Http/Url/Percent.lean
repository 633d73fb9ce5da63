import ScopedAnalytics.Charset.Unicode

/-! Percent-encoding. Each component of a URL has its own characters that stand for themselves;
all others are written by the bytes of their UTF-8 form. -/
namespace ScopedAnalytics.Percent

def isHexDigit (c : Char) : Bool := c.isDigit || 'a' ≤ c && c ≤ 'f' || 'A' ≤ c && c ≤ 'F'

def isUnreserved (c : Char) : Bool := c.isAlphanum || "-._~".toList.contains c

def isPrintableAscii (c : Char) : Bool := 0x20 ≤ c.toNat && c.toNat < 0x7F

def inQuery (c : Char) : Bool := isPrintableAscii c && !" \"#<>".toList.contains c

def inPath (c : Char) : Bool := inQuery c && !"?`\x7b\x7d".toList.contains c

def inUserInfo (c : Char) : Bool := inPath c && !"/;=@[\\]^|".toList.contains c

def inFragment (c : Char) : Bool := isPrintableAscii c && !" \"<>`".toList.contains c

def inHost (c : Char) : Bool := "!$&'()*+,;=\"`\x7b\x7d%|\\".toList.contains c

def hexByte (b : UInt8) : List Char :=
  [Nat.digitChar (b.toNat / 16),Nat.digitChar (b.toNat % 16)].map Char.toUpper

def escape (c : Char) : List Char :=
  (Charset.utf8Bytes (String.singleton c)).flatMap fun b => '%' :: hexByte b

/-- A component in which the characters of a class stand for themselves. What is escaped already
stays as it is. -/
def encode (plain : Char → Bool) : List Char → List Char
  | [] => []
  | '%' :: a :: b :: rest =>
    if isHexDigit a && isHexDigit b then '%' :: a :: b :: encode plain rest
    else (if plain '%' then ['%'] else escape '%') ++ encode plain (a :: b :: rest)
  | c :: rest => (if isUnreserved c || plain c then [c] else escape c) ++ encode plain rest

def hexValue (c : Char) : Nat :=
  if c.isDigit then c.toNat - '0'.toNat else c.toLower.toNat - 'a'.toNat + 10

def bytes : List Char → List UInt8
  | [] => []
  | '%' :: a :: b :: rest =>
    if isHexDigit a && isHexDigit b then UInt8.ofNat (hexValue a * 16 + hexValue b) :: bytes rest
    else UInt8.ofNat '%'.toNat :: bytes (a :: b :: rest)
  | c :: rest => Charset.utf8Bytes (String.singleton c) ++ bytes rest

def decode (component : List Char) : String := Charset.utf8String (bytes component)

end ScopedAnalytics.Percent
