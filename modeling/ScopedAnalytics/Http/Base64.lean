/-! Bytes written in 64 characters, three bytes as four characters. -/
namespace ScopedAnalytics.Base64

def digit (value : Nat) : Char :=
  if value < 26 then Char.ofNat ('A'.toNat + value)
  else if value < 52 then Char.ofNat ('a'.toNat + value - 26)
  else if value < 62 then Char.ofNat ('0'.toNat + value - 52)
  else if value = 62 then '+'
  else '/'

/-- The characters of bytes. The last group is filled up with equals signs. -/
def encodeChars : List UInt8 → List Char
  | [] => []
  | [a] =>
    let value := a.toNat * 16
    [digit (value / 64),digit (value % 64),'=','=']
  | [a,b] =>
    let value := (a.toNat * 256 + b.toNat) * 4
    [digit (value / 4096),digit (value / 64 % 64),digit (value % 64),'=']
  | a :: b :: c :: rest =>
    let value := (a.toNat * 256 + b.toNat) * 256 + c.toNat
    digit (value / 262144) :: digit (value / 4096 % 64) :: digit (value / 64 % 64) ::
      digit (value % 64) :: encodeChars rest

def encode (bytes : List UInt8) : String := String.ofList (encodeChars bytes)

def value? (c : Char) : Option Nat :=
  if 'A' ≤ c ∧ c ≤ 'Z' then some (c.toNat - 'A'.toNat)
  else if 'a' ≤ c ∧ c ≤ 'z' then some (c.toNat - 'a'.toNat + 26)
  else if '0' ≤ c ∧ c ≤ '9' then some (c.toNat - '0'.toNat + 52)
  else if c = '+' then some 62
  else if c = '/' then some 63
  else none

def ofValues : List Nat → List UInt8
  | a :: b :: c :: d :: rest =>
    let value := ((a * 64 + b) * 64 + c) * 64 + d
    .ofNat (value / 65536) :: .ofNat (value / 256) :: .ofNat value :: ofValues rest
  | [a,b,c] =>
    let value := (a * 64 + b) * 64 + c
    [.ofNat (value / 1024),.ofNat (value / 4)]
  | [a,b] => [.ofNat ((a * 64 + b) / 16)]
  | _ => []

def decode (text : String) : List UInt8 := ofValues (text.toList.filterMap value?)

end ScopedAnalytics.Base64
