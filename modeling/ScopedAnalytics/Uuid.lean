import ScopedAnalytics.Numeral.Integer
import ScopedAnalytics.Text.Quoted

/-! Universally unique identifiers: numbers of 128 bits. Reading removes the marks `urn:` and
`uuid:`, braces around the text and all hyphens, and takes the remaining 32 characters as a
hexadecimal integer, in every form that `Numeral.readHexInteger?` takes. -/
namespace ScopedAnalytics

structure Uuid where
  value : Fin (Nat.pow 2 128)
deriving DecidableEq, Repr

namespace Uuid

/-- A text without the occurrences of a word, found from left to right. `skipping` characters
belong to the occurrence found last. -/
def without (word : List Char) (skipping : Nat) : List Char → List Char
  | [] => []
  | c :: rest =>
    match skipping with
    | left + 1 => without word left rest
    | 0 =>
      if word.isPrefixOf (c :: rest) then without word (word.length - 1) rest
      else c :: without word 0 rest

def isBrace (c : Char) : Bool := c == '{' || c == '}'

/-- What remains of a text that is to hold the digits of an identifier. -/
def core (cs : List Char) : List Char :=
  let cs := without "uuid:".toList 0 (without "urn:".toList 0 cs)
  let cs := ((cs.dropWhile isBrace).reverse.dropWhile isBrace).reverse
  cs.filter (· != '-')

def ofInt? (n : Int) : Option Uuid :=
  if bound : n.toNat < Nat.pow 2 128 then if 0 ≤ n then some ⟨n.toNat,bound⟩ else none else none

def read? (cs : List Char) : Option Uuid :=
  let digits := core cs
  if digits.length = 32 then Numeral.readHexInteger? digits >>= ofInt? else none

/-- The canonical text, lower-case digits in groups of 8, 4, 4, 4 and 12. -/
def text (u : Uuid) : String :=
  let digits := Text.hexDigits 32 u.value
  let group (start count : Nat) := (digits.drop start).take count
  String.ofList (group 0 8 ++ '-' :: group 8 4 ++ '-' :: group 12 4 ++ '-' :: group 16 4 ++
    '-' :: group 20 12)

end Uuid
end ScopedAnalytics
