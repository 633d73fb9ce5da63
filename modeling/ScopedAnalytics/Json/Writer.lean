import ScopedAnalytics.Json
import ScopedAnalytics.Numeral.Integer

/-! JSON values written as ASCII text, on one line or with every item on a line of its own. A value
that holds an integer of too many digits has no text. -/
namespace ScopedAnalytics.Json

def unitEscape (code : Nat) : List Char := '\\' :: 'u' :: Text.hexDigits 4 code

/-- One letter of a string. All but printable ASCII is escaped, a character beyond the 16-bit
units as a surrogate pair. -/
def writtenLetter : Letter → List Char
  | .half offset => unitEscape (0xD800 + offset)
  | .char '"' => ['\\','"']
  | .char '\\' => ['\\','\\']
  | .char '\n' => ['\\','n']
  | .char '\r' => ['\\','r']
  | .char '\t' => ['\\','t']
  | .char '\x08' => ['\\','b']
  | .char '\x0c' => ['\\','f']
  | .char c =>
    let code := c.toNat
    if 0x20 ≤ code ∧ code < 0x7F then [c]
    else if code < 0x10000 then unitEscape code
    else
      let past := code - 0x10000
      unitEscape (0xD800 + past / 0x400) ++ unitEscape (0xDC00 + past % 0x400)

def writtenText (t : Text) : String :=
  String.ofList ('"' :: t.letters.flatMap writtenLetter ++ ['"'])

def writtenFloat : Binary64 → String
  | .nan => "NaN"
  | .infinite negative => if negative then "-Infinity" else "Infinity"
  | x => x.text

/-- Items between brackets, on one line, or on lines of their own indented by two more spaces than
the brackets, which stand at `depth`. No items stand between brackets that touch. -/
def bracketed (lines : Bool) (depth : Nat) (opening closing : String) (items : List String) :
    String :=
  let newline (depth : Nat) := String.ofList ('\n' :: List.replicate (2 * depth) ' ')
  if items.isEmpty then opening ++ closing
  else if lines then
    opening ++ newline (depth + 1) ++ separated ("," ++ newline (depth + 1)) items ++
      newline depth ++ closing
  else opening ++ separated ", " items ++ closing

mutual

/-- How a value is laid out that has a text. -/
def writtenAt (lines : Bool) (depth : Nat) : Json → String
  | null => "null"
  | bool value => if value then "true" else "false"
  | int value => toString value
  | float value => writtenFloat value
  | text value => writtenText value
  | list items => bracketed lines depth "[" "]" (writtenItems lines (depth + 1) items)
  | object members =>
    bracketed lines depth "\x7b" "\x7d" (writtenMembers lines (depth + 1) members)

def writtenItems (lines : Bool) (depth : Nat) : List Json → List String
  | [] => []
  | item :: items => writtenAt lines depth item :: writtenItems lines depth items

def writtenMembers (lines : Bool) (depth : Nat) : List (Text × Json) → List String
  | [] => []
  | (name,value) :: members =>
    (writtenText name ++ ": " ++ writtenAt lines depth value) ::
      writtenMembers lines depth members

end

mutual

def isWritable : Json → Bool
  | int value => Numeral.isWritable value
  | list items => areWritable items
  | object members => haveWritable members
  | _ => true

def areWritable : List Json → Bool
  | [] => true
  | item :: items => isWritable item && areWritable items

def haveWritable : List (Text × Json) → Bool
  | [] => true
  | (_,value) :: members => isWritable value && haveWritable members

end

/-- The text of a value, on one line or on several, if it has one. -/
def written? (lines : Bool) (value : Json) : Option String :=
  if value.isWritable then some (writtenAt lines 0 value) else none

end ScopedAnalytics.Json
