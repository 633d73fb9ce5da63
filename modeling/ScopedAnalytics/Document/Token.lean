/-! Tokens of a document and the causes for which a text is none. -/
namespace ScopedAnalytics.Document

inductive Sign where
  | bang | dollar | ampersand | openParen | closeParen | spread | colon | equals | atSign
  | openBracket | closeBracket | openBrace | bar | closeBrace
deriving DecidableEq, Repr

def Sign.text : Sign → String
  | bang => "!"
  | dollar => "$"
  | ampersand => "&"
  | openParen => "("
  | closeParen => ")"
  | spread => "..."
  | colon => ":"
  | equals => "="
  | atSign => "@"
  | openBracket => "["
  | closeBracket => "]"
  | openBrace => "\x7b"
  | bar => "|"
  | closeBrace => "\x7d"

def Sign.ofChar? : Char → Option Sign
  | '!' => some bang
  | '$' => some dollar
  | '&' => some ampersand
  | '(' => some openParen
  | ')' => some closeParen
  | ':' => some colon
  | '=' => some equals
  | '@' => some atSign
  | '[' => some openBracket
  | ']' => some closeBracket
  | '{' => some openBrace
  | '|' => some bar
  | '}' => some closeBrace
  | _ => none

/-- A token. Numbers keep their text; strings hold their decoded value. -/
inductive Token where
  | sign (sign : Sign)
  | name (text : String)
  | int (text : String)
  | float (text : String)
  | text (value : String)
  | block (value : String)
  | ending
deriving DecidableEq, Repr

namespace Token

/-- A kind of token with the value a token of the kind has. -/
def labelled (kind value : String) : String := kind ++ " '" ++ value ++ "'"

def description : Token → String
  | sign s => "'" ++ s.text ++ "'"
  | name value => labelled "Name" value
  | int value => labelled "Int" value
  | float value => labelled "Float" value
  | text value => labelled "String" value
  | block value => labelled "BlockString" value
  | ending => "<EOF>"

def string? : Token → Option String
  | text value | block value => some value
  | _ => none

def word? : Token → Option String
  | name word => some word
  | found => found.string?

end Token

inductive Expected where
  | name
  | sign (sign : Sign)
  | keyword (word : String)
deriving DecidableEq, Repr

def Expected.description : Expected → String
  | name => "Name"
  | sign s => "'" ++ s.text ++ "'"
  | keyword word => "'" ++ word ++ "'"

/-- Why a text is no document. A missing character stands for the end of the text. -/
inductive Fault where
  | expected (what : Expected) (found : Token)
  | unexpected (found : Token)
  | unexpectedCharacter (found : Char)
  | singleQuote
  | doublePoint
  | wholePartMissing (fraction : String)
  | digitAfterZero (found : Char)
  | digitExpected (found : Option Char)
  | unterminated
  | unknownEscape (escape : String)
  | invalidCodePoint (escape : String)
  | variableInConstant (name : String)
  | reservedEnumValue (found : Token)
  | describedShorthand
  | describedNonDefinition
  | tooDeep
deriving DecidableEq, Repr

namespace Fault

/-- A character in messages: printable ASCII in quotes, all else by its number. -/
def character : Option Char → String
  | none => "<EOF>"
  | some c =>
    if ' ' ≤ c && c ≤ '~' then String.ofList ['\'',c,'\'']
    else
      let digits := (Nat.toDigits 16 c.toNat).map Char.toUpper
      "U+" ++ String.ofList (List.replicate (4 - digits.length) '0' ++ digits)

/-- The wording of the cause, after the mark of all syntax errors. -/
def detail : Fault → String
  | expected what found => "Expected " ++ what.description ++ ", found " ++ found.description ++ "."
  | unexpected found => "Unexpected " ++ found.description ++ "."
  | unexpectedCharacter found => "Unexpected character: " ++ character (some found) ++ "."
  | singleQuote =>
    "Unexpected single quote character ('), did you mean to use a double quote (\")?"
  | doublePoint => "Unexpected '..', did you mean '...'?"
  | wholePartMissing fraction =>
    "Invalid number, expected digit before '.', did you mean '0." ++ fraction ++ "'?"
  | digitAfterZero found =>
    "Invalid number, unexpected digit after 0: " ++ character (some found) ++ "."
  | digitExpected found => "Invalid number, expected digit but got: " ++ character found ++ "."
  | unterminated => "Unterminated string."
  | unknownEscape escape => "Invalid character escape sequence: '" ++ escape ++ "'."
  | invalidCodePoint escape => "Invalid Unicode escape sequence: '" ++ escape ++ "'."
  | variableInConstant name => "Unexpected variable '$" ++ name ++ "' in constant value."
  | reservedEnumValue found =>
    found.description ++ " is reserved and cannot be used for an enum value."
  | describedShorthand =>
    "Unexpected description, descriptions are not supported on shorthand queries."
  | describedNonDefinition =>
    "Unexpected description, only GraphQL definitions support descriptions."
  | tooDeep => "Document is nested too deeply. Parsing aborted."

def message (f : Fault) : String := "Syntax Error: " ++ f.detail

end Fault
end ScopedAnalytics.Document
