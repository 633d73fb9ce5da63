import ScopedAnalytics.Failure
import ScopedAnalytics.Json
import ScopedAnalytics.Numeral.Integer

/-! JSON text read into values. Beside the standard's values the words `NaN`, `Infinity` and
`-Infinity` are numbers, an escape can name half of a surrogate pair, an integer has at most
`Numeral.digitLimit` digits, and lists and objects are nested at most `depthLimit` deep. -/
namespace ScopedAnalytics.Json

inductive Complaint where
  | noValue | noName | noColon | noComma | unterminated | control | badEscape | badUnit
  | leftOver | byteOrderMark
deriving DecidableEq, Repr

def Complaint.message : Complaint → String
  | noValue => "Expecting value"
  | noName => "Expecting property name enclosed in double quotes"
  | noColon => "Expecting ':' delimiter"
  | noComma => "Expecting ',' delimiter"
  | unterminated => "Unterminated string starting at"
  | control => "Invalid control character at"
  | badEscape => "Invalid \\escape"
  | badUnit => "Invalid \\uXXXX escape"
  | leftOver => "Extra data"
  | byteOrderMark => "Unexpected UTF-8 BOM (decode using utf-8-sig)"

/-- What stops the reading of a text. The place of a complaint is given by the number of letters
that are left there. -/
inductive Obstacle where
  | complaint (what : Complaint) (left : Nat)
  | integerTooLong (digits : Nat)
  | tooDeep (inObject : Bool)
deriving DecidableEq, Repr

/-- Why a text, or bytes that should be one, is no JSON value. Lines and columns are counted from
one, letters from zero. -/
inductive Unreadable where
  | malformed (what : Complaint) (line column letter : Nat)
  | integerTooLong (digits : Nat)
  | tooDeep (inObject : Bool)
  | undecodable
deriving DecidableEq, Repr

def Unreadable.message : Unreadable → String
  | malformed what line column letter =>
    what.message ++ ": line " ++ toString line ++ " column " ++ toString column ++ " (char " ++
      toString letter ++ ")"
  | integerTooLong digits => Numeral.overlong digits
  | tooDeep inObject =>
    "maximum recursion depth exceeded while decoding a JSON " ++
      (if inObject then "object" else "array") ++ " from a unicode string"
  | undecodable => "bytes that stand for no text"

def Unreadable.failure (u : Unreadable) : Failure :=
  ⟨match u with
    | malformed .. => .malformed
    | integerTooLong _ | undecodable => .invalidValue
    | tooDeep _ => .tooDeep,u.message⟩

/-- How deep lists and objects may be nested. A reader that calls itself goes as deep as its stack
lets it; this is what one has left where responses are read, and no bound of the format. -/
def depthLimit : Nat := 990

abbrev Rest := List Letter

def refuse {α : Type} (what : Complaint) (rest : Rest) : Except Obstacle α :=
  .error (.complaint what rest.length)

/-- White space between tokens. -/
def isGap : Letter → Bool
  | .char c => c == ' ' || c == '\t' || c == '\n' || c == '\r'
  | .half _ => false

def skipGap (rest : Rest) : Rest := rest.dropWhile isGap

/-- The text after a word, if the word stands here. -/
def after? (word : String) (rest : Rest) : Option Rest :=
  let letters := (Text.ofString word).letters
  if letters.isPrefixOf rest then some (rest.drop letters.length) else none

def hexValue? : Letter → Option Nat
  | .half _ => none
  | .char c =>
    if '0' ≤ c && c ≤ '9' then some (c.toNat - '0'.toNat)
    else if 'a' ≤ c && c ≤ 'f' then some (c.toNat - 'a'.toNat + 10)
    else if 'A' ≤ c && c ≤ 'F' then some (c.toNat - 'A'.toNat + 10)
    else none

/-- The code unit that four hexadecimal digits name. The text must not end with them. -/
def readUnit (rest : Rest) : Except Obstacle (Nat × Rest) :=
  match rest with
  | a :: b :: c :: d :: after@(_ :: _) =>
    match hexValue? a, hexValue? b, hexValue? c, hexValue? d with
    | some a, some b, some c, some d => .ok (((a * 16 + b) * 16 + c) * 16 + d,after)
    | _, _, _, _ => .error (.complaint .badUnit (rest.length + 1))
  | _ => .error (.complaint .badUnit (rest.length + 1))

def isHigh (unit : Nat) : Bool := 0xD800 ≤ unit && unit < 0xDC00

def isLow (unit : Nat) : Bool := 0xDC00 ≤ unit && unit < 0xE000

/-- The letter of a numeric escape after its `u`. A high half and an escaped low half directly
after it are one character. -/
def readEscapedUnit (rest : Rest) : Except Obstacle (Letter × Rest) := do
  let (unit,rest) ← readUnit rest
  match isHigh unit, after? "\\u" rest with
  | true, some after =>
    if after.length < 5 then return (.ofCode unit,rest)
    let (low,last) ← readUnit after
    if isLow low then
      return (.ofCode (0x10000 + (unit - 0xD800) * 0x400 + (low - 0xDC00)),last)
    return (.ofCode unit,rest)
  | _, _ => return (.ofCode unit,rest)

def escaped? : Letter → Option Char
  | .char '"' => some '"'
  | .char '\\' => some '\\'
  | .char '/' => some '/'
  | .char 'b' => some '\x08'
  | .char 'f' => some '\x0c'
  | .char 'n' => some '\n'
  | .char 'r' => some '\r'
  | .char 't' => some '\t'
  | _ => none

/-- The letters of a string up to its closing quote. Every step takes a letter, so the length of
the text bounds the steps. `opening` is the number of letters from the opening quote on. -/
def readLetters (opening fuel : Nat) (rest : Rest) : Except Obstacle (List Letter × Rest) :=
  match fuel, rest with
  | 0, _ | _, [] => .error (.complaint .unterminated opening)
  | _, .char '"' :: rest => .ok ([],rest)
  | fuel + 1, .char '\\' :: rest =>
    match rest with
    | [] => .error (.complaint .unterminated opening)
    | .char 'u' :: rest => do
      let (letter,rest) ← readEscapedUnit rest
      let (letters,rest) ← readLetters opening fuel rest
      return (letter :: letters,rest)
    | mark :: after =>
      match escaped? mark with
      | some c => do
        let (letters,rest) ← readLetters opening fuel after
        return (.char c :: letters,rest)
      | none => .error (.complaint .badEscape (rest.length + 1))
  | fuel + 1, letter :: after =>
    if letter.code < 0x20 then refuse .control rest
    else do
      let (letters,rest) ← readLetters opening fuel after
      return (letter :: letters,rest)

def readText (fuel : Nat) (rest : Rest) : Except Obstacle (Text × Rest) := do
  let (letters,rest) ← readLetters (rest.length + 1) fuel rest
  return (⟨letters⟩,rest)

def isDigit : Letter → Bool
  | .char c => '0' ≤ c && c ≤ '9'
  | .half _ => false

def splitDigits (rest : Rest) : List Char × Rest :=
  ((rest.takeWhile isDigit).map Letter.shown,rest.dropWhile isDigit)

/-- A fraction of at least one digit, if one stands here. -/
def splitFraction (rest : Rest) : Option (List Char) × Rest :=
  match rest with
  | .char '.' :: after =>
    match splitDigits after with
    | ([],_) => (none,rest)
    | (digits,after) => (some digits,after)
  | _ => (none,rest)

def splitSign : Rest → Bool × Rest
  | .char '-' :: rest => (true,rest)
  | .char '+' :: rest => (false,rest)
  | rest => (false,rest)

def splitExponent (rest : Rest) : Option Int × Rest :=
  match rest with
  | .char mark :: after =>
    if mark == 'e' || mark == 'E' then
      let (negative,run) := splitSign after
      match splitDigits run with
      | ([],_) => (none,rest)
      | (digits,after) => (some (Numeral.signed negative (Nat.ofDigitChars 10 digits 0)),after)
    else (none,rest)
  | _ => (none,rest)

/-- The whole digits of a number: a zero alone, or digits that do not begin with one. -/
def splitWhole? : Rest → Option (List Char × Rest)
  | .char '0' :: rest => some (['0'],rest)
  | rest =>
    match splitDigits rest with
    | ([],_) => none
    | split => some split

def readNumber (start : Rest) : Except Obstacle (Json × Rest) :=
  let (negative,unsigned) :=
    match start with
    | .char '-' :: rest => (true,rest)
    | rest => (false,rest)
  match splitWhole? unsigned with
  | none => refuse .noValue start
  | some (whole,rest) =>
    match splitFraction rest with
    | (fraction,rest) =>
      match fraction, splitExponent rest with
      | none, (none,rest) =>
        if Numeral.digitLimit < whole.length then .error (.integerTooLong whole.length)
        else .ok (.int (Numeral.signed negative (Nat.ofDigitChars 10 whole 0)),rest)
      | fraction, (exponent,rest) =>
        let places := fraction.getD []
        let digits := Nat.ofDigitChars 10 (whole ++ places) 0
        .ok (.float (.ofDecimal negative digits (exponent.getD 0 - places.length)),rest)

def words : List (String × Json) :=
  [("null",.null),("true",.bool true),("false",.bool false),("NaN",.float .nan),
    ("Infinity",.float (.infinite false)),("-Infinity",.float (.infinite true))]

def readPlain (rest : Rest) : Except Obstacle (Json × Rest) :=
  match words.findSome? fun word => (after? word.1 rest).map fun after => (word.2,after) with
  | some found => .ok found
  | none => readNumber rest

mutual

/-- The value at the start of a text, in which lists and objects may be nested as deep as there
are levels. Every second nested call takes a letter before it, so twice the length of the text
bounds the calls, and what is left of that bounds each string. -/
def readValue (levels fuel : Nat) (rest : Rest) : Except Obstacle (Json × Rest) :=
  match fuel with
  | 0 => refuse .noValue rest
  | fuel + 1 =>
    match rest with
    | .char '"' :: rest => do
      let (value,rest) ← readText fuel rest
      return (.text value,rest)
    | .char '[' :: rest =>
      match levels with
      | 0 => .error (.tooDeep false)
      | levels + 1 =>
        match skipGap rest with
        | .char ']' :: rest => .ok (.list [],rest)
        | rest => do
          let (items,rest) ← readItems levels fuel rest
          return (.list items,rest)
    | .char '{' :: rest =>
      match levels with
      | 0 => .error (.tooDeep true)
      | levels + 1 =>
        match skipGap rest with
        | .char '}' :: rest => .ok (.object [],rest)
        | rest => do
          let (members,rest) ← readMembers levels fuel [] rest
          return (.object members,rest)
    | _ => readPlain rest

def readItems (levels fuel : Nat) (rest : Rest) : Except Obstacle (List Json × Rest) :=
  match fuel with
  | 0 => refuse .noValue rest
  | fuel + 1 => do
    let (item,rest) ← readValue levels fuel rest
    match skipGap rest with
    | .char ',' :: rest =>
      let (items,rest) ← readItems levels fuel (skipGap rest)
      return (item :: items,rest)
    | .char ']' :: rest => return ([item],rest)
    | rest => refuse .noComma rest

/-- The members of an object from one of them to the closing brace, added to those before. -/
def readMembers (levels fuel : Nat) (before : List (Text × Json)) (rest : Rest) :
    Except Obstacle (List (Text × Json) × Rest) :=
  match fuel with
  | 0 => refuse .noName rest
  | fuel + 1 =>
    match rest with
    | .char '"' :: rest => do
      let (name,rest) ← readText fuel rest
      match skipGap rest with
      | .char ':' :: rest =>
        let (value,rest) ← readValue levels fuel (skipGap rest)
        let members := setMember before name value
        match skipGap rest with
        | .char ',' :: rest => readMembers levels fuel members (skipGap rest)
        | .char '}' :: rest => return (members,rest)
        | rest => refuse .noComma rest
      | rest => refuse .noColon rest
    | rest => refuse .noName rest

end

/-- The value that a whole text denotes, if nothing stops the reading. -/
def readAll (text : Text) : Except Obstacle Json :=
  if text.startsWith "\uFEFF" then refuse .byteOrderMark text.letters
  else do
    let (value,rest) ← readValue depthLimit (2 * text.letters.length + 2) (skipGap text.letters)
    match skipGap rest with
    | [] => return value
    | rest => refuse .leftOver rest

def unreadable (text : Text) : Obstacle → Unreadable
  | .integerTooLong digits => .integerTooLong digits
  | .tooDeep inObject => .tooDeep inObject
  | .complaint what left =>
    let before := text.letters.take (text.letters.length - left)
    let line := before.count (.char '\n') + 1
    let column := (before.reverse.takeWhile (· != .char '\n')).length + 1
    .malformed what line column before.length

def ofText (text : Text) : Except Unreadable Json := (readAll text).mapError (unreadable text)

def ofString (s : String) : Except Unreadable Json := ofText (.ofString s)

end ScopedAnalytics.Json
