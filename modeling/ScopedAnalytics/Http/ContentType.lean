import ScopedAnalytics.Charset.Decoding
import ScopedAnalytics.Charset.Name
import ScopedAnalytics.Http.Url.Percent
import ScopedAnalytics.Numeral.Integer

/-! The charset that a content type names among its parameters. The value of a parameter can be
given in numbered segments, and segments can be percent-encoded; a value with such a segment says
before two ticks which charset its own bytes are in. -/
namespace ScopedAnalytics.ContentType

inductive Fault where
  | mixedSegments (numbered : Bool)
  | numberTooLong (digits : Nat)
  | zeroInName
deriving DecidableEq, Repr

def Fault.failure : Fault → Failure
  | mixedSegments numbered =>
    let (later,earlier) := if numbered then ("int","NoneType") else ("NoneType","int")
    ⟨.wrongType,"'<' not supported between instances of " ++ quoted later ++ " and " ++
      quoted earlier⟩
  | numberTooLong digits => .invalidValue (Numeral.overlong digits)
  | zeroInName => .invalidValue "embedded null character"

def isBlank (c : Char) : Bool := ('\t' ≤ c && c ≤ '\r') || ('\x1c' ≤ c && c ≤ ' ')

def trimmed (cs : List Char) : List Char :=
  ((cs.dropWhile isBlank).reverse.dropWhile isBlank).reverse

/-- The parts of a content type, which semicolons outside of quotes separate. `inQuotes` says that
an odd number of quotes came before in the part, and `escaped` that a backslash stands before. -/
def parts (inQuotes escaped : Bool) : List Char → List (List Char)
  | [] => [[]]
  | c :: rest =>
    if c = ';' ∧ !inQuotes then [] :: parts false false rest
    else
      match parts (inQuotes != (c == '"' && !escaped)) (c == '\\') rest with
      | [] => [[c]]
      | part :: others => (c :: part) :: others

def joinBackslashes : List Char → List Char
  | '\\' :: '\\' :: rest => '\\' :: joinBackslashes rest
  | c :: rest => c :: joinBackslashes rest
  | [] => []

def bareQuotes : List Char → List Char
  | '\\' :: '"' :: rest => '"' :: bareQuotes rest
  | c :: rest => c :: bareQuotes rest
  | [] => []

def unquoted (value : List Char) : List Char :=
  match value with
  | first :: rest@(_ :: _) =>
    let inner := rest.dropLast
    let last := rest.getLastD first
    if first = '"' ∧ last = '"' then bareQuotes (joinBackslashes inner)
    else if first = '<' ∧ last = '>' then inner
    else value
  | value => value

/-- The name and the value of a part. A name with a value is taken in small letters. -/
def nameAndValue (part : List Char) : List Char × List Char :=
  match part.span (· != '=') with
  | (name,[]) => (trimmed name,[])
  | (name,_ :: value) => ((trimmed name).map Char.toLower,unquoted (trimmed value))

structure Segment where
  number : Option Nat
  isEncoded : Bool
  value : List Char
deriving DecidableEq, Repr

/-- What a part says: a whole value or a segment of one. -/
inductive Part where
  | whole (name value : List Char)
  | segment (name : List Char) (s : Segment)
deriving DecidableEq, Repr

def isWord (cs : List Char) : Bool := !cs.isEmpty && cs.all fun c => c.isAlphanum || c == '_'

/-- The segment of a value, by what follows the asterisk behind its name. -/
def segment? (value mark : List Char) : Except Fault (Option Segment) :=
  let (digits,rest) := mark.span Char.isDigit
  if mark.isEmpty then .ok (some ⟨none,true,value⟩)
  else if digits.isEmpty ∨ (rest ≠ [] ∧ rest ≠ ['*']) then .ok none
  else if Numeral.digitLimit < digits.length then .error (.numberTooLong digits.length)
  else
    let number := digits.foldl (fun n c => n * 10 + (c.toNat - '0'.toNat)) 0
    .ok (some ⟨some number,rest = ['*'],value⟩)

def readPart (part : List Char) : Except Fault Part := do
  let (name,value) := nameAndValue part
  match name.span (· != '*') with
  | (word,_ :: mark) =>
    if isWord word then
      match ← segment? value mark with
      | some s => return .segment word s
      | none => return .whole name value
    else return .whole name value
  | _ => return .whole name value

/-- The order of segments: by number, then by value, then the encoded ones last. -/
def Segment.precedes (s t : Segment) : Bool :=
  if s.number ≠ t.number then s.number.getD 0 < t.number.getD 0
  else if s.value ≠ t.value then s.value < t.value
  else !s.isEncoded || t.isEncoded

/-- A value: text as it stands, or the code points of bytes with the charset that they are in. -/
inductive Value where
  | plain (text : List Char)
  | encoded (charset : List Char) (bytes : List Nat)
deriving DecidableEq, Repr

def Segment.points (s : Segment) : List Nat :=
  if s.isEncoded then (Percent.bytes s.value).map UInt8.toNat else s.value.map Char.toNat

def joined (segments : List Segment) : Except Fault Value :=
  let isNumbered := (segments.head?.bind (·.number)).isSome
  if segments.any (·.number.isSome != isNumbered) then .error (.mixedSegments (!isNumbered))
  else
    let points := ((segments.mergeSort Segment.precedes).map Segment.points).flatten
    if !segments.any (·.isEncoded) then .ok (.plain (points.map Char.ofNat))
    else
      let tick := 0x27
      let (charset,rest) := points.span (· != tick)
      match (rest.drop 1).span (· != tick) with
      | (_,_ :: value) => .ok (.encoded (charset.map Char.ofNat) value)
      | _ => .ok (.encoded [] points)

/-- The names of segments, each where it comes first. -/
def segmentNames (parts : List Part) : List (List Char) :=
  (parts.filterMap fun part =>
    match part with
    | .segment name _ => some name
    | .whole .. => none).eraseDups

def segmentsOf (name : List Char) (parts : List Part) : List Segment :=
  parts.filterMap fun part =>
    match part with
    | .segment other s => if other = name then some s else none
    | .whole .. => none

def parameters (contentType : List Char) : Except Fault (List (List Char × Value)) := do
  match parts false false contentType with
  | [] => return []
  | first :: others =>
    let parts ← others.mapM readPart
    let whole := parts.filterMap fun part =>
      match part with
      | .whole name value => some (name,Value.plain value)
      | .segment .. => none
    let segmented ← (segmentNames parts).mapM fun name =>
      return (name,← joined (segmentsOf name parts))
    let (name,value) := nameAndValue first
    return (name,.plain value) :: whole ++ segmented

def Value.text : Value → Except Fault (List Char)
  | plain text => .ok text
  | encoded charset bytes =>
    if charset.contains (Char.ofNat 0) then .error .zeroInName
    else
      let known := if charset.isEmpty then some (.page .ascii) else Charset.named? charset
      .ok ((((known.bind (·.decode? bytes)).getD bytes)).map Char.ofNat)

def charsetName? (contentType : List Char) : Except Fault (Option (List Char)) := do
  match (← parameters contentType).find? (·.1.map Char.toLower == "charset".toList) with
  | none => return none
  | some (_,value) =>
    let name ← value.text
    return if name.all (·.toNat < 0x80) then some (name.map Char.toLower) else none

def charset? (contentType : List Char) : Except Fault (Option Charset) := do
  match ← charsetName? contentType with
  | none => return none
  | some name =>
    if name.contains (Char.ofNat 0) then throw .zeroInName
    return Charset.named? name

end ScopedAnalytics.ContentType
