import ScopedAnalytics.Document.Token

/-! The next token of a text. White space, commas, byte order marks and comments are skipped. -/
namespace ScopedAnalytics.Document

def isNameStart (c : Char) : Bool :=
  c == '_' || ('a' ≤ c && c ≤ 'z') || ('A' ≤ c && c ≤ 'Z')

def isDigit (c : Char) : Bool := '0' ≤ c && c ≤ '9'

/-- Letters, digits and underscores continue a name. -/
def isNamePart (c : Char) : Bool := isNameStart c || isDigit c

/-- The text from the next token on. `comment` says that the text continues a comment. -/
def skipIgnored (comment : Bool) : List Char → List Char
  | [] => []
  | c :: rest =>
    if c == '\n' || c == '\r' then skipIgnored false rest
    else if comment then skipIgnored true rest
    else if c == '\uFEFF' || c == '\t' || c == ' ' || c == ',' then skipIgnored false rest
    else if c == '#' then skipIgnored true rest
    else c :: rest

/-- The digits at the start of a text, at least one. -/
def scanDigits (cs : List Char) : Except Fault (List Char × List Char) :=
  match cs.span isDigit with
  | ([],rest) => .error (.digitExpected rest.head?)
  | split => .ok split

/-- The whole part of a number: a zero alone or digits that do not begin with one. -/
def scanWhole : List Char → Except Fault (List Char × List Char)
  | '0' :: c :: rest => if isDigit c then .error (.digitAfterZero c) else .ok (['0'],c :: rest)
  | '0' :: [] => .ok (['0'],[])
  | cs => scanDigits cs

def scanFraction : List Char → Except Fault (List Char × List Char)
  | '.' :: rest => (scanDigits rest).map fun (digits,rest) => ('.' :: digits,rest)
  | cs => .ok ([],cs)

def scanExponent : List Char → Except Fault (List Char × List Char)
  | mark :: rest =>
    if mark == 'e' || mark == 'E' then
      let (sign,run) :=
        match rest with
        | '+' :: run => (['+'],run)
        | '-' :: run => (['-'],run)
        | run => ([],run)
      (scanDigits run).map fun (digits,rest) => (mark :: sign ++ digits,rest)
    else .ok ([],mark :: rest)
  | [] => .ok ([],[])

/-- A number. Neither a point nor a letter may follow it. -/
def scanNumber (cs : List Char) : Except Fault (Token × List Char) := do
  let (sign,run) :=
    match cs with
    | '-' :: run => (['-'],run)
    | run => ([],run)
  let (whole,rest) ← scanWhole run
  let (fraction,rest) ← scanFraction rest
  let (exponent,rest) ← scanExponent rest
  let number := String.ofList (sign ++ whole ++ fraction ++ exponent)
  if rest.head?.any (fun c => c == '.' || isNameStart c) then
    .error (.digitExpected rest.head?)
  else if fraction.isEmpty && exponent.isEmpty then return (.int number,rest)
  else return (.float number,rest)

def hexValue? (c : Char) : Option Nat :=
  if isDigit c then some (c.toNat - '0'.toNat)
  else if 'a' ≤ c && c ≤ 'f' then some (c.toNat - 'a'.toNat + 10)
  else if 'A' ≤ c && c ≤ 'F' then some (c.toNat - 'A'.toNat + 10)
  else none

def scalar? (code : Nat) : Option Char :=
  if code < 0xD800 ∨ (0xDFFF < code ∧ code ≤ 0x10FFFF) then some (Char.ofNat code) else none

def hexQuad? : List Char → Option Nat
  | a :: b :: c :: d :: _ => do
    let a ← hexValue? a
    let b ← hexValue? b
    let c ← hexValue? c
    let d ← hexValue? d
    return ((a * 16 + b) * 16 + c) * 16 + d
  | _ => none

/-- An escape of four digits, given with its backslash: the character and the escape's length. A
high surrogate has to be followed by the escape of a low one. -/
def scanFixedEscape (cs : List Char) : Except Fault (Char × Nat) :=
  let invalid := Except.error (.invalidCodePoint (String.ofList (cs.take 6)))
  match hexQuad? (cs.drop 2) with
  | none => invalid
  | some code =>
    match scalar? code with
    | some c => .ok (c,6)
    | none =>
      match (cs.drop 6).take 2, hexQuad? (cs.drop 8) with
      | ['\\','u'], some low =>
        if code < 0xDC00 ∧ 0xDC00 ≤ low ∧ low < 0xE000 then
          .ok (Char.ofNat (0x10000 + (code - 0xD800) * 0x400 + (low - 0xDC00)),12)
        else invalid
      | _, _ => invalid

/-- The code point of an escape in braces and the escape's length, or the length at which it went
wrong. `size` characters stand before; an escape has at most twelve. -/
def scanBraced (code size : Nat) : List Char → Except Nat (Char × Nat)
  | [] => .error size
  | c :: rest =>
    if 12 ≤ size then .error size
    else if c == '}' then
      match scalar? code with
      | some scalar => if size < 4 then .error (size + 1) else .ok (scalar,size + 1)
      | none => .error (size + 1)
    else
      match hexValue? c with
      | some digit => scanBraced (code * 16 + digit) (size + 1) rest
      | none => .error (size + 1)

def scanEscape (cs : List Char) : Except Fault (Char × Nat) :=
  match cs with
  | _ :: 'u' :: '{' :: rest =>
    match scanBraced 0 3 rest with
    | .ok found => .ok found
    | .error size => .error (.invalidCodePoint (String.ofList (cs.take size)))
  | _ :: 'u' :: _ => scanFixedEscape cs
  | _ :: '"' :: _ => .ok ('"',2)
  | _ :: '\\' :: _ => .ok ('\\',2)
  | _ :: '/' :: _ => .ok ('/',2)
  | _ :: 'b' :: _ => .ok ('\x08',2)
  | _ :: 'f' :: _ => .ok ('\x0c',2)
  | _ :: 'n' :: _ => .ok ('\n',2)
  | _ :: 'r' :: _ => .ok ('\r',2)
  | _ :: 't' :: _ => .ok ('\t',2)
  | _ => .error (.unknownEscape (String.ofList (cs.take 2)))

/-- The value of a string up to its closing quote on the same line, and the text after it.
`escaped` characters at the start belong to an escape that has been read. -/
def scanText (escaped : Nat) : List Char → Except Fault (List Char × List Char)
  | [] => .error .unterminated
  | c :: rest =>
    match escaped with
    | left + 1 => scanText left rest
    | 0 =>
      if c == '"' then .ok ([],rest)
      else if c == '\n' || c == '\r' then .error .unterminated
      else if c == '\\' then do
        let (value,size) ← scanEscape (c :: rest)
        let (values,after) ← scanText (size - 1) rest
        return (value :: values,after)
      else do
        let (values,after) ← scanText 0 rest
        return (c :: values,after)

/-- The raw lines of a block string up to its closing quotes, and the text after them. `line` holds
the characters of the line so far, last one first. -/
def scanBlockLines (line : List Char) :
    List Char → Except Fault (List (List Char) × List Char)
  | '"' :: '"' :: '"' :: rest => .ok ([line.reverse],rest)
  | '\\' :: '"' :: '"' :: '"' :: rest => scanBlockLines ('"' :: '"' :: '"' :: line) rest
  | '\r' :: '\n' :: rest => do
    let (lines,after) ← scanBlockLines [] rest
    return (line.reverse :: lines,after)
  | '\n' :: rest | '\r' :: rest => do
    let (lines,after) ← scanBlockLines [] rest
    return (line.reverse :: lines,after)
  | c :: rest => scanBlockLines (c :: line) rest
  | [] => .error .unterminated

def indentOf (line : List Char) : Nat := (line.takeWhile fun c => c == ' ' || c == '\t').length

def isBlankLine (line : List Char) : Bool := indentOf line == line.length

/-- The lines of a block string without the indentation common to all but the first, and without
the blank lines at both ends. -/
def dedent (lines : List (List Char)) : List (List Char) :=
  let indents := ((lines.drop 1).filter (!isBlankLine ·)).map indentOf
  let common := indents.min?
  let trimmed := lines.take 1 ++ (lines.drop 1).map fun line =>
    match common with
    | some width => line.drop width
    | none => []
  let keep := lines.map (!isBlankLine ·)
  let marked := trimmed.zip keep
  let leading := marked.dropWhile (!·.2)
  ((leading.reverse.dropWhile (!·.2)).reverse).map (·.1)

def blockValue (lines : List (List Char)) : String :=
  String.ofList (List.intercalate ['\n'] (dedent lines))

def scanPoint : List Char → Except Fault (Token × List Char)
  | '.' :: '.' :: rest => .ok (.sign .spread,rest)
  | '.' :: _ => .error .doublePoint
  | rest =>
    match rest.span isDigit with
    | ([],_) => .error (.unexpectedCharacter '.')
    | (digits,_) => .error (.wholePartMissing (String.ofList digits))

def scanToken (cs : List Char) : Except Fault (Token × List Char) :=
  match cs with
  | [] => .ok (.ending,[])
  | '"' :: '"' :: '"' :: rest => do
    let (lines,after) ← scanBlockLines [] rest
    return (.block (blockValue lines),after)
  | '"' :: rest => do
    let (value,after) ← scanText 0 rest
    return (.text (String.ofList value),after)
  | '.' :: rest => scanPoint rest
  | c :: rest =>
    match Sign.ofChar? c with
    | some sign => .ok (.sign sign,rest)
    | none =>
      if isDigit c || c == '-' then scanNumber cs
      else if isNameStart c then
        let (name,after) := cs.span isNamePart
        .ok (.name (String.ofList name),after)
      else if c == '\'' then .error .singleQuote
      else .error (.unexpectedCharacter c)

def nextToken (cs : List Char) : Except Fault (Token × List Char) :=
  scanToken (skipIgnored false cs)

end ScopedAnalytics.Document
