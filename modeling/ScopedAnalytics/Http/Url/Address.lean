import ScopedAnalytics.Http.Url.Percent

/-! Numeric addresses of hosts. -/
namespace ScopedAnalytics.Address

def splitAtChar (separator : Char) : List Char → List (List Char)
  | [] => [[]]
  | c :: rest =>
    if c = separator then [] :: splitAtChar separator rest
    else
      match splitAtChar separator rest with
      | [] => [[c]]
      | part :: others => (c :: part) :: others

def isOctet (part : List Char) : Bool :=
  !part.isEmpty && part.length ≤ 3 && part.all Char.isDigit &&
    (part.length == 1 || part.head? != some '0') && Nat.ofDigitChars 10 part 0 ≤ 255

def isVersion4 (cs : List Char) : Bool :=
  match splitAtChar '.' cs with
  | [a,b,c,d] => isOctet a && isOctet b && isOctet c && isOctet d
  | _ => false

/-- Whether a text looks like an address of version 4, four numbers with points between them, and
so must be one. -/
def looksVersion4 (cs : List Char) : Bool :=
  let parts := splitAtChar '.' cs
  parts.length == 4 && parts.all fun part => !part.isEmpty && part.all Char.isDigit

def isHextet (part : List Char) : Bool :=
  !part.isEmpty && part.length ≤ 4 && part.all Percent.isHexDigit

/-- The parts of an address of version 6, in which an address of version 4 at the end stands for
two. -/
def hextetParts? (cs : List Char) : Option (List (List Char)) :=
  let parts := splitAtChar ':' cs
  let last := parts.getLastD []
  if parts.length < 3 then none
  else if last.contains '.' then
    if isVersion4 last then some (parts.dropLast ++ [['0'],['0']]) else none
  else some parts

/-- Whether the parts on one side of a gap are numbers, with nothing at the outer end only where
the gap itself stands at the end. -/
def isSide (parts : List (List Char)) : Bool := parts == [[]] || parts.all isHextet

/-- Whether a text is an address of version 6 without a zone. An empty part within it is a gap,
which stands for one part or more. -/
def isPlainVersion6 (cs : List Char) : Bool :=
  match hextetParts? cs with
  | none => false
  | some parts =>
    let inner := parts.tail.dropLast
    match inner.count [] with
    | 0 => parts.length == 8 && parts.all isHextet
    | 1 =>
      let before := parts.take (1 + inner.idxOf [])
      let after := parts.drop (2 + inner.idxOf [])
      let size (side : List (List Char)) := if side == [[]] then 0 else side.length
      parts.length ≤ 9 && isSide before && isSide after && size before + size after < 8
    | _ => false

/-- Whether a text is an address of version 6. A zone after a percent sign must have a name. -/
def isVersion6 (cs : List Char) : Bool :=
  match cs.span (· != '%') with
  | (address,[]) => isPlainVersion6 address
  | (address,_ :: zone) => !zone.isEmpty && !zone.contains '%' && isPlainVersion6 address

end ScopedAnalytics.Address
