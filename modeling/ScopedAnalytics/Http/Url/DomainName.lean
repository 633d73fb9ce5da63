import ScopedAnalytics.Http.Url.Address
import ScopedAnalytics.Http.Url.Label
import ScopedAnalytics.Http.Url.Punycode

/-! Names of hosts. A name consists of labels with points between them; labels with characters
beyond ASCII have an ASCII form, which is marked by its first four characters. -/
namespace ScopedAnalytics.DomainName

def mark : List Char := "xn--".toList

def labelLimit : Nat := 63

def lengthLimit (ending : Bool) : Nat := if ending then 254 else 253

def meaning? (label : List Char) : Option (List Nat) :=
  if label.take 4 = mark then
    let form := label.drop 4
    if form.isEmpty ∨ form.getLast? = some '-' then none else Punycode.decode? form
  else some (label.map Char.toNat)

def encodeLabel? (label : List Char) : Option (List Char) :=
  let isAscii := label.all (·.toNat < 0x80)
  let form := if isAscii then label else mark ++ Punycode.encode label
  let codes? := if isAscii then meaning? label else some (label.map Char.toNat)
  match codes? with
  | some codes => if Label.isValid codes ∧ form.length ≤ labelLimit then some form else none
  | none => none

def isSeparator (c : Char) : Bool :=
  c == '.' || c == '\u3002' || c == '\uFF0E' || c == '\uFF61'

/-- The ASCII form of a name, unless a label of it is not valid or it is too long. A separator may
stand at the end. -/
def encode? (name : List Char) : Option (List Char) := do
  if lengthLimit true < name.length then none
  let parts := Address.splitAtChar '.' (name.map fun c => if isSeparator c then '.' else c)
  let ending := parts.getLast? == some []
  let labels ← (if ending then parts.dropLast else parts).mapM encodeLabel?
  let form := (labels.intersperse ['.']).flatten ++ (if ending then ['.'] else [])
  if form.length ≤ lengthLimit ending then some form else none

end ScopedAnalytics.DomainName
