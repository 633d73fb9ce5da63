import ScopedAnalytics.Text
import ScopedAnalytics.Text.Printable

/-! Texts written as quoted literals, the form in which messages show a value. The literal
stands in single quotes, or in double quotes when it holds a single quote and no double one;
what does not show as itself is escaped. -/
namespace ScopedAnalytics.Text

def hexDigits (width n : Nat) : List Char :=
  let digits := Nat.toDigits 16 n
  List.replicate (width - digits.length) '0' ++ digits

def numericEscape (code : Nat) : List Char :=
  if code < 0x100 then '\\' :: 'x' :: hexDigits 2 code
  else if code < 0x10000 then '\\' :: 'u' :: hexDigits 4 code
  else '\\' :: 'U' :: hexDigits 8 code

def quotedLetter (quote : Char) (letter : Letter) : List Char :=
  match letter with
  | .half offset => numericEscape (0xD800 + offset)
  | .char '\n' => ['\\','n']
  | .char '\r' => ['\\','r']
  | .char '\t' => ['\\','t']
  | .char c =>
    if c == quote || c == '\\' then ['\\',c]
    else if isPrintable c.toNat then [c]
    else numericEscape c.toNat

def quoteFor (t : Text) : Char :=
  if t.letters.contains (.char '\'') && !t.letters.contains (.char '"') then '"' else '\''

def quoted (t : Text) : String :=
  let quote := quoteFor t
  String.ofList (quote :: t.letters.flatMap (quotedLetter quote) ++ [quote])

end ScopedAnalytics.Text

def ScopedAnalytics.quoted (s : String) : String := (Text.ofString s).quoted
