/-! The lines of a text. A line ends with any of the line separators of all scripts; a carriage
return and the line feed after it end one line together. -/
namespace ScopedAnalytics.Text

def endsLine (c : Char) : Bool :=
  ('\n' ≤ c && c ≤ '\r') || ('\x1c' ≤ c && c ≤ '\x1e') ||
    c == '\u0085' || c == '\u2028' || c == '\u2029'

def lines (cs : List Char) : List (List Char) :=
  match cs with
  | [] => []
  | '\r' :: '\n' :: rest => [] :: lines rest
  | c :: rest =>
    if endsLine c then [] :: lines rest
    else
      match lines rest with
      | [] => [[c]]
      | line :: others => (c :: line) :: others

end ScopedAnalytics.Text
