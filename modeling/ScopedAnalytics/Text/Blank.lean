/-! The white space that may surround a numeral: the ASCII controls from tab to carriage return,
the space, and every white space character beyond ASCII. The ASCII separators `U+001C` to
`U+001F` are not among them. -/
namespace ScopedAnalytics.Text

/-- Code points of white space beyond ASCII, as inclusive ranges. -/
def wideBlanks : List (Nat × Nat) :=
  [(0x85,0x85),(0xA0,0xA0),(0x1680,0x1680),(0x2000,0x200A),(0x2028,0x2029),(0x202F,0x202F),
    (0x205F,0x205F),(0x3000,0x3000)]

def inRanges (ranges : List (Nat × Nat)) (code : Nat) : Bool :=
  ranges.any fun range => range.1 ≤ code && code ≤ range.2

def isBlank (c : Char) : Bool :=
  c == ' ' || ('\t' ≤ c && c ≤ '\r') || inRanges wideBlanks c.toNat

def trimBlanks (cs : List Char) : List Char :=
  ((cs.dropWhile isBlank).reverse.dropWhile isBlank).reverse

end ScopedAnalytics.Text
