/-! Pages: charsets in which each byte stands for one character or for none. -/
namespace ScopedAnalytics.Charset

/-- A page with its names. The bytes below `first` stand for the characters of the same number.
Each row holds the characters of the next sixteen bytes, with the replacement character for a byte
that stands for none. -/
structure Page where
  name : String
  aliases : List String := []
  first : Nat
  rows : List String
deriving DecidableEq, Repr

namespace Page

def code? (p : Page) (b : Nat) : Option Nat :=
  if b < p.first then some b
  else
    let place := b - p.first
    (((p.rows[place / 16]?).bind (·.toList[place % 16]?)).filter (· != '\uFFFD')).map Char.toNat

def ascii : Page where
  name := "ascii"
  aliases := ["646","ansi_x3.4_1968","ansi_x3_4_1968","ansi_x3.4_1986","cp367","csascii","ibm367",
    "iso646_us","iso_646.irv_1991","iso_ir_6","us","us_ascii"]
  first := 0x80
  rows := []

def latin1 : Page where
  name := "latin_1"
  aliases := ["8859","charmap","cp819","csisolatin1","ibm819","iso8859","iso8859_1","iso_8859_1",
    "iso_8859_1_1987","iso_ir_100","l1","latin","latin1"]
  first := 0x100
  rows := []

end Page
end ScopedAnalytics.Charset
