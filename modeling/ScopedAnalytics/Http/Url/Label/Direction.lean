import ScopedAnalytics.Text.Mark

/-! The direction of writing in labels. The ranges here name only characters of labels; all others
of them are written from left to right. -/
namespace ScopedAnalytics.Label

inductive Direction where
  | leftward | rightward | arabicNumber | number | neutral | mark
deriving DecidableEq, Repr

/-- Code points of letters that are written from right to left, as inclusive ranges. -/
def leftwardLetters : List (Nat × Nat) :=
  [(0x5D0,0x5EA),(0x5EF,0x5F4),(0x620,0x63F),(0x641,0x64A),(0x66E,0x66F),(0x671,0x674),
    (0x679,0x6D3),(0x6D5,0x6D5),(0x6E5,0x6E6),(0x6EE,0x6EF),(0x6FA,0x6FF),(0x710,0x710),
    (0x712,0x72F),(0x74D,0x7A5),(0x7B1,0x7B1),(0x7C0,0x7EA),(0x7F4,0x7F5),(0x800,0x815),
    (0x81A,0x81A),(0x824,0x824),(0x828,0x828),(0x840,0x858),(0x860,0x86A),(0x870,0x887),
    (0x889,0x88E),(0x8A0,0x8C9),(0xFE73,0xFE73),(0x10800,0x10805),(0x10808,0x10808),
    (0x1080A,0x10835),(0x10837,0x10838),(0x1083C,0x1083C),(0x1083F,0x10855),(0x10860,0x10876),
    (0x10880,0x1089E),(0x108E0,0x108F2),(0x108F4,0x108F5),(0x10900,0x10915),(0x10920,0x10939),
    (0x10980,0x109B7),(0x109BE,0x109BF),(0x10A00,0x10A00),(0x10A10,0x10A13),(0x10A15,0x10A17),
    (0x10A19,0x10A35),(0x10A60,0x10A7C),(0x10A80,0x10A9C),(0x10AC0,0x10AC7),(0x10AC9,0x10AE4),
    (0x10B00,0x10B35),(0x10B40,0x10B55),(0x10B60,0x10B72),(0x10B80,0x10B91),(0x10C00,0x10C48),
    (0x10CC0,0x10CF2),(0x10D00,0x10D23),(0x10E80,0x10EA9),(0x10EB0,0x10EB1),(0x10F00,0x10F1C),
    (0x10F27,0x10F27),(0x10F30,0x10F45),(0x10F70,0x10F81),(0x10FB0,0x10FC4),(0x10FE0,0x10FF6),
    (0x1E800,0x1E8C4),(0x1E922,0x1E943),(0x1E94B,0x1E94B),(0x1E950,0x1E959)]

/-- Code points of numbers in Arabic script, as inclusive ranges. -/
def arabicNumbers : List (Nat × Nat) :=
  [(0x660,0x669),(0x10D30,0x10D39)]

/-- Code points of numbers that go with all scripts, as inclusive ranges. -/
def commonNumbers : List (Nat × Nat) :=
  [(0x30,0x39),(0x6F0,0x6F9)]

/-- Code points of characters without a direction, as inclusive ranges. -/
def neutralLetters : List (Nat × Nat) :=
  [(0x2D,0x2D),(0xB7,0xB7),(0x2B9,0x2BA),(0x2C6,0x2CF),(0x2EC,0x2EC),(0x375,0x375),(0x200C,0x200D),
    (0x2E2F,0x2E2F),(0x30FB,0x30FB),(0xA67F,0xA67F),(0xA717,0xA71F),(0xA788,0xA788)]

/-- Code points of nonspacing marks that are written from left to right, as inclusive ranges. -/
def rightwardMarks : List (Nat × Nat) :=
  [(0xCBF,0xCBF),(0xCC6,0xCC6),(0x11A07,0x11A08),(0x11C3F,0x11C3F)]

def direction (code : Nat) : Direction :=
  if Text.inRanges leftwardLetters code then .leftward
  else if Text.inRanges arabicNumbers code then .arabicNumber
  else if Text.inRanges commonNumbers code then .number
  else if Text.inRanges neutralLetters code then .neutral
  else if Text.isNonspacing code && !Text.inRanges rightwardMarks code then .mark
  else .rightward

/-- Whether a label goes from right to left: it begins with such a letter, ends with one or with a
number, marks apart, holds nothing that goes the other way, and has numbers of one kind only. -/
def isLeftward (directions : List Direction) : Bool :=
  let ending := (directions.filter (· != .mark)).getLast?
  directions.head? == some .leftward && !directions.contains .rightward &&
    !(directions.contains .arabicNumber && directions.contains .number) &&
    (ending == some .leftward || ending == some .arabicNumber || ending == some .number)

/-- Whether a label goes in one direction: from right to left as a whole if anything in it does. -/
def isDirected (label : List Nat) : Bool :=
  let directions := label.map direction
  !(directions.contains .leftward || directions.contains .arabicNumber) || isLeftward directions

end ScopedAnalytics.Label
