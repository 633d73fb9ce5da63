import ScopedAnalytics.Http.Url.Label.Composition
import ScopedAnalytics.Http.Url.Label.Direction
import ScopedAnalytics.Http.Url.Label.Joining
import ScopedAnalytics.Http.Url.Label.Letter

/-! Labels that a name of a host may have: in composed form, of letters, digits, marks and inner
hyphens, written in one direction, with few other characters, and with these only where their
neighbours give them a meaning. -/
namespace ScopedAnalytics.Label

def lengthLimit : Nat := 254

def viramaClass : Nat := 9

/-- Whether a code point may stand after some, which are in reverse order, and before others. -/
def fits (label before : List Nat) (code : Nat) (after : List Nat) : Bool :=
  let afterVirama := (before.head?.map markClass) == some viramaClass
  if isFree code then true
  else if code = 0x200C then afterVirama || partsJoined before after
  else if code = 0x200D then afterVirama
  else if code = 0xB7 then before.head? == some 'l'.toNat && after.head? == some 'l'.toNat
  else if code = 0x375 then (after.head?.map isGreek).getD false
  else if code = 0x5F3 ∨ code = 0x5F4 then (before.head?.map isHebrew).getD false
  else if code = 0x30FB then label.any fun other => other != code && isJapanese other
  else if isArabicDigit code then !label.any isExtendedDigit
  else if isExtendedDigit code then !label.any isArabicDigit
  else false

def restFits (label before : List Nat) : List Nat → Bool
  | [] => true
  | code :: after => fits label before code after && restFits label (code :: before) after

/-- Whether no hyphens stand at the ends of a label, nor two as its third and fourth characters. -/
def hyphensFit (label : List Nat) : Bool :=
  let hyphen := '-'.toNat
  label.head? != some hyphen && label.getLast? != some hyphen &&
    (label.drop 2).take 2 != [hyphen,hyphen]

def isValid (label : List Nat) : Bool :=
  !label.isEmpty && label.length ≤ lengthLimit && isComposed label && hyphensFit label &&
    !((label.head?.map Text.isMark).getD false) && restFits label [] label && isDirected label

end ScopedAnalytics.Label
