import ScopedAnalytics.Charset.Designation
import ScopedAnalytics.Charset.Page
import ScopedAnalytics.Charset.Unicode

/-! Charsets: the ways in which bytes stand for text. -/
namespace ScopedAnalytics

/-- A charset of one to eight bytes a character, where each character stands for itself. -/
inductive Charset.Scheme where
  | shift | shiftPlanes (edition : Charset.Edition) | shiftWindows
  | extendedJapanese | extendedPlanes (edition : Charset.Edition)
  | korean | koreanWindows | koreanCombined
  | simplified | simplifiedExtended | simplifiedUniversal
  | traditional | traditionalWindows | traditionalHongKong
deriving DecidableEq, Repr

/-- What is known by the name of a charset and is none: a form of bytes, a form of letters, nothing
at all, or a form of the names of hosts. -/
inductive Charset.Pretender where
  | bytes | letters | nothing | hostNames
deriving DecidableEq, Repr

/-- A charset: single bytes, a scheme of several bytes, sets of characters that escape sequences
designate, pairs of bytes between marks, digits between marks, a form of code points, escapes of
string literals or of code points alone, or the ASCII form of labels. -/
inductive Charset where
  | page (p : Charset.Page)
  | scheme (s : Charset.Scheme)
  | designating (d : Charset.Designating)
  | marked
  | shifted
  | unicode (form : Charset.Unicode)
  | literal
  | codes
  | punycode
  | pretender (p : Charset.Pretender)
deriving DecidableEq, Repr

end ScopedAnalytics
