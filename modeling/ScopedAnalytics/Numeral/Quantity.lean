import ScopedAnalytics.Numeral.Integer
import ScopedAnalytics.Numeral.Shortest

/-! Numbers that are given either as integers or as floating-point numbers. The text of a quantity
shows which of them it is. A length of time is always a proper number. -/
namespace ScopedAnalytics

inductive Quantity where
  | whole (n : Int)
  | real (x : Binary64)
deriving DecidableEq, Repr

namespace Quantity

/-- The text of a quantity, none of an integer that cannot be written. -/
def text? : Quantity → Option String
  | whole n => Numeral.written? n
  | real x => some x.text

def isNegative : Quantity → Bool
  | whole n => n < 0
  | real x => x.isNegative

/-- Whether a quantity is zero or below. An undefined number is not. -/
def isSpent : Quantity → Bool
  | whole n => n ≤ 0
  | real x => x.le (.zero false)

/-- The floating-point number nearest to a quantity, none if an integer is too large for one. -/
def approximate? : Quantity → Option Binary64
  | whole n => Binary64.ofInt? n
  | real x => some x

end Quantity

/-- A length of time in seconds, neither infinite nor undefined. -/
structure Duration where
  seconds : Binary64
  isProper : seconds.isFinite = true
deriving DecidableEq, Repr

def Duration.zero : Duration := ⟨.zero false,rfl⟩

end ScopedAnalytics
