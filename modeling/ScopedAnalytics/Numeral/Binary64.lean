/-! Binary floating-point numbers of 64 bits, as exact values. A finite number is a significand
below `2 ^ 53` times a power of two, counted in units of the least positive number `2 ^ -1074`.
Operations compute exactly in integers and round once, to the nearest number, a tie to the even
significand. -/
namespace ScopedAnalytics

/-- The finite number is `± significand * 2 ^ power` units of `2 ^ -1074`. -/
inductive Binary64 where
  | finite (negative : Bool) (significand power : Nat)
  | infinite (negative : Bool)
  | nan
deriving DecidableEq, Repr

namespace Binary64

/-- Units of the least positive number in one. -/
def unit : Nat := Nat.pow 2 1074

def zero (negative : Bool) : Binary64 := finite negative 0 0

def isFinite : Binary64 → Bool
  | finite .. => true
  | _ => false

/-- The quotient of two numbers rounded to the nearest integer, a tie to the even one. -/
def roundQuotient (numerator denominator : Nat) : Nat :=
  let quotient := numerator / denominator
  let twice := 2 * (numerator % denominator)
  if twice < denominator then quotient
  else if twice = denominator then quotient + quotient % 2
  else quotient + 1

/-- The number nearest to `numerator / denominator` units, infinite past the greatest one. -/
def roundUnits (negative : Bool) (numerator denominator : Nat) : Binary64 :=
  let power := Nat.log2 (numerator / denominator) - 52
  let significand := roundQuotient numerator (denominator * Nat.pow 2 power)
  let (significand,power) :=
    if significand = Nat.pow 2 53 then (Nat.pow 2 52,power + 1) else (significand,power)
  if power ≤ 2045 then finite negative significand power else infinite negative

def units : Binary64 → Nat
  | finite _ significand power => significand * Nat.pow 2 power
  | _ => 0

def signedUnits : Binary64 → Int
  | finite true significand power => -(significand * Nat.pow 2 power : Nat)
  | finite false significand power => (significand * Nat.pow 2 power : Nat)
  | _ => 0

def ofInt (n : Int) : Binary64 := roundUnits (n < 0) (n.natAbs * unit) 1

/-- The number nearest to an integer, none if the integer is too large for a finite one. -/
def ofInt? (n : Int) : Option Binary64 :=
  let x := ofInt n
  if x.isFinite then some x else none

/-- The number nearest to `± digits * 10 ^ exponent`. A magnitude outside `10 ^ -400` to
`10 ^ 400` is infinite or zero without being computed. -/
def ofDecimal (negative : Bool) (digits : Nat) (exponent : Int) : Binary64 :=
  let size := (Nat.toDigits 10 digits).length + exponent
  if digits = 0 ∨ size < -400 then zero negative
  else if 400 < size then infinite negative
  else if exponent < 0 then roundUnits negative (digits * unit) (Nat.pow 10 exponent.natAbs)
  else roundUnits negative (digits * Nat.pow 10 exponent.natAbs * unit) 1

/-- Addition. The sum of opposite numbers is positive zero. -/
def add : Binary64 → Binary64 → Binary64
  | nan, _ | _, nan => nan
  | infinite a, infinite b => if a = b then infinite a else nan
  | infinite a, finite .. | finite .., infinite a => infinite a
  | finite a m p, finite b n q =>
    let total := (finite a m p).signedUnits + (finite b n q).signedUnits
    if total = 0 then zero (a && b)
    else roundUnits (total < 0) total.natAbs 1

instance : Add Binary64 := ⟨add⟩

/-- Whether the first number is at most the second; an undefined number is comparable to none. -/
def le : Binary64 → Binary64 → Bool
  | nan, _ | _, nan => false
  | infinite true, _ | _, infinite false => true
  | infinite false, _ | _, infinite true => false
  | x@(finite ..), y@(finite ..) => x.signedUnits ≤ y.signedUnits

/-- Whether two numbers are equal as values: the zeros are, an undefined number is to none. -/
def sameValue (x y : Binary64) : Bool := x.le y && y.le x

def isNegative (x : Binary64) : Bool := !(zero false).le x && x != nan

end Binary64
end ScopedAnalytics
