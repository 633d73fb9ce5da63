import ScopedAnalytics.Numeral.Binary64

/-! The shortest decimal text of a floating-point number: as few digits as read back to the same
number, and of those the ones nearest to it. -/
namespace ScopedAnalytics.Binary64

/-- A decimal `digits * 10 ^ exponent`. -/
structure Decimal where
  digits : Nat
  exponent : Int
deriving DecidableEq, Repr

/-- The exponent of the leading decimal digit of `numerator / denominator`. -/
def leadingExponent (numerator denominator : Nat) : Int :=
  let count (n : Nat) := (Nat.toDigits 10 n).length
  if denominator ≤ numerator then (count (numerator / denominator) : Int) - 1
  else
    let places := count (denominator / numerator)
    if denominator ≤ numerator * Nat.pow 10 (places - 1) then -((places : Int) - 1) else -places

def scaled (numerator denominator : Nat) (exponent : Int) : Nat × Nat :=
  if exponent < 0 then (numerator * Nat.pow 10 exponent.natAbs,denominator)
  else (numerator,denominator * Nat.pow 10 exponent.natAbs)

/-- The decimals of `count` digits next below and above a magnitude in units, nearer one first. -/
def neighbours (magnitude count : Nat) : List Decimal :=
  let exponent := leadingExponent magnitude unit - (count - 1)
  let (numerator,denominator) := scaled magnitude unit exponent
  let below := numerator / denominator
  let twice := 2 * (numerator % denominator)
  let ordered :=
    if twice < denominator ∨ (twice = denominator ∧ below % 2 = 0) then [below,below + 1]
    else [below + 1,below]
  ordered.map (⟨·,exponent⟩)

/-- The shortest decimal that reads back to the magnitude in units. Seventeen digits suffice. -/
def shortest (magnitude : Nat) : Decimal :=
  let target := roundUnits false magnitude 1
  let found := (List.range 17).findSome? fun count =>
    (neighbours magnitude (count + 1)).find? fun d => ofDecimal false d.digits d.exponent == target
  found.getD ⟨magnitude,-1074⟩

/-- The digits of a decimal without trailing zeros, and the place of its point: the number of
digits before it. -/
def Decimal.places (d : Decimal) : List Char × Int :=
  let digits := Nat.toDigits 10 d.digits
  let point := digits.length + d.exponent
  ((digits.reverse.dropWhile (· == '0')).reverse,point)

/-- How floating-point numbers are written: in positional notation while the point is at most
`positionalLimit` digits after and less than four places before the first digit, and with an
exponent of at least two digits otherwise. -/
def positionalLimit : Int := 16

def exponentText (exponent : Int) : List Char :=
  let digits := Nat.toDigits 10 exponent.natAbs
  (if exponent < 0 then '-' else '+') :: (if digits.length < 2 then '0' :: digits else digits)

/-- Digits with the point after `point` of them. -/
def layout (digits : List Char) (point : Int) : List Char :=
  if point ≤ -4 ∨ positionalLimit < point then
    let fraction := if digits.length ≤ 1 then [] else '.' :: digits.drop 1
    digits.take 1 ++ fraction ++ 'e' :: exponentText (point - 1)
  else if point ≤ 0 then '0' :: '.' :: List.replicate point.natAbs '0' ++ digits
  else
    let before := point.toNat
    let fraction := digits.drop before
    digits.take before ++ List.replicate (before - digits.length) '0' ++
      '.' :: (if fraction.isEmpty then ['0'] else fraction)

def text : Binary64 → String
  | nan => "nan"
  | infinite negative => if negative then "-inf" else "inf"
  | x@(finite negative significand _) =>
    let magnitude :=
      if significand = 0 then ['0','.','0']
      else let (digits,point) := (shortest x.units).places; layout digits point
    String.ofList (if negative then '-' :: magnitude else magnitude)

end ScopedAnalytics.Binary64
