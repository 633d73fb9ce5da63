import ScopedAnalytics.Numeral.Binary64
import ScopedAnalytics.Numeral.Digits

/-! Floating-point numbers read from decimal text: blanks around an optional sign and either a
decimal with optional fraction and exponent, or one of the words for an infinite or undefined
number in any letter case. -/
namespace ScopedAnalytics.Numeral

def splitFirst {α : Type} (test : α → Bool) (items : List α) : List α × Option (List α) :=
  match items.span (!test ·) with
  | (before,[]) => (before,none)
  | (before,_ :: after) => (before,some after)

def readExponent? (cs : List Char) : Option Int :=
  let (negative,run) := splitSign cs
  (readDigits? 10 run).map fun digits => signedExponent negative (ofDigits 10 digits)
where
  signedExponent (negative : Bool) (magnitude : Nat) : Int :=
    if negative then -(magnitude : Int) else magnitude

/-- The digits of a decimal's whole part and fraction; one of them may be empty. -/
def readPlaces? (whole : List Char) (fraction : Option (List Char)) :
    Option (List Nat × List Nat) :=
  let run (cs : List Char) := if cs.isEmpty then some [] else readDigits? 10 cs
  match run whole, run (fraction.getD []) with
  | some [], some [] => none
  | some before, some after => some (before,after)
  | _, _ => none

def readUnsigned? (negative : Bool) (cs : List Char) : Option Binary64 :=
  let (mantissa,exponentText) := splitFirst (fun c => c == 'e' || c == 'E') cs
  let (whole,fraction) := splitFirst (· == '.') mantissa
  match readPlaces? whole fraction, exponentText.elim (some 0) readExponent? with
  | some (before,after), some exponent =>
    some (.ofDecimal negative (ofDigits 10 (before ++ after)) (exponent - after.length))
  | _, _ => none

def readBinary64? (cs : List Char) : Option Binary64 :=
  let (negative,rest) := splitSign (Text.trimBlanks cs)
  match String.ofList (rest.map Char.toLower) with
  | "inf" | "infinity" => some (.infinite negative)
  | "nan" => some .nan
  | _ => readUnsigned? negative rest

end ScopedAnalytics.Numeral
