/-! Labels in ASCII. A label with other characters is written as its ASCII characters, a hyphen if
there are any, and then the places and code points of the others: numbers of variable length in
base 36, whose digits end where one falls below a threshold. -/
namespace ScopedAnalytics.Punycode

def digit (value : Nat) : Char :=
  if value < 26 then Char.ofNat ('a'.toNat + value) else Char.ofNat ('0'.toNat + value - 26)

def digitValue? (c : Char) : Option Nat :=
  if 'a' ≤ c ∧ c ≤ 'z' then some (c.toNat - 'a'.toNat)
  else if 'A' ≤ c ∧ c ≤ 'Z' then some (c.toNat - 'A'.toNat)
  else if '0' ≤ c ∧ c ≤ '9' then some (c.toNat - '0'.toNat + 26)
  else none

/-- A step size below the limit, and the number of divisions that bring it there. -/
def scaleDown (size : Nat) : Nat × Nat :=
  if 455 < size then
    let (rest,divisions) := scaleDown (size / 35)
    (rest,divisions + 1)
  else (size,0)

/-- The bias after a step, the first of all steps being scaled down more. -/
def adapt (size points : Nat) (first : Bool) : Nat :=
  let size := if first then size / 700 else size / 2
  let (size,divisions) := scaleDown (size + size / points)
  36 * divisions + 36 * size / (size + 38)

def threshold (bias place : Nat) : Nat :=
  if place ≤ bias then 1 else if bias + 26 ≤ place then 26 else place - bias

theorem threshold_pos (bias place : Nat) : 0 < threshold bias place := by
  unfold threshold
  split
  · omega
  · split <;> omega

def number (bias place value : Nat) : List Char :=
  let limit := threshold bias place
  if value < limit then [digit value]
  else
    digit (limit + (value - limit) % (36 - limit)) ::
      number bias (place + 36) ((value - limit) / (36 - limit))
termination_by value
decreasing_by
  have positive := threshold_pos bias place
  exact Nat.lt_of_le_of_lt (Nat.div_le_self ..) (by omega)

structure Writing where
  delta : Nat
  bias : Nat
  handled : Nat
  first : Bool
  written : List Char

namespace Writing

def pass (code : Nat) (state : Writing) : List Nat → Writing
  | [] => state
  | c :: rest =>
    if c < code then pass code { state with delta := state.delta + 1 } rest
    else if c = code then
      pass code {
        delta := 0
        bias := adapt state.delta (state.handled + 1) state.first
        handled := state.handled + 1
        first := false
        written := state.written ++ number state.bias 36 state.delta } rest
    else pass code state rest

/-- The state after one more code point, `least` being the least that can be next. -/
def step (codes : List Nat) (last : Nat × Writing) (code : Nat) : Nat × Writing :=
  let (least,state) := last
  let delta := state.delta + (code - least) * (state.handled + 1)
  let state := pass code { state with delta } codes
  (code + 1,{ state with delta := state.delta + 1 })

end Writing

def encode (label : List Char) : List Char :=
  let codes := label.map Char.toNat
  let basic := label.filter (·.toNat < 0x80)
  let others := ((codes.filter (0x80 ≤ ·)).eraseDups).mergeSort
  let start : Writing := ⟨0,72,basic.length,true,[]⟩
  let state := (others.foldl (Writing.step codes) (0x80,start)).2
  basic ++ (if basic.isEmpty then [] else ['-']) ++ state.written

/-- The number that digits begin with, and the digits after it. The digit at `place` has the weight
`weight`, and `value` is the number so far. -/
def readNumber? (bias place weight value : Nat) : List Char → Option (Nat × List Char)
  | [] => none
  | c :: rest =>
    match digitValue? c with
    | none => none
    | some digit =>
      let limit := threshold bias place
      if digit < limit then some (value + digit * weight,rest)
      else readNumber? bias (place + 36) (weight * (36 - limit)) (value + digit * weight) rest

theorem length_of_readNumber? {bias place weight value number : Nat} {cs rest : List Char}
    (found : readNumber? bias place weight value cs = some (number,rest)) :
    rest.length < cs.length := by
  induction cs generalizing place weight value with
  | nil => simp [readNumber?] at found
  | cons c cs ih =>
    rw [readNumber?] at found
    split at found
    · simp at found
    · dsimp only at found
      split at found
      · simp only [Option.some.injEq,Prod.mk.injEq] at found
        simp [found.2]
      · exact Nat.lt_succ_of_lt (ih found)

/-- The code points that digits insert into others, the next of them being `code` or greater and
standing at `place` or behind it. -/
def insertAll? (bias code place : Nat) (first : Bool) (codes : List Nat) (cs : List Char) :
    Option (List Nat) :=
  if cs.isEmpty then some codes
  else
    match found : readNumber? bias 36 1 0 cs with
    | none => none
    | some (delta,rest) =>
      let points := codes.length + 1
      let code := code + (place + delta) / points
      let place := (place + delta) % points
      if 0x10FFFF < code then none
      else
        insertAll? (adapt delta points first) code (place + 1) false (codes.insertIdx place code)
          rest
termination_by cs.length
decreasing_by exact length_of_readNumber? found

/-- The code points that digits insert into others as far as they can be read, with a question mark
for a code point that is too great. -/
def insertMost (bias code place : Nat) (first : Bool) (codes : List Nat) (cs : List Char) :
    List Nat :=
  if cs.isEmpty then codes
  else
    match found : readNumber? bias 36 1 0 cs with
    | none => codes
    | some (delta,rest) =>
      let points := codes.length + 1
      let next := code + (place + delta) / points
      let code := if 0x10FFFF < next then '?'.toNat else next
      let place := (place + delta) % points
      insertMost (adapt delta points first) code (place + 1) false (codes.insertIdx place code) rest
termination_by cs.length
decreasing_by exact length_of_readNumber? found

def decode? (form : List Char) : Option (List Nat) :=
  match form.reverse.span (· != '-') with
  | (others,[]) => insertAll? 72 0x80 0 true [] others.reverse
  | (others,_ :: basic) => insertAll? 72 0x80 0 true (basic.reverse.map Char.toNat) others.reverse

end ScopedAnalytics.Punycode
