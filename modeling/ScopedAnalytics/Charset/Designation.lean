import ScopedAnalytics.Charset.Chinese
import ScopedAnalytics.Charset.Japanese
import ScopedAnalytics.Charset.Korean
import ScopedAnalytics.Charset.Page.Standard

/-! Charsets of seven bits in which escape sequences designate the set of characters that the next
bytes belong to. Three sets are designated at a time: one is in use, a second one takes its place
while a shift is on, and of a third one a single character can be used. -/
namespace ScopedAnalytics.Charset

inductive Repertoire where
  | ascii | roman | katakana | jis0208 | jis0212 | planes (edition : Edition) | secondPlane
  | ksx1001 | gb2312 | latin | greek
deriving DecidableEq, Repr

inductive Designating where
  | japanese | japanese1 | japanese2 | japanese3 | japanese2004 | japaneseExtended | korean
deriving DecidableEq, Repr

namespace Repertoire

def width : Repertoire → Nat
  | ascii | roman | katakana | latin | greek => 1
  | _ => 2

/-- The code points of a code, the sets whose single characters alone are used having none. -/
def points? (r : Repertoire) (code : Nat) : Option (List Nat) :=
  match r with
  | ascii => some [code]
  | roman => some [Japanese.roman code]
  | katakana => (Japanese.katakana? (code + 0x80)).map ([·])
  | jis0208 => (Table.jis0208.point? code).map ([·])
  | jis0212 => (Table.jis0212.point? code).map ([·])
  | planes edition =>
    if edition = .first ∧ code ∈ Japanese.added then none else Japanese.firstPlane? code
  | secondPlane => (Japanese.secondPlane? code).map ([·])
  | ksx1001 => (Table.ksx1001.point? code).map ([·])
  | gb2312 => (Table.gb2312.point? code).map ([·])
  | latin | greek => none

end Repertoire

namespace Designating

/-- The sets that a charset can designate beside ASCII, each by the final byte of its escape
sequence and by whether its characters have two bytes. -/
def repertoires : Designating → List ((Char × Bool) × Repertoire)
  | japanese =>
    [(('B',true),.jis0208),(('J',false),.roman),(('@',true),.jis0208)]
  | japanese1 =>
    [(('B',true),.jis0208),(('D',true),.jis0212),(('J',false),.roman),(('@',true),.jis0208)]
  | japanese2 =>
    [(('B',true),.jis0208),(('D',true),.jis0212),(('C',true),.ksx1001),(('A',true),.gb2312),
      (('J',false),.roman),(('@',true),.jis0208),(('A',false),.latin),(('F',false),.greek)]
  | japanese3 =>
    [(('O',true),.planes .first),(('B',true),.jis0208),(('P',true),.secondPlane)]
  | japanese2004 =>
    [(('Q',true),.planes .second),(('B',true),.jis0208),(('P',true),.secondPlane)]
  | japaneseExtended =>
    [(('B',true),.jis0208),(('D',true),.jis0212),(('J',false),.roman),(('I',false),.katakana),
      (('@',true),.jis0208)]
  | korean => [(('C',true),.ksx1001)]

def repertoire? (d : Designating) (final : Nat) (double : Bool) : Option Repertoire :=
  if final = 'B'.toNat ∧ !double then some .ascii
  else d.repertoires.lookup (Char.ofNat final,double)

def shifts (d : Designating) : Bool := d == .korean

def usesThird (d : Designating) : Bool := d == .japanese2

/-- Whether an escape sequence may announce a revision of the set that the next one designates. -/
def announces (d : Designating) : Bool := d != .korean

/-- The state between two characters. `through` says that an escape sequence of another kind goes
on, which is text. -/
structure State where
  first : Repertoire := .ascii
  second : Repertoire := .ascii
  third : Repertoire := .ascii
  shifted : Bool := false
  through : Bool := false

def endsEscape (b : Nat) : Bool := 0x40 ≤ b && b ≤ 0x5A

def escapeLimit : Nat := 16

/-- The number of bytes of an escape sequence, zero if it does not end in time, nothing if more
bytes are needed to tell. The bytes are those from the given place on, of which some are passed. -/
def escapeSize? (d : Designating) (place passed : Nat) : List Nat → Option Nat
  | [] => if place + passed < escapeLimit then none else some 0
  | b :: rest =>
    if 0 < passed then escapeSize? d (place + 1) (passed - 1) rest
    else if escapeLimit ≤ place then some 0
    else if endsEscape b then some (place + 1)
    else if d.announces ∧ b = '&'.toNat ∧ rest.head? = some '@'.toNat then
      escapeSize? d (place + 1) 2 rest
    else escapeSize? d (place + 1) 0 rest

def readDesignated (d : Designating) (state : State) (size slot final : Nat) (double : Bool) :
    Reading State :=
  match d.repertoire? final double with
  | none => .wrong size
  | some set =>
    .stands [] size
      (match slot with
        | 0 => { state with first := set }
        | 1 => { state with second := set }
        | _ => { state with third := set })

def readDesignation (d : Designating) (state : State) (size : Nat) (bytes : List Nat) :
    Reading State :=
  match size, bytes with
  | 0, _ => .wrong 1
  | 3, _ :: kind :: final :: _ =>
    if kind = '$'.toNat then readDesignated d state 3 0 final true
    else if kind = '('.toNat then readDesignated d state 3 0 final false
    else if kind = ')'.toNat then readDesignated d state 3 1 final false
    else if d.usesThird ∧ kind = '.'.toNat then readDesignated d state 3 2 final false
    else .wrong 3
  | 4, _ :: kind :: slot :: final :: _ =>
    if kind ≠ '$'.toNat then .wrong 4
    else if slot = '('.toNat then readDesignated d state 4 0 final true
    else if slot = ')'.toNat then readDesignated d state 4 1 final true
    else .wrong 4
  | 6, _ :: _ :: _ :: escape :: kind :: final :: _ =>
    if d.announces ∧ escape = 0x1B ∧ kind = '$'.toNat ∧ final = 'B'.toNat then
      readDesignated d state 6 0 final true
    else .wrong 6
  | size, _ => .wrong size

def greek? (b : Nat) : Option Nat :=
  if b ∈ [0xA4,0xA5,0xAA] then none else Page.standardGreek.code? b

def readThird (state : State) (b : Nat) : Reading State :=
  match state.third with
  | .latin => if b < 0x80 then .stands [b + 0x80] 3 state else .wrong 3
  | .greek =>
    match greek? (if b < 0x80 then b + 0x80 else b - 0x80) with
    | some point => .stands [point] 3 state
    | none => .wrong 3
  | .ascii => if b < 0x80 then .stands [b] 3 state else .wrong 3
  | _ => .stuck

def readEscape (d : Designating) (state : State) (bytes : List Nat) : Reading State :=
  match bytes with
  | _ :: b :: rest =>
    if b ∈ ['('.toNat,')'.toNat,'$'.toNat,'.'.toNat,'&'.toNat] then
      match d.escapeSize? 1 0 (b :: rest) with
      | some size => d.readDesignation state size bytes
      | none => .short
    else if d.usesThird ∧ b = 'N'.toNat then
      match rest with
      | [] => .short
      | c :: _ => readThird state c
    else .stands [0x1B] 1 { state with through := true }
  | _ => .short

def readCharacter (state : State) (bytes : List Nat) : Reading State :=
  let set := if state.shifted then state.second else state.first
  match set.width, bytes with
  | 1, a :: _ =>
    match set.points? a with
    | some points => .stands points 1 state
    | none => .wrong 1
  | 2, a :: b :: _ =>
    match set.points? (Table.code a b) with
    | some points => .stands points 2 state
    | none => .wrong 2
  | _, _ => .short

def read (d : Designating) (state : State) (bytes : List Nat) : Reading State :=
  match bytes with
  | [] => .short
  | a :: _ =>
    if state.through then .stands [a] 1 { state with through := !endsEscape a }
    else if a = 0x1B then readEscape d state bytes
    else if a = 0x0F ∧ d.shifts then .stands [] 1 { state with shifted := false }
    else if a = 0x0E ∧ d.shifts then .stands [] 1 { state with shifted := true }
    else if a = 0x0A then .stands [a] 1 { state with shifted := false }
    else if a < 0x20 then .stands [a] 1 state
    else if 0x80 ≤ a then .wrong 1
    else readCharacter state bytes

end Designating
end ScopedAnalytics.Charset
