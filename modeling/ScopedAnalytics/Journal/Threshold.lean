import ScopedAnalytics.Journal.Line

/-! The least level that a journal keeps. A threshold is given by the name of a level in any case;
a text that names none stands for that of information. -/
namespace ScopedAnalytics

/-- A name under which something other than a level is known. -/
inductive Threshold.Fault where
  | layout
  | styles
deriving DecidableEq, Repr

namespace Threshold

def plainLayout : String := "%(levelname)s:%(name)s:%(message)s"

def Fault.message : Fault → String
  | layout => "Unknown level: " ++ quoted plainLayout
  | styles =>
    "Level not an integer or a valid string: \x7b'%': (<class 'logging.PercentStyle'>, " ++
      quoted plainLayout ++ "), '\x7b': (<class 'logging.StrFormatStyle'>, " ++
      "'\x7blevelname\x7d:\x7bname\x7d:\x7bmessage\x7d'), " ++
      "'$': (<class 'logging.StringTemplateStyle'>, " ++
      "'$\x7blevelname\x7d:$\x7bname\x7d:$\x7bmessage\x7d')\x7d"

def Fault.failure (f : Fault) : Failure :=
  ⟨match f with
    | layout => .invalidValue
    | styles => .wrongType,f.message⟩

/-- The capitals of a character, where they are plain letters; other characters stay. -/
def capitals (c : Char) : List Char :=
  match c with
  | 'ß' => ['S','S']
  | 'ı' => ['I']
  | 'ſ' => ['S']
  | 'ﬀ' => ['F','F']
  | 'ﬁ' => ['F','I']
  | 'ﬂ' => ['F','L']
  | 'ﬃ' => ['F','F','I']
  | 'ﬄ' => ['F','F','L']
  | 'ﬅ' => ['S','T']
  | 'ﬆ' => ['S','T']
  | c => [c.toUpper]

def named : List (String × Nat) :=
  [("CRITICAL",50),("FATAL",50),("ERROR",40),("WARNING",30),("WARN",30),("INFO",20),("DEBUG",10),
    ("NOTSET",0)]

def read (text : String) : Except Fault Nat :=
  let name := String.ofList (text.toList.flatMap capitals)
  match named.lookup name with
  | some rank => .ok rank
  | none =>
    if name = "BASIC_FORMAT" then .error .layout
    else if name = "_STYLES" then .error .styles
    else .ok Level.info.rank

end Threshold

/-- The threshold that the name of a level stands for, and the texts of a journal with it. -/
def Journal.opened (level : String) (form : LineForm) (entries : List Entry) :
    Except Failure (Nat × List String) := do
  let threshold ← (Threshold.read level).mapError Threshold.Fault.failure
  let texts ← (texts form threshold entries).mapError Fault.failure
  return (threshold,texts)

end ScopedAnalytics
