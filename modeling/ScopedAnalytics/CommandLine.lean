import ScopedAnalytics.Calendar.DateText
import ScopedAnalytics.CommandLine.Flag
import ScopedAnalytics.Numeral.Integer
import ScopedAnalytics.Settings

/-! The command line. Flags and the one word, the selection, can come in any order; a flag that is
given twice has the later value, and measures add up. Exactly one kind of scope can be given. -/
namespace ScopedAnalytics

structure Options where
  organization : Option (Given String)
  project : Option (Given String)
  collection : Option (Given String)
  interval : Option (Given Interval)
  start : Option (Given Date)
  finish : Option (Given Date)
  granularity : Option (Given Granularity)
  order : Given SortOrder
  limit : Option (Given Int)
  measures : Option (List (Given Measure))
  baseUrl : Option (Given String)
  layerTimeout : Option (Given Binary64)
  requestTimeout : Option (Given Binary64)
  level : Given Level
  form : Given LineForm
deriving DecidableEq, Repr

def Options.has (options : Options) : Flag → Bool
  | .organization => options.organization.isSome
  | .project => options.project.isSome
  | .collection => options.collection.isSome
  | _ => false

structure CommandLine where
  selection : String
  options : Options
deriving DecidableEq, Repr

inductive CommandLine.Misuse where
  | ambiguous (argument : Argument.Ambiguous)
  | missingValue (flag : Flag)
  | ignoredValue (flag : Flag) (value : String)
  | badValue (flag : Flag) (kind value : String)
  | badChoice (flag : Flag) (value : String) (choices : List String)
  | conflict (flag other : Flag)
  | missingSelection
  | missingScope
  | unrecognized (arguments : List String)
deriving DecidableEq, Repr

/-- Why a command line asks for nothing: it is not understood, or it asks for help. -/
inductive CommandLine.Stop where
  | misuse (m : Misuse)
  | help
deriving DecidableEq, Repr

namespace CommandLine

/-- The kinds of scope, of which one must be given. -/
def scopeFlags : List Flag := [.organization,.project,.collection]

def Misuse.message : Misuse → String
  | ambiguous argument =>
    "ambiguous option: " ++ argument.text ++ " could match " ++
      String.intercalate ", " argument.spellings
  | missingValue flag => "argument " ++ flag.title ++ ": expected one argument"
  | ignoredValue flag value =>
    "argument " ++ flag.title ++ ": ignored explicit argument " ++ quoted value
  | badValue flag kind value =>
    "argument " ++ flag.title ++ ": invalid " ++ kind ++ " value: " ++ quoted value
  | badChoice flag value choices =>
    "argument " ++ flag.title ++ ": invalid choice: " ++ quoted value ++ " (choose from " ++
      String.intercalate ", " (choices.map quoted) ++ ")"
  | conflict flag other =>
    "argument " ++ flag.title ++ ": not allowed with argument " ++ other.title
  | missingSelection => "the following arguments are required: selection"
  | missingScope =>
    "one of the arguments " ++ String.intercalate " " (scopeFlags.map Flag.title) ++
      " is required"
  | unrecognized arguments =>
    "unrecognized arguments: " ++ String.intercalate " " arguments

abbrev Reading := Except Stop

def refuse {α : Type} (m : Misuse) : Reading α := .error (.misuse m)

def noOptions : Options where
  organization := none
  project := none
  collection := none
  interval := none
  start := none
  finish := none
  granularity := none
  order := .value Query.defaultOrder
  limit := none
  measures := none
  baseUrl := none
  layerTimeout := none
  requestTimeout := none
  level := .value .info
  form := .value .console

/-- What a text is taken for, by an older reader of command lines: the divider alone is void there, and
is not read. -/
def given {α : Type} (read : String → Reading α) (text : String) : Reading (Given α) :=
  if text = Argument.divider then .ok .void else .value <$> read text

def textOf (text : String) : Reading String := .ok text

def valueOf {α : Type} (flag : Flag) (kind : String) (read? : String → Option α) (text : String) :
    Reading α :=
  match read? text with
  | some value => .ok value
  | none => refuse (.badValue flag kind text)

def choiceOf {α : Type} [Vocabulary α] (flag : Flag) (choices : List α) (text : String) :
    Reading α :=
  match choices.find? fun choice => Vocabulary.word choice == text with
  | some choice => .ok choice
  | none => refuse (.badChoice flag text (choices.map Vocabulary.word))

def levels : List Level := [.debug,.info,.warning,.error]

def date? (text : String) : Option Date := (Date.read text).toOption

def number? (text : String) : Option Binary64 := Numeral.readBinary64? text.toList

def integer? (text : String) : Option Int := Numeral.readInteger? text.toList

def measure? (text : String) : Option Measure := (Measure.read text).toOption

def setOption (options : Options) (flag : Flag) (text : String) : Reading Options := do
  match flag with
  | .help => return options
  | .organization => return { options with organization := some (← given textOf text) }
  | .project => return { options with project := some (← given textOf text) }
  | .collection => return { options with collection := some (← given textOf text) }
  | .interval =>
    let interval ← given (valueOf flag "Interval" Vocabulary.find?) text
    return { options with interval := some interval }
  | .start =>
    return { options with start := some (← given (valueOf flag "fromisoformat" date?) text) }
  | .finish =>
    return { options with finish := some (← given (valueOf flag "fromisoformat" date?) text) }
  | .granularity =>
    let granularity ← given (valueOf flag "Granularity" Vocabulary.find?) text
    return { options with granularity := some granularity }
  | .order =>
    return { options with order := ← given (valueOf flag "Order" Vocabulary.find?) text }
  | .limit => return { options with limit := some (← given (valueOf flag "int" integer?) text) }
  | .measure =>
    let measure ← given (valueOf flag "parse" measure?) text
    return { options with measures := some (options.measures.getD [] ++ [measure]) }
  | .baseUrl => return { options with baseUrl := some (← given textOf text) }
  | .layerTimeout =>
    return { options with layerTimeout := some (← given (valueOf flag "float" number?) text) }
  | .requestTimeout =>
    return { options with requestTimeout := some (← given (valueOf flag "float" number?) text) }
  | .level => return { options with level := ← given (choiceOf flag levels) text }
  | .form => return { options with form := ← given (choiceOf flag Vocabulary.values) text }

/-- The options after a flag with its value, which must not be a second kind of scope. -/
def takeFlag (options : Options) (flag : Flag) (text : String) : Reading Options := do
  let changed ← setOption options flag text
  if scopeFlags.contains flag then
    match scopeFlags.find? fun other => other != flag && options.has other with
    | some other => refuse (.conflict flag other)
    | none => return changed
  else return changed

/-- The letters of the flags that can stand together after one hyphen. -/
def clusterLetters : List Char := ['h']

/-- What comes of letters that stand together with that of help. They ask for help too, but what
is not the letter of a flag is a value that help does not take. -/
def clusterStop : List Char → Stop
  | [] => .help
  | letter :: rest =>
    if clusterLetters.contains letter then clusterStop rest
    else .misuse (.ignoredValue .help (String.ofList (letter :: rest)))

/-- What comes of a request for help. A value may only be a cluster of more letters. -/
def helpStop (inCluster : Bool) : Option String → Stop
  | none => .help
  | some value =>
    if inCluster && !value.isEmpty then clusterStop value.toList
    else .misuse (.ignoredValue .help value)

/-- What has been read so far. -/
structure Draft where
  selection : Option String
  extras : List String
  options : Options

def Draft.addWord (draft : Draft) (text : String) : Draft :=
  match draft.selection with
  | none => { draft with selection := some text }
  | some _ => { draft with extras := draft.extras ++ [text] }

def Draft.addExtra (draft : Draft) (text : String) : Draft :=
  { draft with extras := draft.extras ++ [text] }

/-- The draft after all arguments. A divider belongs to the selection if it stands next to it, and
is else one of the arguments that nothing can be made of. -/
def readAll (draft : Draft) : List (String × Argument.Kind) → Reading Draft
  | [] => .ok draft
  | (_,.flag .help inCluster value) :: _ => .error (helpStop inCluster value)
  | (_,.flag flag _ (some value)) :: rest => do
    readAll { draft with options := ← takeFlag draft.options flag value } rest
  | (_,.flag flag _ none) :: (value,.word) :: rest => do
    readAll { draft with options := ← takeFlag draft.options flag value } rest
  | (_,.flag flag _ none) :: _ => refuse (.missingValue flag)
  | (text,.unknown) :: rest => readAll (draft.addExtra text) rest
  | (text,.word) :: (mark,.divider) :: rest =>
    if draft.selection.isNone then readAll (draft.addWord text) rest
    else readAll ((draft.addWord text).addExtra mark) rest
  | (text,.word) :: rest => readAll (draft.addWord text) rest
  | (mark,.divider) :: (text,.word) :: rest =>
    if draft.selection.isNone then readAll (draft.addWord text) rest
    else readAll ((draft.addExtra mark).addWord text) rest
  | (mark,.divider) :: rest => readAll (draft.addExtra mark) rest

/-- The command line of a draft, if nothing is missing and nothing left over. -/
def ofDraft (draft : Draft) : Reading CommandLine :=
  match draft.selection with
  | none => refuse .missingSelection
  | some selection =>
    if !scopeFlags.any draft.options.has then refuse .missingScope
    else if !draft.extras.isEmpty then refuse (.unrecognized draft.extras)
    else .ok ⟨selection,draft.options⟩

def read (arguments : List String) : Reading CommandLine := do
  match Argument.classifyAll arguments with
  | .error argument => refuse (.ambiguous argument)
  | .ok arguments => ofDraft (← readAll ⟨none,[],noOptions⟩ arguments)

/-- The settings of the environment after those of the command line. The environment must give
good settings even where the command line replaces them. -/
def settings (env : Environment) (options : Options) : Except Settings.Fault Settings := do
  let found ← Settings.ofEnvironment env
  let located ←
    match options.baseUrl with
    | some (.value baseUrl) => Settings.checked { found with baseUrl }
    | some .void => throw .voidBaseUrl
    | none => pure found
  return { located with
    layerTimeout := options.layerTimeout.getD located.layerTimeout
    requestTimeout := options.requestTimeout
    level := options.level
    form := options.form }

inductive Refusal where
  | stop (s : Stop)
  | fault (f : Settings.Fault)
deriving DecidableEq, Repr

/-- The command line of a run and its settings. The command line is read before the environment. -/
def resolve (env : Environment) (arguments : List String) :
    Except Refusal (CommandLine × Settings) := do
  let c ← (read arguments).mapError .stop
  let s ← (settings env c.options).mapError .fault
  return (c,s)

end CommandLine
end ScopedAnalytics
