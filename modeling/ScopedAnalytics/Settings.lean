import ScopedAnalytics.CommandLine.Given
import ScopedAnalytics.Journal.Line
import ScopedAnalytics.Numeral.Decimal
import ScopedAnalytics.Settings.BaseUrl

/-! The settings of the program: where the semantic layer is, how long to wait for it and what the
journal keeps. The environment gives the first of them. -/
namespace ScopedAnalytics

structure Settings where
  baseUrl : String
  token : String
  layerTimeout : Given Binary64
  requestTimeout : Option (Given Binary64)
  level : Given Level
  form : Given LineForm
deriving DecidableEq, Repr

structure Environment where
  baseUrl : Option String
  token : Option String
  timeout : Option String
deriving DecidableEq, Repr

inductive Settings.Fault where
  | timeout (text : String)
  | baseUrl (fault : BaseUrl.Fault)
  | voidBaseUrl
deriving DecidableEq, Repr

namespace Settings

def Fault.message : Fault → String
  | timeout text => "could not convert string to float: " ++ quoted text
  | baseUrl fault => fault.message
  | voidBaseUrl => "invalid cube base URL: " ++ Given.voidText

def defaultBaseUrl : String := "http://127.0.0.1:4000"

def checked (s : Settings) : Except Fault Settings :=
  match BaseUrl.check s.baseUrl with
  | .ok _ => .ok s
  | .error fault => .error (.baseUrl fault)

def ofEnvironment (env : Environment) : Except Fault Settings :=
  let timeout := env.timeout.getD "10"
  match Numeral.readBinary64? timeout.toList with
  | none => .error (.timeout timeout)
  | some layerTimeout =>
    checked {
      baseUrl := env.baseUrl.getD defaultBaseUrl
      token := env.token.getD ""
      layerTimeout := .value layerTimeout
      requestTimeout := none
      level := .value .info
      form := .value .console }

def isEnabled (s : Settings) : Bool := s.token != ""

end Settings
end ScopedAnalytics
