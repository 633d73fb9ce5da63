import ScopedAnalytics.Numeral.Integer
import ScopedAnalytics.Text

/-! Failures of a request. The kinds that are reported to the caller as failures of the request are
told apart from those that only pass through, such as a value that cannot be used at all. -/
namespace ScopedAnalytics

/-- The kind of a failure. A failure of the semantic layer carries the status of the response, if
there was one; a foreign failure is one of no kind known here. -/
inductive Failure.Kind where
  | invalidRequest
  | invalidScope
  | invalidTimeWindow
  | layer (status : Option Int)
  | undecodable
  | unspecific
  | timeout
  | cancelled
  | invalidValue
  | wrongType
  | missingMember
  | tooLarge
  | malformed
  | tooDeep
  | closed
  | badUrl
  | badCookie
  | badHeader
  | unreadable
  | beyondAscii
  | unmet
  | stuck
  | foreign (name : String)
deriving DecidableEq, Repr

namespace Failure.Kind

def name : Kind → String
  | invalidRequest => "InvalidRequest"
  | invalidScope => "InvalidScope"
  | invalidTimeWindow => "InvalidTimeWindow"
  | layer _ => "UpstreamError"
  | undecodable => "DecodeError"
  | unspecific => "AnalyticsError"
  | timeout => "Timeout"
  | cancelled => "Cancellation"
  | invalidValue => "InvalidValue"
  | wrongType => "WrongType"
  | missingMember => "MissingMember"
  | tooLarge => "TooLarge"
  | malformed => "Malformed"
  | tooDeep => "TooDeep"
  | closed => "Closed"
  | badUrl => "BadUrl"
  | badCookie => "BadCookie"
  | badHeader => "BadHeader"
  | unreadable => "Unreadable"
  | beyondAscii => "BeyondAscii"
  | unmet => "Unmet"
  | stuck => "Stuck"
  | foreign name => name

def isReported : Kind → Bool
  | invalidRequest | invalidScope | invalidTimeWindow | layer _ | undecodable | unspecific =>
    true
  | _ => false

def isLayer : Kind → Bool
  | layer _ => true
  | _ => false

end Failure.Kind

structure Failure where
  kind : Failure.Kind
  message : Text
deriving DecidableEq, Repr

namespace Failure

def cancellation : Failure := ⟨.cancelled,""⟩

def invalidValue (message : String) : Failure := ⟨.invalidValue,message⟩

/-- The failure to write an integer of too many digits. -/
def unwritable : Failure := invalidValue Numeral.unwritable

end Failure
end ScopedAnalytics
