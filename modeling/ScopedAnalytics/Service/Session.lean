import ScopedAnalytics.Service

/-! A service in use: one request after the other, all counted by one meter. -/
namespace ScopedAnalytics.Service

/-- What a service has counted so far, and whether it is closed. -/
structure Session where
  meter : Meter
  closed : Bool

/-- One use of a service: a request, with the layer that it meets and its interruption from outside,
or the closing. -/
inductive Use where
  | ask (layer : Layer) (interruption : Interruption) (request : Request)
  | close

namespace Session

def start : Session := ⟨.empty,false⟩

def course (deadline : Option Quantity) : Use → Course
  | .ask layer interruption request => analytics deadline layer interruption request
  | .close => ⟨[],some (.ok [])⟩

def after (deadline : Option Quantity) (s : Session) (use : Use) : Session where
  meter := s.meter.recordAll (course deadline use).trace.measurements
  closed :=
    match use with
    | .close => true
    | .ask .. => s.closed

def run (deadline : Option Quantity) (uses : List Use) (s : Session) : Session :=
  uses.foldl (after deadline) s

end Session
end ScopedAnalytics.Service
