/-! What flags are given. A flag whose value is the divider alone has a void value: it counts as
given, whatever values it takes, but there is no value in it. -/
namespace ScopedAnalytics

/-- What a flag is given. Readers of command lines differ in the divider: to an older one it is void, a
newer one reads it as any other text. -/
inductive Given (α : Type) where
  | value (a : α)
  | void
deriving DecidableEq, Repr

namespace Given

def value? {α : Type} : Given α → Option α
  | value a => some a
  | void => none

def map {α β : Type} (f : α → β) : Given α → Given β
  | value a => value (f a)
  | void => void

def voidText : String := "[]"

end Given
end ScopedAnalytics
