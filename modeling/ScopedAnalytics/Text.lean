/-! Texts whose positions are characters or surrogate halves that no other half completes.
Escapes of a JSON string can name such a half, so a decoded string is a `Text` and not always
a `String`; `ofString` embeds the strings, `chars?` recognises them. -/
namespace ScopedAnalytics

/-- One position of a text. The half at `offset` has code point `0xD800 + offset`. -/
inductive Letter where
  | char (c : Char)
  | half (offset : Fin 2048)
deriving DecidableEq, Repr

/-- A sequence of letters. -/
structure Text where
  letters : List Letter
deriving DecidableEq, Repr

namespace Letter

def char? : Letter → Option Char
  | char c => some c
  | half _ => none

/-- A half is shown by the replacement character where only characters can be shown. -/
def shown : Letter → Char
  | char c => c
  | half _ => '\uFFFD'

def code : Letter → Nat
  | char c => c.toNat
  | half offset => 0xD800 + offset

def ofCode (code : Nat) : Letter :=
  if half : 0xD800 ≤ code ∧ code < 0xE000 then .half ⟨code - 0xD800,by omega⟩
  else .char (Char.ofNat code)

end Letter

namespace Text

def ofString (s : String) : Text := ⟨s.toList.map .char⟩

instance : Coe String Text := ⟨ofString⟩

instance : Append Text := ⟨fun s t => ⟨s.letters ++ t.letters⟩⟩

/-- The characters of a text, if it holds no half. -/
def chars? (t : Text) : Option (List Char) := t.letters.mapM Letter.char?

def shown (t : Text) : String := String.ofList (t.letters.map Letter.shown)

def isString (t : Text) (s : String) : Bool := t == ofString s

def startsWith (t : Text) (s : String) : Bool := (ofString s).letters.isPrefixOf t.letters

theorem mapM_char (cs : List Char) : (cs.map Letter.char).mapM Letter.char? = some cs := by
  induction cs with
  | nil => rfl
  | cons c cs ih => simp [List.mapM_cons,Letter.char?,ih]

@[simp] theorem chars?_ofString (s : String) : (ofString s).chars? = some s.toList :=
  mapM_char s.toList

theorem ofString_injective {s t : String} (h : ofString s = ofString t) : s = t := by
  have same := congrArg chars? h
  rw [chars?_ofString,chars?_ofString,Option.some.injEq] at same
  exact String.toList_injective same

@[simp] theorem isString_ofString (s t : String) : (ofString s).isString t = (s == t) := by
  rw [Bool.eq_iff_iff,isString,beq_iff_eq,beq_iff_eq]
  exact ⟨ofString_injective,congrArg ofString⟩

end Text
end ScopedAnalytics
