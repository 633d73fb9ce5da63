import ScopedAnalytics.Charset.Unicode
import ScopedAnalytics.Json.Reader

/-! JSON values from bytes. The form is told by a byte order mark or else by where the first
bytes are zero, for a JSON text begins with ASCII characters. -/
namespace ScopedAnalytics.Json

def formOf (bytes : List Nat) : Charset.Unicode :=
  match bytes with
  | 0 :: 0 :: 0xFE :: 0xFF :: _ | 0xFF :: 0xFE :: 0 :: 0 :: _ => .utf32 none
  | 0xFE :: 0xFF :: _ | 0xFF :: 0xFE :: _ => .utf16 none
  | 0xEF :: 0xBB :: 0xBF :: _ => .utf8 true
  | a :: b :: c :: d :: _ =>
    if a = 0 then if b = 0 then .utf32 (some .big) else .utf16 (some .big)
    else if b = 0 then
      if c = 0 ∧ d = 0 then .utf32 (some .little) else .utf16 (some .little)
    else .utf8 false
  | [a,b] =>
    if a = 0 then .utf16 (some .big) else if b = 0 then .utf16 (some .little) else .utf8 false
  | _ => .utf8 false

/-- The value that bytes denote. A half that the bytes stand for is a letter of its own and joins
with no other. -/
def ofBytes (bytes : List UInt8) : Except Unreadable Json :=
  let bytes := bytes.map UInt8.toNat
  match ((formOf bytes).decode true bytes).mapM id with
  | some codes => ofText ⟨codes.map Letter.ofCode⟩
  | none => .error .undecodable

end ScopedAnalytics.Json
