import ScopedAnalytics.Charset
import ScopedAnalytics.Charset.Escape
import ScopedAnalytics.Charset.Shift
import ScopedAnalytics.Failure
import ScopedAnalytics.Http.Url.Punycode
import ScopedAnalytics.Text.Quoted

/-! Decoding of bytes: strictly, where each part has to stand for code points, or as the text of a
message, which shows what is wrong in it. -/
namespace ScopedAnalytics.Charset

inductive Fault where
  | unmarked (size : Nat)
  | pending
  | stuck
  | beyondAscii (b position : Nat)
  | pretender (p : Pretender)
deriving DecidableEq, Repr

def Fault.failure : Fault → Failure
  | unmarked size => ⟨.unreadable,"UTF-" ++ toString size ++ " stream does not start with BOM"⟩
  | pending => ⟨.unreadable,"pending buffer overflow"⟩
  | stuck => ⟨.stuck,"internal codec error"⟩
  | beyondAscii b position =>
    ⟨.beyondAscii,"'ascii' codec can't decode byte 0x" ++ String.ofList (Text.hexDigits 2 b) ++
      " in position " ++ toString position ++ ": ordinal not in range(128)"⟩
  | pretender .bytes => ⟨.unmet,""⟩
  | pretender .letters =>
    ⟨.wrongType,"descriptor 'translate' for 'str' objects doesn't apply to a 'bytes' object"⟩
  | pretender .nothing => ⟨.unreadable,"undefined encoding"⟩
  | pretender .hostNames => ⟨.unreadable,"Unsupported error handling replace"⟩

def Scheme.read : Scheme → List Nat → Reading Unit
  | shift => Japanese.readShift
  | shiftPlanes edition => Japanese.readShiftPlanes edition
  | shiftWindows => Japanese.readWindows
  | extendedJapanese => Japanese.readStandards
  | extendedPlanes edition => Japanese.readPlanes edition
  | korean => Korean.readStandard
  | koreanWindows => Korean.readWindows
  | koreanCombined => Korean.readCombined
  | simplified => Chinese.readStandard
  | simplifiedExtended => Chinese.readExtended
  | simplifiedUniversal => Chinese.readUniversal
  | traditional => Chinese.readTraditional
  | traditionalWindows => Chinese.readWindows
  | traditionalHongKong => Chinese.readHongKong

def decoded (charset : Charset) (bytes : List Nat) : Decoded :=
  match charset with
  | .page p => ⟨bytes.map p.code?,0,false⟩
  | .scheme s => readAll (fun _ => s.read) () bytes
  | .designating d => readAll d.read {} bytes
  | .marked => readAll Chinese.readMarked false bytes
  | .shifted => ⟨Shift.decode none bytes,0,false⟩
  | .unicode form => ⟨form.decode false bytes,0,false⟩
  | .literal => readAll (fun _ => Escape.readAny) () bytes
  | .codes => readAll (fun _ => Escape.readCodes) () bytes
  | .pretender .hostNames => ⟨bytes.map Page.ascii.code?,0,false⟩
  | .punycode | .pretender _ => ⟨[],0,true⟩

def decode? (charset : Charset) (bytes : List Nat) : Option (List Nat) :=
  match charset with
  | .punycode =>
    if bytes.all (· < 0x80) then Punycode.decode? (bytes.map Char.ofNat) else none
  | charset => (charset.decoded bytes).all?

/-- The most bytes of an escape sequence that may be pending at the end. -/
def pendingLimit : Nat := 8

/-- The code points of a text in Punycode up to the first part that stands for none. -/
def punycodePoints (bytes : List Nat) : Except Fault (List Nat) :=
  let (others,basic) := bytes.reverse.span (· != '-'.toNat)
  let others := others.reverse
  match others.find? (0x80 ≤ ·) with
  | some b => .error (.beyondAscii b (others.idxOf b))
  | none =>
    .ok (Punycode.insertMost 72 0x80 0 true
      (basic.tail.reverse.map fun b => if b < 0x80 then b else 0xFFFD) (others.map Char.ofNat))

/-- The code points of a message, with a replacement character wherever bytes stand for none. A
signature that breaks off is left out as a whole one is. -/
def points (charset : Charset) (bytes : List Nat) : Except Fault (List Nat) :=
  match charset with
  | .punycode => punycodePoints bytes
  | .pretender p => .error (.pretender p)
  | .unicode form =>
    match form.unmarkedSize? bytes with
    | some size => .error (.unmarked (8 * size))
    | none => .ok (if form.breaksOff bytes then [] else (charset.decoded bytes).replaced)
  | .designating d =>
    let decoded := readAll d.read {} bytes
    if decoded.stuck then .error .stuck
    else if pendingLimit < decoded.pending then .error .pending
    else .ok decoded.replaced
  | charset => .ok (charset.decoded bytes).replaced

def text (charset : Charset) (bytes : List UInt8) : Except Fault Text :=
  (charset.points (bytes.map UInt8.toNat)).map fun points => ⟨points.map Letter.ofCode⟩

end ScopedAnalytics.Charset
