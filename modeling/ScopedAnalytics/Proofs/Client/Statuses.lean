import ScopedAnalytics.Client
import ScopedAnalytics.Proofs.Row.Answering

/-! What the status of a response decides. A status from 400 to 599 is refused before the body is
looked at. Every other one, a redirection as much as a success, leaves the decision to the body. -/
namespace ScopedAnalytics.Client

/-- Whether a response comes as far as its status: it is one, and the URL it answers can be told
from it. -/
def Arrives (url : Url) (r : Http.Response) : Prop :=
  checkResponse r = .ok () ∧ checkAnswered url = .ok ()

/-- Whether the body of a response has rows in its first result set, and reports no error. -/
def Delivers (r : Http.Response) (data : List Json) : Prop :=
  ∃ members, r.json = .ok (.object members) ∧ Json.member? members "error" = none ∧
    Response.data (.object members) = .ok data

/-- The failure that a refused status comes to. -/
def refusal (status : Int) (text : Text) : Failure :=
  ⟨.layer (some status),"cube responded with " ++ toString status ++ ": " ++ text⟩

section Texts
variable {charset : Charset} {r : Http.Response}

/-- Whether all bytes have a text in a charset. Where a mark has to tell the order of bytes, sets of
characters are designated or names of hosts are spelt, some have none. -/
def Lenient (charset : Charset) : Prop :=
  match charset with
  | .unicode (.utf16 none) | .unicode (.utf32 none) | .designating _ | .punycode | .pretender _ => False
  | _ => True

private theorem text_of_lenient (lenient : Lenient charset) (bytes : List UInt8) :
    ∃ text, charset.text bytes = .ok text := by
  have points : ∃ points, charset.points (bytes.map UInt8.toNat) = .ok points := by
    cases charset with
    | designating | punycode | pretender => cases lenient
    | unicode form =>
      cases form with
      | utf8 => exact ⟨_,rfl⟩
      | utf16 order | utf32 order =>
        cases order with
        | none => cases lenient
        | some => exact ⟨_,rfl⟩
    | _ => exact ⟨_,rfl⟩
  obtain ⟨points,decoded⟩ := points
  rw [Charset.text,decoded]
  exact ⟨_,rfl⟩

theorem response_text (known : r.charset = .ok charset) (lenient : Lenient charset) :
    ∃ text, r.text = .ok text := by
  unfold Http.Response.text
  split
  · exact ⟨_,rfl⟩
  · obtain ⟨text,read⟩ := text_of_lenient lenient r.body
    refine ⟨text,?_⟩
    rw [known]
    exact congrArg (Except.mapError Charset.Fault.failure) read

theorem response_text_of_untyped (untyped : r.contentType = none) : ∃ text, r.text = .ok text := by
  have plain : r.charset = .ok (.unicode (.utf8 false)) := by rw [Http.Response.charset,untyped]
  exact response_text plain trivial

end Texts

section Reading
variable {r : Http.Response} {data : List Json}

theorem isError_iff : r.isError = true ↔ 400 ≤ r.status ∧ r.status < 600 := by
  simp [Http.Response.isError]

theorem readData_of_isError (bad : r.isError = true) {text : Text} (read : r.text = .ok text) :
    readData r = .error (refusal r.status text) := by
  rw [readData,if_pos bad,read]
  rfl

theorem readData_of_textless (bad : r.isError = true) {failure : Failure}
    (unread : r.text = .error failure) : readData r = .error failure := by
  rw [readData,if_pos bad,unread]

theorem readData_ok_iff : readData r = .ok data ↔ r.isError = false ∧ Delivers r data := by
  cases bad : r.isError with
  | true =>
    refine ⟨fun ok => ?_,fun good => absurd good.1 (by simp)⟩
    rw [readData,if_pos bad] at ok
    split at ok <;> cases ok
  | false =>
    rw [readData,bad,if_neg Bool.false_ne_true]
    constructor
    · intro ok
      split at ok
      · cases ok
      · rename_i body read
        split at ok
        · rename_i members
          split at ok
          · cases ok
          · rename_i clean
            exact ⟨rfl,members,read,clean,mapError_ok ok⟩
        · rename_i other
          have found := mapError_ok ok
          cases body with
          | object members => exact absurd rfl (other members)
          | _ => cases found
    · rintro ⟨_,members,read,clean,found⟩
      simp only [read,clean,found]
      rfl

end Reading

section Loading
variable {c : Client} {query : Query} {request : Http.Request} {exchange : Http.Exchange}
  {r : Http.Response}

private theorem load_ending (sent : c.request query = .ok request) :
    (c.load exchange query).ending = ending request.url exchange.ending := by
  rw [load,sent]

theorem ending_of_arrives {url : Url} (arrives : Arrives url r) :
    ending url (.response r) = match readData r with
      | .ok data => .answer data
      | .error failure => .failure failure := by
  rw [ending,arrives.1,arrives.2]
  rfl

theorem ending_answer_iff {url : Url} {data : List Json} :
    ending url (.response r) = .answer data ↔ Arrives url r ∧ readData r = .ok data := by
  constructor
  · intro answered
    rw [ending] at answered
    split at answered
    · rename_i found passed
      obtain rfl := Ending.answer.inj answered
      obtain ⟨_,checked,passed⟩ := except_bind_ok passed
      obtain ⟨_,known,read⟩ := except_bind_ok passed
      exact ⟨⟨checked,known⟩,read⟩
    · cases answered
  · rintro ⟨arrives,read⟩
    rw [ending_of_arrives arrives,read]

theorem andThen_answer_iff {α β : Type} {reply : Reply α} {f : α → Except Failure β}
    {b : β} : (reply.andThen f).ending = .answer b ↔
      ∃ a, reply.ending = .answer a ∧ f a = .ok b := by
  cases ended : reply.ending with
  | answer a => cases result : f a <;> simp [Reply.andThen,ended,result]
  | _ => simp [Reply.andThen,ended]

/-- A response is answered with its rows exactly if its status is not from 400 to 599 and its body
delivers them. A status from 400 to 599 is refused, with the status and the text of the body in the
failure, or as the body fails to be read as a text if it has none. Every body has a text in UTF-8, the
charset where none is named, and in all other ones that are lenient. -/
theorem status_decides (sent : c.request query = .ok request)
    (responded : exchange.ending = .response r) :
    (∀ data, (c.load exchange query).ending = .answer data ↔
      Arrives request.url r ∧ (r.status < 400 ∨ 600 ≤ r.status) ∧ Delivers r data) ∧
    (∀ rows, (decoded query (c.load exchange query)).ending = .answer rows ↔
      ∃ data, (c.load exchange query).ending = .answer data ∧
        Row.decodeAll query.resource data = .ok rows) ∧
    (∀ text, 400 ≤ r.status → r.status < 600 → Arrives request.url r → r.text = .ok text →
      (c.load exchange query).ending = .failure (refusal r.status text) ∧
        (decoded query (c.load exchange query)).ending = .failure (refusal r.status text)) ∧
    (∀ failure, 400 ≤ r.status → r.status < 600 → Arrives request.url r → r.text = .error failure →
      (c.load exchange query).ending = .failure failure ∧
        (decoded query (c.load exchange query)).ending = .failure failure) ∧
    (r.contentType = none → ∃ text, r.text = .ok text) ∧
    ∀ charset, r.charset = .ok charset → Lenient charset → ∃ text, r.text = .ok text := by
  have good : r.isError = false ↔ r.status < 400 ∨ 600 ≤ r.status := by
    rw [← Bool.not_eq_true,isError_iff]
    omega
  have refused {failure : Failure} (arrives : Arrives request.url r)
      (fails : readData r = .error failure) :
      (c.load exchange query).ending = .failure failure ∧
        (decoded query (c.load exchange query)).ending = .failure failure := by
    have refused : (c.load exchange query).ending = .failure failure := by
      rw [load_ending sent,responded,ending_of_arrives arrives,fails]
    refine ⟨refused,?_⟩
    rw [decoded,Reply.andThen,refused]
  refine ⟨fun data => ?_,fun rows => ?_,fun text low high arrives read => ?_,
    fun failure low high arrives unread => ?_,response_text_of_untyped,fun _ => response_text⟩
  · rw [load_ending sent,responded,ending_answer_iff,readData_ok_iff,good]
  · rw [decoded,andThen_answer_iff]
    simp only [mapError_ok_iff]
  · exact refused arrives (readData_of_isError (isError_iff.mpr ⟨low,high⟩) read)
  · exact refused arrives (readData_of_textless (isError_iff.mpr ⟨low,high⟩) unread)

end Loading

section Redirection

def hostClient : Client := ⟨⟨"http","","h",none,"/",none,none⟩,"Bearer t"⟩

def loadUrl : Url := ⟨"http","","h",none,"/cubejs-api/v1/load",none,none⟩

def threeMints (status : Int) : Http.Response where
  status
  contentType := none
  body := Charset.utf8Bytes
    "\x7b\"results\": [\x7b\"data\": [\x7b\"mints.count\": \"3\"\x7d]\x7d]\x7d"

def threeRow : Json := .ofMembers [("mints.count",.str "3")]

theorem host_sent : hostClient.request mintsQuery = .ok
    ⟨loadUrl,"Bearer t",.ofMembers [("query",mintsQuery.toJson),("queryType",.str "multi")]⟩ := by
  have located : hostClient.base.below loadPath = .ok loadUrl := by decide
  have fits : checkBody (bodyOf mintsQuery) = .ok () := if_pos (by decide)
  have plain : asciiText loadUrl.hostAndPort = .ok "h" := by rfl
  have authorized : hostClient.authorization = "Bearer t" := by decide +kernel
  simp only [request,located,fits,plain,authorized,Except.mapError,bind,Except.bind]
  rfl

private theorem loadUrl_text : loadUrl.text = "http://h/cubejs-api/v1/load" := by decide

theorem host_arrives {r : Http.Response} (untyped : r.contentType = none) :
    Arrives loadUrl r := by
  have named : namesScheme loadUrl = true := by
    rw [namesScheme,loadUrl_text]
    decide
  have shown : shownUrl loadUrl = "http://h/cubejs-api/v1/load" := by
    rw [shownUrl,loadUrl_text]
    decide
  constructor
  · rw [checkResponse,untyped]
    rfl
  · rw [checkAnswered,named,shown]
    decide

theorem threeMints_delivers (status : Int) : Delivers (threeMints status) [threeRow] := by
  refine ⟨[("results",.list [.ofMembers [("data",.list [threeRow])]])],?_,?_,?_⟩
  · change Json.ofBytes (Charset.utf8Bytes _) = _
    decide +kernel
  · rfl
  · rfl

theorem threeRow_decoded : Row.decodeAll mintsQuery.resource [threeRow] =
    .ok [⟨some 3,none,none,none,none,none⟩] := by
  rfl

/-- A redirection whose body delivers a row is answered with the row, raw and decoded. -/
theorem redirection_answered : ¬(200 ≤ (threeMints 302).status ∧ (threeMints 302).status < 300) ∧
    (hostClient.load ⟨0,.response (threeMints 302),.zero⟩ mintsQuery).ending =
      .answer [threeRow] ∧
    (decoded mintsQuery
      (hostClient.load ⟨0,.response (threeMints 302),.zero⟩ mintsQuery)).ending =
        .answer [⟨some 3,none,none,none,none,none⟩] := by
  have raw : (hostClient.load ⟨0,.response (threeMints 302),.zero⟩ mintsQuery).ending =
      .answer [threeRow] := by
    rw [load_ending host_sent,ending_answer_iff,readData_ok_iff]
    exact ⟨host_arrives rfl,by decide,threeMints_delivers 302⟩
  refine ⟨by decide,raw,?_⟩
  rw [decoded,andThen_answer_iff]
  exact ⟨_,raw,mapError_ok_iff.mpr threeRow_decoded⟩

/-- The same body with status 500 is refused. -/
theorem status_decides_refused : ∃ text,
    (hostClient.load ⟨0,.response (threeMints 500),.zero⟩ mintsQuery).ending =
      .failure (refusal 500 text) := by
  obtain ⟨_,_,refused,_,untyped,_⟩ :=
    @status_decides hostClient _ _ ⟨0,.response (threeMints 500),.zero⟩ (threeMints 500) host_sent rfl
  obtain ⟨text,read⟩ := untyped rfl
  exact ⟨text,(refused text (by decide) (by decide) (host_arrives rfl) read).1⟩

end Redirection
end ScopedAnalytics.Client
