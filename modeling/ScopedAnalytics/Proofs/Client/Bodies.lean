import ScopedAnalytics.Client.Session
import ScopedAnalytics.Proofs.Client.Statuses
import ScopedAnalytics.Proofs.Json.Depth

/-! What the body of a successful response decides. It is read as JSON first, then an error that it
reports goes before everything else, and the data of its first result set are the rows; nothing of a body
without an error matters but those. Only a body nested too deep is refused neither as undecodable nor as
an error of the layer. -/
namespace ScopedAnalytics

namespace Response
variable {body : Json} {items : List Json} {resource : Resource}

/-- Whether a body reports an error: it is an object with a member for it, whatever else it holds. -/
def Reports (body error : Json) : Prop :=
  ∃ members, body = .object members ∧ Json.member? members "error" = some error

/-- Whether a body carries data: its first result set is an object with a list of them. -/
def Carries (body : Json) (items : List Json) : Prop :=
  ∃ members fields more, body = .object members ∧
    Json.member? members "results" = some (.list (.object fields :: more)) ∧
    Json.member? fields "data" = some (.list items)

theorem data_ok_iff : data body = .ok items ↔ Carries body items := by
  constructor
  · intro found
    unfold data at found
    split at found
    · rename_i members
      split at found
      · rename_i fields more results
        split at found
        · rename_i listed
          obtain rfl := Except.ok.inj found
          exact ⟨members,fields,more,rfl,results,listed⟩
        · cases found
      · cases found
      · cases found
    · cases found
  · rintro ⟨members,fields,more,rfl,results,listed⟩
    simp only [data,results,listed]

theorem data_error {u : Undecodable} (failed : data body = .error u) :
    u.failure.kind = .undecodable := by
  unfold data at failed
  split at failed
  · split at failed
    · split at failed
      · cases failed
      · exact Except.error.inj failed ▸ rfl
    · exact Except.error.inj failed ▸ rfl
    · exact Except.error.inj failed ▸ rfl
  · exact Except.error.inj failed ▸ rfl

theorem rows_of_carries (carries : Carries body items) : rows resource body = Row.decodeAll resource items := by
  rw [rows,data_ok_iff.mpr carries]
  rfl

/-- The rows of a body are those of its data, each from the item in its place. -/
theorem rows_ok_iff (carries : Carries body items) {answer : List Row} :
    rows resource body = .ok answer ↔
      List.Forall₂ (fun item row => Row.decode resource item = .ok row) items answer := by
  rw [rows_of_carries carries,Row.decodeAll,mapM_ok_iff]

/-- A body whose data are not all decoded fails as the first of them that is not. -/
theorem rows_error_iff (carries : Carries body items) {u : Undecodable} :
    rows resource body = .error u ↔ ∃ before item after, items = before ++ item :: after ∧
      (∀ earlier ∈ before, ∃ row, Row.decode resource earlier = .ok row) ∧
      Row.decode resource item = .error u := by
  rw [rows_of_carries carries,Row.decodeAll,mapM_error]

end Response

namespace Client
open Response (Reports Carries)

section Reading
variable {r : Http.Response} {body error : Json} {items : List Json}

private theorem isError_of_success (success : 200 ≤ r.status ∧ r.status < 300) :
    r.isError = false := by
  rw [← Bool.not_eq_true,isError_iff]
  omega

theorem readData_of_tooDeep (good : r.isError = false) {inObject : Bool}
    (deep : r.json = .error (.tooDeep inObject)) :
    readData r = .error (Json.Unreadable.tooDeep inObject).failure := by
  rw [readData,good,deep]
  rfl

theorem readData_of_unreadable (good : r.isError = false) {u : Json.Unreadable}
    (unread : r.json = .error u) (shallow : ∀ inObject, u ≠ .tooDeep inObject) :
    readData r = .error Undecodable.bodyNotJson.failure := by
  have kind : ¬u.failure.kind = .tooDeep := by
    cases u with
    | tooDeep inObject => exact absurd rfl (shallow inObject)
    | _ => simp [Json.Unreadable.failure]
  rw [readData,good,unread]
  simp [kind]

theorem readData_of_reports (good : r.isError = false) (read : r.json = .ok body)
    (reports : Reports body error) : readData r = .error (queryError r.status error) := by
  obtain ⟨members,rfl,reported⟩ := reports
  rw [readData,good,read]
  simp [reported]

theorem readData_of_silent (good : r.isError = false) (read : r.json = .ok body)
    (silent : ∀ error, ¬Reports body error) :
    readData r = (Response.data body).mapError Undecodable.failure := by
  rw [readData,good,read,if_neg Bool.false_ne_true]
  cases body with
  | object members =>
    cases found : Json.member? members "error" with
    | none => simp [found]
    | some error => exact absurd ⟨members,rfl,found⟩ (silent error)
  | _ => rfl

theorem readData_of_carries (good : r.isError = false) (read : r.json = .ok body)
    (silent : ∀ error, ¬Reports body error) (carries : Carries body items) :
    readData r = .ok items := by
  rw [readData_of_silent good read silent,Response.data_ok_iff.mpr carries]
  rfl

end Reading

section Courses
variable {c : Client} {query : Query} {request : Http.Request} {exchange : Http.Exchange}
  {r : Http.Response} {failure : Failure} {items : List Json}

/-- Whether a query fails in the course of a use, and nothing is noted but that it was asked. -/
def Use.Course.FailsWith (course : Use.Course) (query : Query) (failure : Failure) : Prop :=
  course.result = some (.error failure) ∧
    course.trace.entries = [(Notice.querySent query).entry]

private theorem courses_of_error (sent : c.request query = .ok request)
    (responded : exchange.ending = .response r) (arrives : Arrives request.url r)
    (failed : readData r = .error failure) :
    (Use.load query exchange).course c false =
      ⟨[.noted (.querySent query),.posted request],some (.error failure)⟩ ∧
    (Use.fetch query exchange).course c false =
      ⟨[.noted (.querySent query),.posted request],some (.error failure)⟩ := by
  have ended : ending request.url exchange.ending = .failure failure := by
    rw [responded,ending_of_arrives arrives,failed]
  simp only [Use.course,Use.reply,Bool.false_eq_true,if_false,load,sent,ended,decoded,Reply.andThen,
    Use.courseOf]
  exact ⟨rfl,rfl⟩

private theorem courses_of_ok (sent : c.request query = .ok request)
    (responded : exchange.ending = .response r) (arrives : Arrives request.url r)
    (found : readData r = .ok items) :
    (Use.load query exchange).course c false =
      ⟨[.noted (.querySent query),.posted request,
        .noted (.queryAnswered query.resource items.length)],some (.ok (.data items))⟩ ∧
    (Use.fetch query exchange).course c false =
      ⟨[.noted (.querySent query),.posted request,
        .noted (.queryAnswered query.resource items.length)],
        some (((Row.decodeAll query.resource items).mapError Undecodable.failure).map .rows)⟩ := by
  have ended : ending request.url exchange.ending = .answer items := by
    rw [responded,ending_of_arrives arrives,found]
  simp only [Use.course,Use.reply,Bool.false_eq_true,if_false,load,sent,ended,decoded,Reply.andThen,
    Use.courseOf]
  refine ⟨rfl,?_⟩
  cases Row.decodeAll query.resource items <;> rfl

/-- How the uses of a client that load and fetch a query go if the body of the response decides. -/
structure DecidedByBody (query : Query) (r : Http.Response) (load fetch : Use.Course) : Prop where
  /-- A body beyond the depth of the reader fails for its depth. -/
  deep : ∀ inObject, r.json = .error (.tooDeep inObject) →
    load.FailsWith query (Json.Unreadable.tooDeep inObject).failure ∧
      fetch.FailsWith query (Json.Unreadable.tooDeep inObject).failure
  /-- Any other body that is not JSON is undecodable. -/
  unread : ∀ u, r.json = .error u → (∀ inObject, u ≠ .tooDeep inObject) →
    load.FailsWith query Undecodable.bodyNotJson.failure ∧
      fetch.FailsWith query Undecodable.bodyNotJson.failure
  /-- An error that the body reports is one of the layer, with the status of the response. -/
  reported : ∀ body error, r.json = .ok body → Reports body error →
    load.FailsWith query (queryError r.status error) ∧
      fetch.FailsWith query (queryError r.status error)
  /-- The data of a body without an error are loaded as they are, and their number is noted. -/
  held : ∀ body items, r.json = .ok body → (∀ error, ¬Reports body error) → Carries body items →
    load.result = some (.ok (.data items)) ∧
      load.trace.entries = [(Notice.querySent query).entry,
        (Notice.queryAnswered query.resource items.length).entry]
  /-- A body with neither an error nor data is undecodable. -/
  shapeless : ∀ body, r.json = .ok body → (∀ error, ¬Reports body error) →
    (∀ items, ¬Carries body items) → ∃ u : Undecodable, u.failure.kind = .undecodable ∧
      load.FailsWith query u.failure ∧ fetch.FailsWith query u.failure
  /-- The rows that are fetched are those that the body is decoded to, or the failure is. -/
  decoded : ∀ body, r.json = .ok body → (∀ error, ¬Reports body error) →
    fetch.result = some (((Response.rows query.resource body).mapError Undecodable.failure).map .rows)
  /-- The same is seen of both uses. -/
  traces : fetch.trace = load.trace

private theorem fails_of_error (sent : c.request query = .ok request)
    (responded : exchange.ending = .response r) (arrives : Arrives request.url r)
    (failed : readData r = .error failure) :
    ((Use.load query exchange).course c false).FailsWith query failure ∧
      ((Use.fetch query exchange).course c false).FailsWith query failure := by
  obtain ⟨loading,fetching⟩ := courses_of_error sent responded arrives failed
  rw [loading,fetching]
  exact ⟨⟨rfl,rfl⟩,⟨rfl,rfl⟩⟩

theorem decidedByBody (sent : c.request query = .ok request)
    (responded : exchange.ending = .response r) (arrives : Arrives request.url r)
    (good : r.isError = false) :
    DecidedByBody query r ((Use.load query exchange).course c false)
      ((Use.fetch query exchange).course c false) where
  deep _ deep := fails_of_error sent responded arrives (readData_of_tooDeep good deep)
  unread _ unread shallow :=
    fails_of_error sent responded arrives (readData_of_unreadable good unread shallow)
  reported _ _ read reports :=
    fails_of_error sent responded arrives (readData_of_reports good read reports)
  held body items read silent carries := by
    have found := readData_of_carries good read silent carries
    rw [(courses_of_ok sent responded arrives found).1]
    exact ⟨rfl,rfl⟩
  shapeless body read silent void := by
    cases found : Response.data body with
    | ok items => exact absurd (Response.data_ok_iff.mp found) (void items)
    | error u =>
      refine ⟨u,Response.data_error found,fails_of_error sent responded arrives ?_⟩
      rw [readData_of_silent good read silent,found]
      rfl
  decoded body read silent := by
    have result := readData_of_silent good read silent
    rw [Response.rows]
    cases found : Response.data body with
    | ok items =>
      rw [found] at result
      rw [(courses_of_ok sent responded arrives result).2]
      rfl
    | error u =>
      rw [found] at result
      rw [(courses_of_error sent responded arrives result).2]
      rfl
  traces := by
    cases result : readData r with
    | ok items =>
      obtain ⟨loading,fetching⟩ := courses_of_ok sent responded arrives result
      rw [loading,fetching]
    | error failure =>
      obtain ⟨loading,fetching⟩ := courses_of_error sent responded arrives result
      rw [loading,fetching]

/-- A response with a status of success is decided by its body, whichever use asks for it. The rows that
a body with data is decoded to are those of its items, one for each, or it fails as the first that is not
decoded. So bodies without an error that carry the same data cannot be told apart. -/
theorem body_decides (sent : c.request query = .ok request)
    (responded : exchange.ending = .response r) (arrives : Arrives request.url r)
    (success : 200 ≤ r.status ∧ r.status < 300) :
    DecidedByBody query r ((Use.load query exchange).course c false)
      ((Use.fetch query exchange).course c false) ∧
    (∀ body items, Carries body items →
      (∀ rows, Response.rows query.resource body = .ok rows ↔
        List.Forall₂ (fun item row => Row.decode query.resource item = .ok row) items rows) ∧
      ∀ u, Response.rows query.resource body = .error u ↔
        ∃ before item after, items = before ++ item :: after ∧
          (∀ earlier ∈ before, ∃ row, Row.decode query.resource earlier = .ok row) ∧
          Row.decode query.resource item = .error u) ∧
    ∀ (r' : Http.Response) (body body' : Json) (items : List Json), Arrives request.url r' →
      200 ≤ r'.status ∧ r'.status < 300 → r.json = .ok body → r'.json = .ok body' →
      (∀ error, ¬Reports body error ∧ ¬Reports body' error) → Carries body items →
      Carries body' items →
        (Use.load query { exchange with ending := .response r' }).course c false =
          (Use.load query exchange).course c false ∧
        (Use.fetch query { exchange with ending := .response r' }).course c false =
          (Use.fetch query exchange).course c false := by
  have good := isError_of_success success
  refine ⟨decidedByBody sent responded arrives good,fun body items carries =>
    ⟨fun rows => Response.rows_ok_iff carries,fun u => Response.rows_error_iff carries⟩,?_⟩
  intro r' body body' items arrives' success' read read' silent carries carries'
  have found := readData_of_carries good read (fun error => (silent error).1) carries
  have found' := readData_of_carries (isError_of_success success') read'
    (fun error => (silent error).2) carries'
  have first := courses_of_ok sent responded arrives found
  have second := @courses_of_ok c query request { exchange with ending := .response r' } r' items
    sent rfl arrives' found'
  exact ⟨second.1.trans first.1.symm,second.2.trans first.2.symm⟩

end Courses

section Hosts

theorem body_decides_threeMints :
    hostClient.request mintsQuery = .ok ⟨loadUrl,"Bearer t",
      .ofMembers [("query",mintsQuery.toJson),("queryType",.str "multi")]⟩ ∧
    Arrives loadUrl (threeMints 200) ∧
    ((Use.load mintsQuery ⟨0,.response (threeMints 200),.zero⟩).course hostClient false).result =
      some (.ok (.data [threeRow])) ∧
    ((Use.fetch mintsQuery ⟨0,.response (threeMints 200),.zero⟩).course hostClient false).result =
      some (.ok (.rows [⟨some 3,none,none,none,none,none⟩])) := by
  have arrives : Arrives loadUrl (threeMints 200) := host_arrives rfl
  obtain ⟨decided,rows,_⟩ := @body_decides hostClient mintsQuery _
    ⟨0,.response (threeMints 200),.zero⟩ (threeMints 200) host_sent rfl arrives (by decide)
  obtain ⟨members,read,clean,found⟩ := threeMints_delivers 200
  have silent : ∀ error, ¬Reports (.object members) error := by
    rintro error ⟨_,same,reported⟩
    obtain rfl := Json.object.inj same
    cases clean.symm.trans reported
  have carries := Response.data_ok_iff.mp found
  have answer : Response.rows mintsQuery.resource (.object members) =
      .ok [⟨some 3,none,none,none,none,none⟩] :=
    ((rows _ _ carries).1 _).mpr (mapM_forall₂ threeRow_decoded)
  refine ⟨host_sent,arrives,(decided.held _ _ read silent carries).1,?_⟩
  rw [decided.decoded _ read silent,answer]
  rfl

/-- A response whose body opens more lists than the reader goes deep. -/
def bottomless : Http.Response := ⟨200,none,List.replicate 20000 0x5B⟩

/-- Such a body is no JSON value, and yet it is not refused as undecodable, nor as any failure that is
reported. -/
theorem bottomless_unreported :
    (200 ≤ bottomless.status ∧ bottomless.status < 300) ∧ Arrives loadUrl bottomless ∧
    (∀ body, bottomless.json ≠ .ok body) ∧ ∃ failure,
      ((Use.load mintsQuery ⟨0,.response bottomless,.zero⟩).course hostClient false).result =
        some (.error failure) ∧
      ((Use.fetch mintsQuery ⟨0,.response bottomless,.zero⟩).course hostClient false).result =
        some (.error failure) ∧
      failure.kind ≠ .undecodable ∧ failure.kind.isReported = false := by
  have deep : bottomless.json = .error (.tooDeep false) := Json.ofBytes_brackets (by decide)
  have arrives : Arrives loadUrl bottomless := host_arrives rfl
  obtain ⟨loading,fetching⟩ := @fails_of_error hostClient mintsQuery _
    ⟨0,.response bottomless,.zero⟩ bottomless _ host_sent rfl arrives
    (readData_of_tooDeep (by decide) deep)
  refine ⟨by decide,arrives,fun body read => ?_,_,loading.1,fetching.1,by decide,by decide⟩
  rw [deep] at read
  cases read

end Hosts
end Client
end ScopedAnalytics
