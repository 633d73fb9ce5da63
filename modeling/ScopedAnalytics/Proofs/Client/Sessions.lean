import ScopedAnalytics.Client.Session
import ScopedAnalytics.Proofs.Http.Below
import ScopedAnalytics.Proofs.Json.Writable
import ScopedAnalytics.Proofs.Row.Answering

/-! What a client posts while it is in use. Each query that it is asked before its closing leaves once,
in a post to the path of loads below its base URL, whatever became of the others; after the closing
none leaves. -/
namespace ScopedAnalytics.Client

variable {u : Url} {c : Client} {baseUrl token : String} {query : Query} {use : Use} {uses : List Use}

section Base

private theorem asciiText_of_isAscii {text : String} (ascii : IsAscii text.toList) :
    asciiText text = .ok text := by
  have all : ∀ c ∈ text.toList, (decide (c.toNat < 0x80)) = true := by simpa [IsAscii] using ascii
  rw [asciiText,beyondAscii?,List.span_eq_takeWhile_dropWhile,List.dropWhile_eq_nil_iff.mpr all]

private theorem asciiText_of_not_isAscii {text : String} (beyond : ¬IsAscii text.toList) :
    ∃ fault, asciiText text = .error fault := by
  rw [asciiText,beyondAscii?,List.span_eq_takeWhile_dropWhile]
  cases rest : text.toList.dropWhile (·.toNat < 0x80) with
  | nil =>
    have all := List.dropWhile_eq_nil_iff.mp rest
    exact absurd (fun c member => by simpa using all c member) beyond
  | cons c rest => exact ⟨_,rfl⟩

private theorem asciiText_ok {text held : String} (ok : asciiText text = .ok held) : held = text := by
  unfold asciiText at ok
  split at ok
  · cases ok
  · exact (Except.ok.inj ok).symm

private theorem trimSlashes_getLast? (text : String) :
    (trimSlashes text).toList.getLast? ≠ some '/' := by
  rw [trimSlashes,String.toList_ofList,List.getLast?_reverse]
  intro first
  cases rest : text.toList.reverse.dropWhile (· == '/') with
  | nil => simp [rest] at first
  | cons c more =>
    have stops := List.head_dropWhile_not (· == '/') (l := text.toList.reverse) (by simp [rest])
    simp_all

theorem ofBase_ok (made : ofBase baseUrl token = .ok c) :
    readBase baseUrl = .ok c.base ∧ c.header = "Bearer " ++ token := by
  unfold ofBase at made
  obtain ⟨base,read,made⟩ := except_bind_ok made
  obtain ⟨header,ascii,made⟩ := except_bind_ok made
  obtain rfl := Except.ok.inj made
  exact ⟨read,asciiText_ok ascii⟩

end Base

section Posting

/-- Whether a query can be posted to a host: the path of its loads is not too long, the host is in
ASCII, and the limit of the query has no more digits than can be written. -/
structure Admits (u : Url) (query : Query) : Prop where
  path : u.path.toList.length + loadPath.toList.length ≤ Url.lengthLimit
  host : IsAscii u.hostAndPort.toList
  limit : Numeral.isWritable query.limit = true

instance (u : Url) (query : Query) : Decidable (Admits u query) :=
  decidable_of_iff (u.path.toList.length + loadPath.toList.length ≤ Url.lengthLimit ∧
      IsAscii u.hostAndPort.toList ∧ Numeral.isWritable query.limit = true)
    ⟨fun ⟨path,host,limit⟩ => ⟨path,host,limit⟩,fun ⟨path,host,limit⟩ => ⟨path,host,limit⟩⟩

/-- Nothing but its limit can keep a query from being written. -/
theorem bodyOf_isWritable (query : Query) :
    (bodyOf query).isWritable = Numeral.isWritable query.limit := by
  have time : query.timeDimension.toJson.isWritable = true := by
    rw [Query.TimeDimension.toJson,Json.isWritable_ofMembers]
    cases query.timeDimension.granularity <;> cases query.timeDimension.dateRange with
    | none => simp
    | some range => cases range <;> simp [Query.dateRangeJson]
  have filters : (query.filters.map Query.Filter.toJson).all Json.isWritable = true := by
    rw [List.all_map,List.all_eq_true]
    intro filter _
    simp [Query.Filter.toJson]
  simp [bodyOf,Query.toJson,time,filters]

/-- The post of a query to the host of a base URL. The token goes with it, unless the URL gives a name
or a password. -/
structure IsPost (baseUrl token : String) (credentials : String × String) (query : Query)
    (request : Http.Request) : Prop where
  url : request.url.text = trimSlashes baseUrl ++ loadPath
  authorization : request.authorization =
    if credentials = ("","") then "Bearer " ++ token else basicAuthorization credentials
  body : request.body = .ofMembers [("query",query.toJson),("queryType",.str "multi")]

private theorem loadPath_eq : loadPath = String.ofList ('/' :: "cubejs-api/v1/load".toList) := by
  decide

private theorem load_isPlain : Url.IsPlain "cubejs-api/v1/load".toList where
  own := by
    refine mem_forall ?_
    simp only [Percent.inPath,Percent.inQuery]
    decide
  undotted := by decide
  unslashed := by decide

variable (normal : u.IsNormal) (written : trimSlashes baseUrl = u.text)
  (made : ofBase baseUrl token = .ok c)

include normal written in
private theorem unslashed : u.path.toList.getLast? ≠ some '/' := by
  intro last
  refine trimSlashes_getLast? baseUrl ?_
  rw [written,normal.text_eq,List.getLast?_append,last]
  rfl

include normal written made in
private theorem base_eq : u.asBase = .ok c.base := by
  have read := mapError_ok (ofBase_ok made).1
  rw [written,normal.read] at read
  exact read

include normal written made in
private theorem authorization_eq : c.authorization =
    if u.credentials = ("","") then "Bearer " ++ token else basicAuthorization u.credentials := by
  obtain ⟨path,base,_⟩ := normal.asBase_ok (unslashed normal written) (base_eq normal written made)
  have same : c.base.credentials = u.credentials := by rw [base]; rfl
  rw [authorization,same,(ofBase_ok made).2]

include normal written made in
theorem request_ok (admits : Admits u query) : ∃ request,
    c.request query = .ok request ∧ IsPost baseUrl token u.credentials query request := by
  have below := normal.below_eq (unslashed normal written) (base_eq normal written made) load_isPlain
  have short : ¬Url.lengthLimit < u.path.toList.length + 1 + "cubejs-api/v1/load".toList.length := by
    have bound := admits.path
    rw [loadPath_eq,String.toList_ofList,List.length_cons] at bound
    omega
  rw [if_neg short,← loadPath_eq] at below
  refine ⟨⟨u.longer "cubejs-api/v1/load".toList,c.authorization,_⟩,?_,?_,?_,rfl⟩
  · have host : (u.longer "cubejs-api/v1/load".toList).hostAndPort = u.hostAndPort := rfl
    have body : checkBody (bodyOf query) = .ok () :=
      if_pos ((bodyOf_isWritable query).trans admits.limit)
    rw [request,below]
    simp only [Except.mapError,bind,Except.bind,host,body,asciiText_of_isAscii admits.host]
    rfl
  · rw [Url.longer_text normal.query normal.fragment,written,loadPath_eq]
  · exact authorization_eq normal written made

include normal written made in
theorem request_error (admits : ¬Admits u query) :
    ∃ fault, c.request query = .error fault := by
  have below := normal.below_eq (unslashed normal written) (base_eq normal written made) load_isPlain
  rw [← loadPath_eq] at below
  cases called : c.request query with
  | error fault => exact ⟨fault,rfl⟩
  | ok request =>
    unfold Client.request at called
    obtain ⟨url,placed,called⟩ := except_bind_ok called
    obtain ⟨_,body,called⟩ := except_bind_ok called
    obtain ⟨host,writable,_⟩ := except_bind_ok called
    rw [below] at placed
    split at placed
    · cases placed
    · rename_i short
      obtain rfl := Except.ok.inj (mapError_ok placed)
      refine absurd ⟨?_,?_,?_⟩ admits
      · rw [loadPath_eq,String.toList_ofList,List.length_cons]
        omega
      · by_contra beyond
        obtain ⟨fault,failed⟩ := asciiText_of_not_isAscii beyond
        cases writable.symm.trans failed
      · unfold checkBody at body
        split at body
        · rename_i whole
          exact (bodyOf_isWritable query).symm.trans whole
        · cases body

end Posting

section Courses

def Use.query? : Use → Option Query
  | .load query _ => some query
  | .fetch query _ => some query
  | .close => none

private theorem Use.eq_close (silent : use.query? = none) : use = .close := by
  cases use with
  | load query exchange => cases silent
  | fetch query exchange => cases silent
  | close => rfl

def Use.Course.posted (course : Use.Course) : List Http.Request := course.trace.requests

private theorem andThen_error {α β : Type} {reply : Reply α} {f : α → Except Failure β}
    {failure : Failure} (failed : reply.ending = .failure failure) :
    (reply.andThen f).ending = .failure failure := by
  rw [Reply.andThen,failed]

private theorem course_eq (c : Client) (closed : Bool) (asks : use.query? = some query) : ∃ exchange,
    (use.course c closed).trace = ((Use.reply c closed query exchange).opening ++
      (Use.reply c closed query exchange).closing).map Remark.event ∧
    ∀ failure, (Use.reply c closed query exchange).ending = .failure failure →
      (use.course c closed).result = some (.error failure) := by
  cases use with
  | load asked exchange =>
    obtain rfl := Option.some.inj asks
    refine ⟨exchange,rfl,fun failure failed => ?_⟩
    simp [Use.course,Use.courseOf,failed]
  | fetch asked exchange =>
    obtain rfl := Option.some.inj asks
    refine ⟨exchange,rfl,fun failure failed => ?_⟩
    simp [Use.course,Use.courseOf,decoded,andThen_error failed]
  | close => cases asks

/-- An open client posts each query whose request it can put together, and no other. -/
theorem posted_open (asks : use.query? = some query) :
    (∀ request, c.request query = .ok request → (use.course c false).posted = [request]) ∧
    ∀ fault, c.request query = .error fault → (use.course c false).posted = [] ∧
      (use.course c false).result = some (.error fault.failure) := by
  obtain ⟨exchange,trace,failing⟩ := course_eq c false asks
  rw [Use.Course.posted,trace]
  refine ⟨fun request sent => ?_,fun fault bad => ⟨?_,failing _ ?_⟩⟩
  · simp only [Use.reply,Bool.false_eq_true,if_false,load,sent]
    split <;> rfl
  · simp only [Use.reply,Bool.false_eq_true,if_false,load,bad]
    rfl
  · simp only [Use.reply,Bool.false_eq_true,if_false,load,bad]
    rfl

theorem posted_closed (asks : use.query? = some query) :
    (use.course c true).posted = [] ∧
    (∀ request, c.request query = .ok request →
      (use.course c true).result = some (.error closedFailure)) ∧
    ∀ fault, c.request query = .error fault →
      (use.course c true).result = some (.error fault.failure) := by
  obtain ⟨exchange,trace,failing⟩ := course_eq c true asks
  rw [Use.Course.posted,trace]
  refine ⟨rfl,fun request sent => failing _ ?_,fun fault bad => failing _ ?_⟩
  · simp only [Use.reply,if_true,loadClosed,sent]
    rfl
  · simp only [Use.reply,if_true,loadClosed,bad]
    rfl

theorem courses_closed (uses : List Use) : courses c true uses = uses.map (Use.course c true) := by
  induction uses with
  | nil => rfl
  | cons use uses ih => rw [courses,Bool.true_or,ih,List.map_cons]

def beforeClosing (uses : List Use) : List Use := uses.takeWhile fun use => !use.closes

/-- A run goes use by use as if each were the only one, open before the first closing and closed from
it on. -/
theorem courses_eq (uses : List Use) : courses c false uses =
    (beforeClosing uses).map (Use.course c false) ++
      (uses.drop (beforeClosing uses).length).map (Use.course c true) := by
  induction uses with
  | nil => rfl
  | cons use uses ih =>
    cases use with
    | load query exchange => exact congrArg (_ :: ·) ih
    | fetch query exchange => exact congrArg (_ :: ·) ih
    | close => exact congrArg (_ :: ·) (courses_closed uses)

private theorem posted_flatMap (normal : u.IsNormal) (written : trimSlashes baseUrl = u.text)
    (made : ofBase baseUrl token = .ok c) (uses : List Use) :
    List.Forall₂ (IsPost baseUrl token u.credentials)
      ((uses.filterMap Use.query?).filter (Admits u ·))
      ((uses.map (Use.course c false)).flatMap Use.Course.posted) := by
  induction uses with
  | nil => exact .nil
  | cons use uses ih =>
    rw [List.map_cons,List.flatMap_cons]
    cases asks : use.query? with
    | none =>
      obtain rfl := Use.eq_close asks
      exact ih
    | some query =>
      rw [List.filterMap_cons,asks]
      by_cases admits : Admits u query
      · obtain ⟨request,sent,post⟩ := request_ok normal written made admits
        rw [List.filter_cons_of_pos (by simpa using admits),(posted_open asks).1 request sent]
        exact .cons post ih
      · obtain ⟨fault,bad⟩ := request_error normal written made admits
        rw [List.filter_cons_of_neg (by simpa using admits),((posted_open asks).2 fault bad).1]
        exact ih

private theorem posted_map_closed (uses : List Use) :
    (uses.map (Use.course c true)).flatMap Use.Course.posted = [] := by
  refine List.flatMap_eq_nil_iff.mpr fun course held => ?_
  obtain ⟨use,_,rfl⟩ := List.mem_map.mp held
  cases asks : use.query? with
  | none =>
    obtain rfl := Use.eq_close asks
    rfl
  | some query => exact (posted_closed asks).1

/-- Whatever uses a client is put to and whatever comes of them: before the first closing each goes as
if it were the only one, and one that asks a query posts it once, below the base URL and with the
token, or with the credentials that the URL gives instead; from the closing on each such use fails and
posts nothing. So the posts of a run are those of the queries before its closing that can be posted, one
for each, in their order. A query that cannot, to this host or to any, fails and leaves nothing. -/
theorem uses_post (normal : u.IsNormal) (written : trimSlashes baseUrl = u.text)
    (made : ofBase baseUrl token = .ok c) (uses : List Use) :
    courses c false uses = (beforeClosing uses).map (Use.course c false) ++
      (uses.drop (beforeClosing uses).length).map (Use.course c true) ∧
    (∀ (use : Use) (query : Query), use.query? = some query →
      (Admits u query → ∃ request, (use.course c false).posted = [request] ∧
        IsPost baseUrl token u.credentials query request) ∧
      (¬Admits u query → (use.course c false).posted = [] ∧
        ∃ failure, (use.course c false).result = some (.error failure)) ∧
      (use.course c true).posted = [] ∧
      ∃ failure, (use.course c true).result = some (.error failure) ∧
        (Admits u query → failure = closedFailure)) ∧
    List.Forall₂ (IsPost baseUrl token u.credentials)
      (((beforeClosing uses).filterMap Use.query?).filter (Admits u ·))
      ((courses c false uses).flatMap Use.Course.posted) := by
  refine ⟨courses_eq uses,fun use query asks => ⟨fun admits => ?_,fun refused => ?_,?_,?_⟩,?_⟩
  · obtain ⟨request,sent,post⟩ := request_ok normal written made admits
    exact ⟨request,(posted_open asks).1 request sent,post⟩
  · obtain ⟨fault,bad⟩ := request_error normal written made refused
    obtain ⟨nothing,failed⟩ := (posted_open asks).2 fault bad
    exact ⟨nothing,_,failed⟩
  · exact (posted_closed asks).1
  · by_cases admits : Admits u query
    · obtain ⟨request,sent,_⟩ := request_ok normal written made admits
      exact ⟨_,(posted_closed asks).2.1 request sent,fun _ => rfl⟩
    · obtain ⟨fault,bad⟩ := request_error normal written made admits
      exact ⟨_,(posted_closed asks).2.2 fault bad,fun possible => absurd possible admits⟩
  · rw [courses_eq,List.flatMap_append,posted_map_closed,List.append_nil]
    exact posted_flatMap normal written made _

end Courses

section Hosts

def plainHost : Url := ⟨"http","","h",none,"",none,none⟩

def unending : Http.Exchange := ⟨0,.silence,.zero⟩

private theorem plainHost_text : plainHost.text = "http://h" := by decide

private theorem plainHost_isNormal : plainHost.IsNormal where
  read := by
    rw [plainHost_text]
    decide
  query := rfl
  fragment := rfl

private theorem mintsQuery_writable : Numeral.isWritable mintsQuery.limit = true :=
  Numeral.isWritable_of_lt 3 (by decide) (by decide)

private theorem plainHost_admits : Admits plainHost mintsQuery where
  path := by decide
  host := by
    have text : plainHost.hostAndPort = "h" := by decide
    rw [text]
    decide
  limit := mintsQuery_writable

/-- A query with a limit of one digit too many. -/
def vastQuery : Query := { mintsQuery with limit := (10 ^ Numeral.digitLimit : Nat) }

private theorem vastQuery_refused (u : Url) : ¬Admits u vastQuery := by
  intro admits
  have written := admits.limit
  rw [vastQuery,Numeral.isWritable_iff,Int.natAbs_natCast] at written
  exact Nat.lt_irrefl _ written

/-- A base URL with slashes behind it. Two queries are posted, the second after the first was left
without an end. One that cannot be written is not, and neither is one after the closing. -/
theorem uses_post_slashes :
    plainHost.IsNormal ∧ trimSlashes "http://h//" = plainHost.text ∧
    ofBase "http://h//" "t" = .ok ⟨plainHost,"Bearer t"⟩ ∧ Admits plainHost mintsQuery ∧
    ¬Admits plainHost vastQuery ∧
    List.Forall₂ (IsPost "http://h//" "t" plainHost.credentials) [mintsQuery,mintsQuery]
      ((courses ⟨plainHost,"Bearer t"⟩ false [.load mintsQuery unending,.load vastQuery unending,
        .fetch mintsQuery unending,.close,.load mintsQuery unending]).flatMap Use.Course.posted) := by
  have written : trimSlashes "http://h//" = plainHost.text := by
    rw [plainHost_text]
    decide
  have made : ofBase "http://h//" "t" = .ok ⟨plainHost,"Bearer t"⟩ := by decide +kernel
  have posts := (uses_post plainHost_isNormal written made [.load mintsQuery unending,
    .load vastQuery unending,.fetch mintsQuery unending,.close,.load mintsQuery unending]).2.2
  simp only [beforeClosing,List.takeWhile,Use.closes,Bool.not_false,Bool.not_true,List.filterMap,
    Use.query?,List.filter,plainHost_admits,vastQuery_refused,decide_true,decide_false] at posts
  exact ⟨plainHost_isNormal,written,made,plainHost_admits,vastQuery_refused plainHost,posts⟩

def namedHost : Url := ⟨"http","user:pw","h",none,"",none,none⟩

private theorem namedHost_text : namedHost.text = "http://user:pw@h" := by
  have authority : namedHost.authority = "user:pw@h" := by
    simp [namedHost,Url.authority,Url.hostAndPort]
  rw [Url.text,authority]
  simp [namedHost]

/-- A query is posted to a host with a name and a password without the token. -/
theorem credentials_without_token :
    namedHost.IsNormal ∧ trimSlashes "http://user:pw@h" = namedHost.text ∧
    ofBase "http://user:pw@h" "t" = .ok ⟨namedHost,"Bearer t"⟩ ∧
    ((courses ⟨namedHost,"Bearer t"⟩ false [.load mintsQuery unending]).flatMap
      Use.Course.posted).map (·.authorization) = ["Basic dXNlcjpwdw=="] := by
  have normal : namedHost.IsNormal := ⟨by rw [namedHost_text]; decide,rfl,rfl⟩
  have written : trimSlashes "http://user:pw@h" = namedHost.text := by
    rw [namedHost_text]
    decide
  have made : ofBase "http://user:pw@h" "t" = .ok ⟨namedHost,"Bearer t"⟩ := by decide +kernel
  have admits : Admits namedHost mintsQuery := by
    have text : namedHost.hostAndPort = "h" := by decide
    exact ⟨by decide,by rw [text]; decide,mintsQuery_writable⟩
  have authorized : basicAuthorization namedHost.credentials = "Basic dXNlcjpwdw==" := by decide +kernel
  obtain ⟨request,sent,post⟩ := request_ok normal written made admits
  have asks : (Use.load mintsQuery unending).query? = some mintsQuery := rfl
  have posted : (courses ⟨namedHost,"Bearer t"⟩ false [.load mintsQuery unending]).flatMap
      Use.Course.posted = [request] :=
    (List.append_nil _).trans ((posted_open asks).1 request sent)
  refine ⟨normal,written,made,?_⟩
  rw [posted,List.map_singleton,post.authorization,if_neg (by decide +kernel),authorized]

end Hosts

end ScopedAnalytics.Client
