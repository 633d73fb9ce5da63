import ScopedAnalytics.Proofs.Dispatch.Traffic
import ScopedAnalytics.Proofs.Meter.Totals
import ScopedAnalytics.Proofs.Numeral.Whole
import ScopedAnalytics.Proofs.Service.Settlement

/-! What is checked of a request before any query is sent, and in which order. The first check that
fails decides how the request fails, and nothing but that failure is counted; a request that passes
all of them fails in these ways only if the layer does. -/
namespace ScopedAnalytics

inductive Check where
  | selection | scope | window | limit
deriving DecidableEq, Repr

namespace Check

def rank : Check → Nat
  | selection => 0
  | scope => 1
  | window => 2
  | limit => 3

/-- The kind of failure of a request that a check finds wrong. -/
def kind : Check → Failure.Kind
  | selection | limit => .invalidRequest
  | scope => .invalidScope
  | window => .invalidTimeWindow

end Check

namespace Request
variable {r : Request} {check : Check}

/-- What each check asks of a request. The limit is looked at only if there is something to
query. -/
def Fulfils (r : Request) : Check → Prop
  | .selection => ∃ nodes, r.Reads nodes
  | .scope => ∃ key text, r.scope.IsOnly key text
  | .window => r.window.IsComplete
  | .limit => ∀ nodes, r.Reads nodes →
      Selections.addMeasures (Selections.extract nodes) r.measures ≠ [] →
        ∀ n, r.limit = some n → 0 < n

/-- Whether it can be told what a check finds wrong. Only a limit with too many digits cannot. -/
def Tells (r : Request) : Check → Prop
  | .limit => ∀ n, r.limit = some n → Numeral.isWritable n = true
  | _ => True

theorem tells_of_ne (other : check ≠ .limit) : r.Tells check := by
  cases check with
  | limit => exact absurd rfl other
  | _ => trivial

theorem limit_of_untold (untold : ¬r.Tells check) :
    ∃ n, r.limit = some n ∧ Numeral.isWritable n = false := by
  cases check with
  | limit =>
    simp only [Tells,not_forall,Bool.not_eq_true] at untold
    obtain ⟨n,given,unwritable⟩ := untold
    exact ⟨n,given,unwritable⟩
  | _ => exact absurd trivial untold

/-- A check that a request fails, having passed all before it. -/
structure FailsFirst (r : Request) (check : Check) : Prop where
  fails : ¬r.Fulfils check
  before : ∀ earlier : Check, earlier.rank < check.rank → r.Fulfils earlier

theorem fulfils_or_failsFirst (r : Request) :
    (∀ check, r.Fulfils check) ∨ ∃ check, r.FailsFirst check := by
  by_cases selection : r.Fulfils .selection
  · by_cases scope : r.Fulfils .scope
    · by_cases window : r.Fulfils .window
      · by_cases limit : r.Fulfils .limit
        · exact .inl fun check => by cases check <;> assumption
        · refine .inr ⟨.limit,limit,fun earlier less => ?_⟩
          cases earlier <;> first | assumption | exact absurd less (by decide)
      · refine .inr ⟨.window,window,fun earlier less => ?_⟩
        cases earlier <;> first | assumption | exact absurd less (by decide)
    · refine .inr ⟨.scope,scope,fun earlier less => ?_⟩
      cases earlier <;> first | assumption | exact absurd less (by decide)
  · refine .inr ⟨.selection,selection,fun earlier less => ?_⟩
    exact absurd less (Nat.not_lt_zero _)

private theorem selections_error {f : Failure} (failed : r.selections = .error f) :
    f.kind = .invalidRequest := by
  unfold Request.selections at failed
  cases given : r.selection with
  | inr nodes =>
    rw [given] at failed
    cases failed
  | inl text =>
    rw [given] at failed
    rcases except_bind_error.mp failed with unread | ⟨nodes,_,impossible⟩
    · cases read : Selections.readNodes text with
      | ok nodes =>
        rw [read] at unread
        cases unread
      | error fault =>
        rw [read] at unread
        exact Except.error.inj unread ▸ rfl
    · cases impossible

section Steps
variable {ε α : Type} {f : ε → Failure}

private theorem mapError_of_none {step : Except ε α} {kind : Failure.Kind}
    (own : ∀ fault, (f fault).kind = kind) (none : ∀ value, step ≠ .ok value) :
    ∃ message, step.mapError f = .error ⟨kind,message⟩ := by
  cases step with
  | ok value => exact absurd rfl (none value)
  | error fault => exact ⟨(f fault).message,congrArg Except.error (by rw [← own fault])⟩

private theorem mapError_of_ok {step : Except ε α} {value : α} (ok : step = .ok value) :
    step.mapError f = .ok value := by
  rw [ok]
  rfl

end Steps

/-- The plan of a request, as the limit is the last thing to check. -/
theorem plan_eq {selections : List Selection} {scope : Scope} {window : Window}
    (selected : r.selections = .ok selections) (narrowed : Scope.resolve r.scope = .ok scope)
    (bounded : Window.resolve r.window = .ok window) :
    r.plan = (selections.mapM fun s => Query.build s scope window r.order r.limit).mapError
        LimitFault.failure >>= fun queries =>
      .ok ⟨selections,scope,window.granularity,queries⟩ := by
  rw [Request.plan,selected,narrowed,bounded]
  rfl

private theorem plan_of_unreadable (unreadable : ¬r.Fulfils .selection) :
    ∃ message, r.plan = .error ⟨.invalidRequest,message⟩ := by
  cases refused : r.selections with
  | ok selections =>
    obtain ⟨nodes,reads,_⟩ := selections_ok_iff.mp refused
    exact absurd ⟨nodes,reads⟩ unreadable
  | error f =>
    rw [← selections_error refused]
    exact ⟨f.message,except_bind_error.mpr (.inl refused)⟩

section Later
variable {selections : List Selection} {scope : Scope} {window : Window}

private theorem plan_of_unscoped (selected : r.selections = .ok selections)
    (unscoped : ¬r.Fulfils .scope) : ∃ message, r.plan = .error ⟨.invalidScope,message⟩ := by
  have none : ∀ scope, Scope.resolve r.scope ≠ .ok scope :=
    fun scope ok => unscoped ⟨_,_,Scope.resolve_ok_iff.mp ok⟩
  obtain ⟨message,failed⟩ := mapError_of_none
    (f := fun fault => ⟨.invalidScope,fault.message⟩) (fun _ => rfl) none
  exact ⟨message,except_bind_error.mpr (.inr ⟨_,selected,except_bind_error.mpr (.inl failed)⟩)⟩

private theorem plan_of_unbounded (selected : r.selections = .ok selections)
    (narrowed : Scope.resolve r.scope = .ok scope) (unbounded : ¬r.Fulfils .window) :
    ∃ message, r.plan = .error ⟨.invalidTimeWindow,message⟩ := by
  have none : ∀ window, Window.resolve r.window ≠ .ok window :=
    fun window ok => unbounded (Window.resolve_ok_iff.mp ⟨window,ok⟩)
  obtain ⟨message,failed⟩ := mapError_of_none
    (f := fun fault => ⟨.invalidTimeWindow,fault.message⟩) (fun _ => rfl) none
  exact ⟨message,except_bind_error.mpr (.inr ⟨_,selected,except_bind_error.mpr
    (.inr ⟨_,mapError_of_ok narrowed,except_bind_error.mpr (.inl failed)⟩)⟩)⟩

private theorem plan_of_unlimited (selected : r.selections = .ok selections)
    (narrowed : Scope.resolve r.scope = .ok scope) (bounded : Window.resolve r.window = .ok window)
    (unlimited : ¬r.Fulfils .limit) :
    ∃ n, r.limit = some n ∧ r.plan = .error (LimitFault.failure ⟨n⟩) := by
  rw [plan_eq selected narrowed bounded]
  cases built : selections.mapM fun s => Query.build s scope window r.order r.limit with
  | ok queries =>
    refine absurd (fun nodes reads some => ?_) unlimited
    -- The selections are those of any nodes that the request reads, and there is one among them.
    have same := selections_ok_iff.mpr ⟨nodes,reads,rfl⟩
    rw [selected] at same
    rw [← Except.ok.inj same] at some
    cases mapM_forall₂ built with
    | nil => exact absurd rfl some
    | cons here _ => exact (Query.build_ok_iff.mp here).1
  | error fault =>
    obtain ⟨_,_,_,_,_,refused⟩ := mapM_error.mp built
    exact ⟨fault.limit,Query.build_error refused,rfl⟩

end Later

/-- What a request fails with that does not pass a check: the failure that the check says, if that can
be told. -/
theorem plan_error (first : r.FailsFirst check) : ∃ f, r.plan = .error f ∧
    (r.Tells check → f.kind = check.kind) ∧ (¬r.Tells check → f = .unwritable) := by
  have told {kind : Failure.Kind} (tells : r.Tells check)
      (refused : ∃ message, r.plan = .error ⟨kind,message⟩) : ∃ f, r.plan = .error f ∧
        (r.Tells check → f.kind = kind) ∧ (¬r.Tells check → f = .unwritable) := by
    obtain ⟨message,refused⟩ := refused
    exact ⟨_,refused,fun _ => rfl,fun untold => absurd tells untold⟩
  have selected (later : Check.selection.rank < check.rank) :
      ∃ selections, r.selections = .ok selections := by
    obtain ⟨nodes,reads⟩ := first.before .selection later
    exact ⟨_,selections_ok_iff.mpr ⟨nodes,reads,rfl⟩⟩
  have narrowed (later : Check.scope.rank < check.rank) :
      ∃ scope, Scope.resolve r.scope = .ok scope := by
    obtain ⟨key,text,only⟩ := first.before .scope later
    exact ⟨⟨text,key⟩,Scope.resolve_ok_iff.mpr only⟩
  have bounded (later : Check.window.rank < check.rank) :
      ∃ window, Window.resolve r.window = .ok window :=
    Window.resolve_ok_iff.mpr (first.before .window later)
  cases check with
  | selection => exact told trivial (plan_of_unreadable first.fails)
  | scope =>
    obtain ⟨_,selections⟩ := selected (by decide)
    exact told trivial (plan_of_unscoped selections first.fails)
  | window =>
    obtain ⟨_,selections⟩ := selected (by decide)
    obtain ⟨_,scope⟩ := narrowed (by decide)
    exact told trivial (plan_of_unbounded selections scope first.fails)
  | limit =>
    obtain ⟨_,selections⟩ := selected (by decide)
    obtain ⟨_,scope⟩ := narrowed (by decide)
    obtain ⟨_,window⟩ := bounded (by decide)
    obtain ⟨n,given,refused⟩ := plan_of_unlimited selections scope window first.fails
    refine ⟨_,refused,fun tells => ?_,fun untold => ?_⟩
    · rw [LimitFault.failure_of_isWritable (tells n given)]
      rfl
    · have tells (writable : Numeral.isWritable n = true) : r.Tells .limit := by
        intro m held
        rwa [Option.some.inj (held.symm.trans given)]
      exact LimitFault.failure_of_unwritable (Bool.eq_false_iff.mpr (mt tells untold))

/-- A request fails as the first check says that it does not pass. -/
theorem plan_of_failsFirst (first : r.FailsFirst check) (tells : r.Tells check) :
    ∃ message, r.plan = .error ⟨check.kind,message⟩ := by
  obtain ⟨f,refused,told,_⟩ := plan_error first
  exact ⟨f.message,refused.trans (congrArg Except.error (by rw [← told tells]))⟩

theorem plan_of_untold (first : r.FailsFirst check) (untold : ¬r.Tells check) :
    r.plan = .error .unwritable := by
  obtain ⟨f,refused,_,unwritable⟩ := plan_error first
  rw [refused,unwritable untold]

theorem plan_of_fulfils (fulfils : ∀ check, r.Fulfils check) : ∃ plan, r.plan = .ok plan := by
  obtain ⟨nodes,reads⟩ := fulfils .selection
  obtain ⟨key,text,only⟩ := fulfils .scope
  obtain ⟨window,bounded⟩ := Window.resolve_ok_iff.mpr (fulfils .window)
  have selected := selections_ok_iff.mpr ⟨nodes,reads,rfl⟩
  have narrowed : Scope.resolve r.scope = .ok ⟨text,key⟩ := Scope.resolve_ok_iff.mpr only
  rw [plan_eq selected narrowed bounded]
  cases built : (Selections.addMeasures (Selections.extract nodes) r.measures).mapM fun s =>
      Query.build s ⟨text,key⟩ window r.order r.limit with
  | ok queries => exact ⟨_,rfl⟩
  | error fault =>
    -- A selection whose query is refused is one to be queried, so the limit is checked.
    obtain ⟨before,s,after,same,_,refused⟩ := mapM_error.mp built
    have positive := fulfils .limit nodes reads (by simp [same])
    rw [Query.build_ok_iff.mpr ⟨positive,rfl⟩] at refused
    cases refused

end Request

namespace Meter

/-- Two meters of which the second shows one more failure of a kind, and no other difference. -/
structure OneMore (kind : String) (m n : Meter) : Prop where
  durations : n.durations = m.durations
  rows : n.rows = m.rows
  points : n.points = m.points
  others : ∀ other, other ≠ kind → n.failures.lookup other = m.failures.lookup other
  raised : under (.zero false) n.failures kind = under (.zero false) m.failures kind + .ofInt 1
  exact : ∀ count : Nat, count < Binary64.lastWhole →
    under (.zero false) m.failures kind = .ofInt count →
      under (.zero false) n.failures kind = .ofInt (count + 1 : Nat)
  samples : ∀ detailed sample,
    (sample.name,sample.labels) ≠ ("hub_analytics_query_errors_total",[("kind",kind)]) →
      (sample ∈ n.samples detailed ↔ sample ∈ m.samples detailed)

private theorem record_failure_raised (m : Meter) (kind : String) :
    under (.zero false) (m.record (.failure kind)).1.failures kind =
      under (.zero false) m.failures kind + .ofInt 1 := by
  simp [record,under,lookup_put]

theorem record_failure (m : Meter) (kind : String) :
    OneMore kind m (m.record (.failure kind)).1 where
  durations := rfl
  rows := rfl
  points := rfl
  others other different := (lookup_put ..).trans (if_neg (Ne.symm different))
  raised := m.record_failure_raised kind
  exact := by
    intro count bounded shown
    rw [record_failure_raised,shown]
    exact Binary64.ofInt_add (b := 1) bounded
  samples := by
    intro detailed sample different
    have kept : (sample ∈ (m.record (.failure kind)).1.failures.map fun entry : String × Binary64 =>
          (⟨"hub_analytics_query_errors_total",[("kind",entry.1)],entry.2⟩ : Sample)) ↔
        sample ∈ m.failures.map fun entry =>
          (⟨"hub_analytics_query_errors_total",[("kind",entry.1)],entry.2⟩ : Sample) := by
      simp only [List.mem_map]
      constructor
      · rintro ⟨entry,member,rfl⟩
        rcases mem_put member with rfl | inside
        · exact absurd rfl different
        · exact ⟨entry,inside,rfl⟩
      · rintro ⟨entry,member,rfl⟩
        have other : entry.1 ≠ kind := fun same => different (by rw [same])
        exact ⟨entry,mem_put_of_ne member other,rfl⟩
    simp only [samples,List.mem_mergeSort,List.mem_append,kept]
    rfl

end Meter

namespace Service
variable {deadline : Option Quantity} {layer : Layer} {interruption : Interruption} {r : Request}

theorem kind_isReported (check : Check) : check.kind.isReported = true := by
  cases check <;> rfl

private theorem failed_of_kind (check : Check) (message : Text) :
    failed ⟨check.kind,message⟩ =
      ⟨[.counted (.failure check.kind.name),.noted (.refused ⟨check.kind,message⟩)],
        some (.error ⟨check.kind,message⟩)⟩ := by
  rw [failed,if_pos (kind_isReported check)]

/-- A failure of a kind that a check decides on is no failure of the request on its own, nor one
that a timeout of the layer is taken for. -/
private theorem failureOf_kind {deadline : Option Quantity} {f : Failure} {check : Check}
    (own : (failureOf deadline f).kind = check.kind) :
    failureOf deadline f = f ∧ ¬Dispatch.IsOwn f := by
  have kinds : check.kind ≠ .layer none ∧ check.kind ≠ .invalidValue ∧ check.kind ≠ .cancelled ∧
      check.kind ≠ .tooLarge := by
    cases check <;> simp [Check.kind]
  have timely : f.kind ≠ .timeout := by
    intro late
    have same : failureOf deadline f = expiry deadline := by simp only [failureOf,late]
    rw [same] at own
    rcases expiry_kind deadline with layer | unwritable
    · exact kinds.1 (own.symm.trans layer)
    · rw [unwritable] at own
      exact kinds.2.1 own.symm
  have same : failureOf deadline f = f := by
    unfold failureOf
    split
    · rename_i late
      exact absurd late timely
    · rfl
  refine ⟨same,?_⟩
  rw [same] at own
  rintro (rfl | rfl | rfl)
  · exact kinds.2.2.1 own.symm
  · exact timely rfl
  · exact kinds.2.2.2 own.symm

/-- The first check that a request does not pass decides how it fails. No query is sent then, no
request is noted, and the failure is all that is counted. Where the failure cannot be told, for a limit
of too many digits, it is another one and nothing is seen of the request at all. A request that passes
all checks is noted before anything else happens, and fails in one of their ways only if the layer fails
a query so. -/
theorem checks_decide (begins : interruption.leaving ≠ some 0) :
    let course := analytics deadline layer interruption r
    ((∀ check, r.Fulfils check) ∨ ∃ check, r.FailsFirst check) ∧
      (∀ check, r.FailsFirst check → r.Tells check →
        (∃ message, course.result = some (.error ⟨check.kind,message⟩)) ∧
          course.trace.queries = [] ∧
          (∀ entry ∈ course.trace.entries, entry.event ≠ "analytics_request") ∧
          course.trace.measurements = [.failure check.kind.name] ∧
          ∀ m : Meter, m.OneMore check.kind.name (m.recordAll course.trace.measurements)) ∧
      (∀ check, r.FailsFirst check → ¬r.Tells check →
        course.result = some (.error .unwritable) ∧ course.trace = []) ∧
      ((∀ check, r.Fulfils check) →
        (∃ notice rest, course.trace = .noted notice :: rest ∧
          notice.entry.event = "analytics_request") ∧
          ∀ f, course.result = some (.error f) → (∃ check : Check, f.kind = check.kind) →
            ∃ q ∈ course.trace.queries, (layer q).ending = .failure f) := by
  intro course
  refine ⟨r.fulfils_or_failsFirst,?_,?_,?_⟩
  · intro check first tells
    obtain ⟨message,planned⟩ := Request.plan_of_failsFirst first tells
    have same : course = failed ⟨check.kind,message⟩ := by
      simp only [course,analytics,if_neg begins,planned]
    rw [same,failed_of_kind]
    refine ⟨⟨message,rfl⟩,rfl,?_,rfl,fun m => m.record_failure check.kind.name⟩
    intro entry member
    obtain rfl : entry = (Notice.refused ⟨check.kind,message⟩).entry :=
      List.mem_singleton.mp member
    simp [Notice.entry]
  · intro check first untold
    have same : course = failed .unwritable := by
      simp only [course,analytics,if_neg begins,Request.plan_of_untold first untold]
    rw [same]
    exact ⟨rfl,rfl⟩
  · intro fulfils
    obtain ⟨plan,planned⟩ := Request.plan_of_fulfils fulfils
    have same :
        course = execute deadline layer interruption (r.order.getD Query.defaultOrder) plan :=
      analytics_of_plan planned begins
    rw [same]
    refine ⟨⟨notice plan,_,rfl,rfl⟩,?_⟩
    rintro f fails ⟨check,own⟩
    obtain ⟨failure,stopped,rfl⟩ := conclude_result_error fails
    obtain ⟨kept,foreign⟩ := failureOf_kind own
    rw [kept,(execute_trace deadline layer interruption _ plan).1]
    exact ((Dispatch.run_recorded deadline interruption layer plan.queries).outcome_error
      stopped).resolve_left foreign

theorem fulfils_of_trio (scope : r.scope = trio.scope) (window : r.window = trio.window)
    (reads : ∃ nodes, r.Reads nodes) (check : Check) (other : check ≠ .limit) : r.Fulfils check := by
  cases check with
  | selection => exact reads
  | scope =>
    refine ⟨.project,"p",?_⟩
    rw [scope]
    refine ⟨⟨_,rfl,rfl⟩,by decide,fun key different id held => ?_⟩
    cases key with
    | project => exact absurd rfl different
    | _ => cases held
  | window =>
    rw [Request.Fulfils,window]
    exact .inr ⟨rfl,rfl,rfl⟩
  | limit => exact absurd rfl other

/-- A request with a wrong scope, a wrong window and a wrong limit. -/
def faulty : Request :=
  { trio with scope := ⟨none,none,some (.text "")⟩, window := ⟨none,none,none,none⟩, limit := some 0 }

/-- A request with nothing wrong but its limit, which has one digit too many. -/
def vast : Request := { trio with limit := some (-(10 ^ Numeral.digitLimit : Nat)) }

private theorem vast_failsFirst : vast.FailsFirst .limit where
  fails fulfils := by
    have positive := fulfils [] rfl (by decide) _ rfl
    exact absurd positive (Int.not_lt.mpr (Int.neg_nonpos_of_nonneg (Int.natCast_nonneg _)))
  before earlier less := by
    refine fulfils_of_trio (r := vast) rfl rfl ⟨[],rfl⟩ earlier ?_
    rintro rfl
    exact absurd less (by decide)

private theorem vast_untold : ¬vast.Tells .limit := by
  intro tells
  have writable := tells _ rfl
  rw [Numeral.isWritable_iff,Int.natAbs_neg,Int.natAbs_natCast] at writable
  exact Nat.lt_irrefl _ writable

/-- The scope is the first thing that is found wrong, a limit that cannot be told is found wrong without
a trace, and nothing is wrong with the third request. -/
theorem checks_decide_faulty : ∃ message,
    (analytics none unevenLayer .none faulty).result = some (.error ⟨.invalidScope,message⟩) ∧
      (analytics none unevenLayer .none faulty).trace.queries = [] ∧
      (analytics none unevenLayer .none vast).trace = [] ∧
      ∃ notice rest, (analytics none unevenLayer .none trio).trace = .noted notice :: rest ∧
        notice.entry.event = "analytics_request" := by
  have begins : Interruption.none.leaving ≠ some 0 := by decide
  have first : faulty.FailsFirst .scope := by
    constructor
    · rintro ⟨key,text,⟨id,held,rfl⟩,shown,_⟩
      cases key with
      | organization => cases held
      | project => cases held
      | collection =>
        obtain rfl : Identifier.text "" = id := Option.some.inj held
        exact shown rfl
    · intro earlier less
      cases earlier with
      | selection => exact ⟨[],rfl⟩
      | _ => exact absurd less (by decide)
  have fulfils : ∀ check, trio.Fulfils check := by
    intro check
    by_cases last : check = .limit
    · subst last
      intro _ _ _ n given
      cases given
    · exact fulfils_of_trio rfl rfl ⟨[],rfl⟩ check last
  obtain ⟨_,fails,_⟩ := @checks_decide none unevenLayer .none faulty begins
  obtain ⟨_,_,unseen,_⟩ := @checks_decide none unevenLayer .none vast begins
  obtain ⟨_,_,_,passes⟩ := @checks_decide none unevenLayer .none trio begins
  obtain ⟨⟨message,result⟩,queries,_⟩ := fails .scope first trivial
  exact ⟨message,result,queries,(unseen .limit vast_failsFirst vast_untold).2,(passes fulfils).1⟩

/-- A limit is the first thing that is found wrong with a request, and the request does not fail as that
check says, and counts nothing. -/
theorem vast_uncounted : vast.FailsFirst .limit ∧
    (¬∃ message, (analytics none unevenLayer .none vast).result =
      some (.error ⟨Check.limit.kind,message⟩)) ∧
    (analytics none unevenLayer .none vast).trace.measurements = [] := by
  have same : analytics none unevenLayer .none vast = failed .unwritable := by
    rw [analytics,if_neg (by decide),Request.plan_of_untold vast_failsFirst vast_untold]
  rw [same]
  refine ⟨vast_failsFirst,?_,rfl⟩
  rintro ⟨message,claimed⟩
  cases congrArg Failure.kind (Except.error.inj (Option.some.inj claimed))

end Service
end ScopedAnalytics
