import ScopedAnalytics.Proofs.Dispatch.Expiry
import ScopedAnalytics.Proofs.Service.Accounting

/-! Requests whose deadline passes. One that has passed already keeps all queries back. One that
passes while some queries are left without an end has these given up, and the request fails as late
with the answers of the others counted. Without queries there is nothing to be late with. -/
namespace ScopedAnalytics.Service
open Dispatch

variable {deadline : Option Quantity} {passing : Option Nat} {layer : Layer} {r : Request}
  {plan : Plan} {seconds : Quantity} {sent lost : List Query} {answers : List (Query × List Row)}

section Account

/-- What is measured of a request that fails as late: the answers that there are, and its failure. -/
def lateMeasured (layer : Layer) (answers : List (Query × List Row)) : List Measurement :=
  (answers.map fun entry => (Fetch.fresh layer entry.1).measurement entry.2) ++
    [.failure "UpstreamError"]

/-- What a request that fails as late comes to on a counter. -/
def lateAccount (answers : List (Query × List Row)) : Counter → Nat
  | .queries resource => (answers.filter fun entry => entry.1.resource.name == resource).length
  | .rows resource => ((answers.filter fun entry => entry.1.resource.name == resource).map
      fun entry => entry.2.length).sum
  | .failures kind => if kind = "UpstreamError" then 1 else 0
  | .points => 0

private theorem lateMeasured_raises (layer : Layer) (answers : List (Query × List Row))
    (counter : Counter) :
    Measurement.raisesAll (lateMeasured layer answers) counter = lateAccount answers counter := by
  induction answers with
  | nil =>
    cases counter with
    | failures kind =>
      simp [lateMeasured,Measurement.raisesAll,Measurement.raises,lateAccount,eq_comm]
    | _ => rfl
  | cons entry answers ih =>
    have first : Measurement.raisesAll (lateMeasured layer (entry :: answers)) counter =
        ((Fetch.fresh layer entry.1).measurement entry.2).raises counter +
          Measurement.raisesAll (lateMeasured layer answers) counter := rfl
    rw [first,ih]
    cases counter with
    | queries resource =>
      by_cases own : entry.1.resource.name = resource <;>
        simp [Fetch.measurement,Fetch.fresh,Measurement.raises,lateAccount,own,Nat.add_comm]
    | rows resource =>
      by_cases own : entry.1.resource.name = resource <;>
        simp [Fetch.measurement,Fetch.fresh,Measurement.raises,Measurement.count,lateAccount,own]
    | failures kind => simp [Fetch.measurement,Measurement.raises,lateAccount]
    | points => rfl

end Account

section Course

/-- The course of a request that fails as late, after it sent some queries. It gives up those that
it lost, each once, and counts what the answers and the failure come to. -/
structure FailsLate (deadline : Option Quantity) (passing : Option Nat) (layer : Layer) (r : Request)
    (sent lost : List Query) (answers : List (Query × List Row)) : Prop where
  result : (analytics deadline layer ⟨none,passing⟩ r).result = some (.error (expiry deadline))
  queries : (analytics deadline layer ⟨none,passing⟩ r).trace.queries = sent
  givenUp : (analytics deadline layer ⟨none,passing⟩ r).trace.givenUp.Perm (lost.map (·.resource))
  measured : (analytics deadline layer ⟨none,passing⟩ r).trace.measurements.Perm
    (lateMeasured layer answers)

private theorem failsLate_of_dispatch (valid : r.plan = .ok plan)
    (told : (expiry deadline).kind = .layer none)
    (stopped : (dispatch deadline layer ⟨none,passing⟩ plan).waiting = .stopped (.error lateness))
    (queries : (dispatch deadline layer ⟨none,passing⟩ plan).seen.queries = sent)
    (givenUp : (dispatch deadline layer ⟨none,passing⟩ plan).seen.givenUp.Perm
      (lost.map (·.resource)))
    (counted : (dispatch deadline layer ⟨none,passing⟩ plan).seen.measurements.Perm
      (answers.map fun entry => (Fetch.fresh layer entry.1).measurement entry.2)) :
    FailsLate deadline passing layer r sent lost answers := by
  have course : analytics deadline layer ⟨none,passing⟩ r =
      execute deadline layer ⟨none,passing⟩ (r.order.getD Query.defaultOrder) plan :=
    analytics_of_plan valid (by simp)
  obtain ⟨queries',_,givenUp'⟩ :=
    execute_trace deadline layer ⟨none,passing⟩ (r.order.getD Query.defaultOrder) plan
  have result : (execute deadline layer ⟨none,passing⟩ (r.order.getD Query.defaultOrder) plan).result =
      some (.error (expiry deadline)) := by
    rw [execute,outcome_eq_some.mpr stopped]
    rfl
  constructor
  case result => rw [course,result]
  case queries => rw [course,queries',queries]
  case givenUp => rwa [course,givenUp']
  case measured =>
    have recorded := run_recorded deadline ⟨none,passing⟩ layer plan.queries
    have measured :=
      execute_measurements deadline layer ⟨none,passing⟩ (r.order.getD Query.defaultOrder) plan
    have last : lastMeasured (some (.error (expiry deadline))) = [.failure "UpstreamError"] := by
      simp [lastMeasured,told,Failure.Kind.isReported,Failure.Kind.name]
    rw [result,last] at measured
    rw [course]
    exact measured.trans ((recorded.counted.symm.trans counted).append_right _)

theorem FailsLate.account (late : FailsLate deadline passing layer r sent lost answers)
    (counter : Counter) :
    (Use.ask layer ⟨none,passing⟩ r).account deadline counter = lateAccount answers counter := by
  rw [← course_raises,Session.course,Measurement.raisesAll_perm late.measured,lateMeasured_raises]

private theorem dispatch_of_spent (spent : seconds.isSpent = true) :
    (dispatch (some seconds) layer ⟨none,passing⟩ plan).seen = [] :=
  run_late_unseen (by simp [isAhead,spent]) _

private theorem failsLate_of_spent (valid : r.plan = .ok plan) (spent : seconds.isSpent = true)
    (told : (expiry (some seconds)).kind = .layer none) (filled : plan.queries ≠ []) :
    FailsLate (some seconds) passing layer r [] [] [] := by
  refine failsLate_of_dispatch valid told (run_spent spent filled) ?_ ?_ ?_
  · rw [dispatch_of_spent spent]
    rfl
  · rw [dispatch_of_spent spent]
    exact .refl _
  · rw [dispatch_of_spent spent]
    exact .refl _

/-- A deadline that has passed and cannot be told has the request fail for that, with nothing
counted. -/
private theorem analytics_of_untold (valid : r.plan = .ok plan) (spent : seconds.isSpent = true)
    (untold : ¬seconds.IsTold) (filled : plan.queries ≠ []) :
    let course := analytics (some seconds) layer ⟨none,passing⟩ r
    course.result = some (.error .unwritable) ∧ course.trace.queries = [] ∧
      course.trace.givenUp = [] ∧ course.trace.measurements = [] := by
  have stopped : (dispatch (some seconds) layer ⟨none,passing⟩ plan).waiting =
      .stopped (.error lateness) := run_spent spent filled
  have result : (execute (some seconds) layer ⟨none,passing⟩
      (r.order.getD Query.defaultOrder) plan).result = some (.error .unwritable) := by
    rw [execute,outcome_eq_some.mpr stopped,← expiry_of_not_isTold untold]
    rfl
  have unseen : (dispatch (some seconds) layer ⟨none,passing⟩ plan).seen = [] :=
    dispatch_of_spent spent
  obtain ⟨queries,_,givenUp⟩ :=
    execute_trace (some seconds) layer ⟨none,passing⟩ (r.order.getD Query.defaultOrder) plan
  have counted : (dispatch (some seconds) layer ⟨none,passing⟩ plan).seen.measurements.Perm _ :=
    (run_recorded (some seconds) ⟨none,passing⟩ layer plan.queries).counted
  have measured :=
    execute_measurements (some seconds) layer ⟨none,passing⟩ (r.order.getD Query.defaultOrder) plan
  rw [result] at measured
  rw [unseen] at counted
  intro course
  have same : course = execute (some seconds) layer ⟨none,passing⟩ _ plan :=
    analytics_of_plan valid (by simp)
  rw [same,result,queries,givenUp,unseen]
  exact ⟨rfl,rfl,rfl,(measured.trans (counted.symm.append_right _)).eq_nil⟩

private theorem failsLate_of_served (valid : r.plan = .ok plan) (ahead : isAhead deadline = true)
    (served : Served (timerFor passing deadline) layer plan.queries)
    (silent : ∃ q ∈ plan.queries, (layer q).ending = .silence)
    (armed : timerFor passing deadline ≠ .off) :
    FailsLate deadline passing layer r plan.queries (endlessOf layer plan.queries)
      (answersOf layer plan.queries) := by
  obtain ⟨stopped,givenUp,counted⟩ := run_expired ahead served silent armed
  refine failsLate_of_dispatch valid (expiry_of_ahead ahead) stopped ?_ givenUp counted
  have asked := @execute_queries deadline layer ⟨none,passing⟩ plan ahead (by simp)
    (r.order.getD Query.defaultOrder)
  rwa [(execute_trace deadline layer ⟨none,passing⟩ _ plan).1] at asked

/-- A deadline without bounds is none, and one that cannot be kept has the request fail at once. -/
private theorem analytics_of_unkept (valid : r.plan = .ok plan) (unspent : seconds.isSpent = false)
    (silent : ∃ q ∈ plan.queries, (layer q).ending = .silence) :
    (∀ negative, seconds.approximate? = some (.infinite negative) → Served .off layer plan.queries →
      (analytics (some seconds) layer ⟨none,passing⟩ r).result = none) ∧
    (seconds.approximate? = none →
      (analytics (some seconds) layer ⟨none,passing⟩ r).result = some (.error overlong) ∧
        (analytics (some seconds) layer ⟨none,passing⟩ r).trace.queries = []) := by
  have course : analytics (some seconds) layer ⟨none,passing⟩ r =
      execute (some seconds) layer ⟨none,passing⟩ (r.order.getD Query.defaultOrder) plan :=
    analytics_of_plan valid (by simp)
  constructor
  · intro negative kept served
    have ahead : isAhead (some seconds) = true := by simp [isAhead,unspent,kept]
    have unarmed : timerFor passing (some seconds) = .off := by simp [timerFor,kept,timerOf]
    have waits : (dispatch (some seconds) layer ⟨none,passing⟩ plan).isOver = false :=
      run_endless ahead (unarmed ▸ served) silent unarmed
    have endless : (dispatch (some seconds) layer ⟨none,passing⟩ plan).outcome = none := by
      cases ended : (dispatch (some seconds) layer ⟨none,passing⟩ plan).outcome with
      | none => rfl
      | some outcome => simp [isOver_iff.mpr ⟨outcome,ended⟩] at waits
    rw [course,execute,endless]
    rfl
  · intro overlarge
    have filled : plan.queries ≠ [] := by
      rintro void
      obtain ⟨q,asked,_⟩ := silent
      simp [void] at asked
    have stopped : (dispatch (some seconds) layer ⟨none,passing⟩ plan).waiting =
        .stopped (.error overlong) := run_overlong unspent overlarge filled
    have unseen : (dispatch (some seconds) layer ⟨none,passing⟩ plan).seen = [] :=
      run_late_unseen (by simp [isAhead,overlarge]) _
    rw [course]
    constructor
    · rw [execute,outcome_eq_some.mpr stopped]
      rfl
    · rw [(execute_trace _ _ _ _ _).1,unseen]
      rfl

/-- A request without queries succeeds however it is interrupted once it has begun. -/
theorem analytics_of_void {interruption : Interruption} (begins : interruption.leaving ≠ some 0)
    (valid : r.plan = .ok plan) (void : plan.queries = []) :
    (analytics deadline layer interruption r).result =
      some (.ok (Timeline.points [] (r.order.getD Query.defaultOrder))) := by
  have stopped : (dispatch deadline layer interruption plan).waiting = .stopped (.ok []) := by
    rw [dispatch,void]
    exact run_of_start rfl
  rw [analytics_of_plan valid begins,execute,outcome_eq_some.mpr stopped]
  simp [conclude,answered]

private theorem analytics_of_nothing (valid : r.plan = .ok plan) (void : plan.queries = []) :
    (analytics deadline layer ⟨none,passing⟩ r).result =
      some (.ok (Timeline.points [] (r.order.getD Query.defaultOrder))) :=
  analytics_of_void (by simp) valid void

end Course

/-- What the timeout of a request that is found good does. One of zero or less keeps all queries back
and has the request fail as late, or fail uncounted if it is an integer of too many digits to be told.
One that passes has it fail as late if some queries are left without an end and all others are answered
before: it gives up exactly those queries, each once, and counts the answers to the others, one failure
and no points. One without bounds never passes, and one that is too large to be kept has the request
fail at once. Without selections no timeout has it fail. -/
theorem timeouts_decide (valid : r.plan = .ok plan) (uses : List Use) (seconds : Quantity)
    (passing : Option Nat) :
    let deadline := some seconds
    let total := fun counter => (uses.map fun use => use.account deadline counter).sum
    let session := Session.start.run deadline uses
    let after := session.after deadline (.ask layer ⟨none,passing⟩ r)
    session.meter.Shows total ∧
      (seconds.IsTold → (expiry deadline).kind = .layer none) ∧
      (seconds.IsTold ↔ ∀ n, seconds = .whole n → n.natAbs < 10 ^ Numeral.digitLimit) ∧
      (seconds.isSpent = true → plan.selections ≠ [] →
        (seconds.IsTold → FailsLate deadline passing layer r [] [] [] ∧
          after.meter.Shows fun counter => total counter + lateAccount [] counter) ∧
        (¬seconds.IsTold → let course := analytics deadline layer ⟨none,passing⟩ r
          course.result = some (.error .unwritable) ∧ course.trace.queries = [] ∧
            course.trace.givenUp = [] ∧ course.trace.measurements = [])) ∧
      (∀ x, seconds.isSpent = false → seconds.approximate? = some x → x.isFinite = true →
        Served (timerOf passing x) layer plan.queries →
        (∃ q ∈ plan.queries, (layer q).ending = .silence) →
        FailsLate deadline passing layer r plan.queries (endlessOf layer plan.queries)
            (answersOf layer plan.queries) ∧
          after.meter.Shows fun counter =>
            total counter + lateAccount (answersOf layer plan.queries) counter) ∧
      (seconds.isSpent = false → (∃ q ∈ plan.queries, (layer q).ending = .silence) →
        (∀ negative, seconds.approximate? = some (.infinite negative) →
          Served .off layer plan.queries →
          (analytics deadline layer ⟨none,passing⟩ r).result = none) ∧
        (seconds.approximate? = none →
          (analytics deadline layer ⟨none,passing⟩ r).result = some (.error overlong) ∧
            (analytics deadline layer ⟨none,passing⟩ r).trace.queries = [])) ∧
      (plan.selections = [] → ∀ deadline, ∃ points,
        (analytics deadline layer ⟨none,passing⟩ r).result = some (.ok points)) := by
  intro deadline total session after
  have resources := Request.plan_resources valid
  have shows : session.meter.Shows total := by
    have shows : Session.start.meter.Shows fun _ => 0 := Meter.empty_shows
    simpa only [Nat.zero_add] using run_shows shows Meter.empty_isSound deadline uses
  have shown {sent lost : List Query} {answers : List (Query × List Row)}
      (late : FailsLate deadline passing layer r sent lost answers) :
      after.meter.Shows fun counter => total counter + lateAccount answers counter := by
    have added := after_shows shows (run_isSound deadline uses Meter.empty_isSound) deadline
      (.ask layer ⟨none,passing⟩ r)
    simpa only [late.account] using added
  have kind (told : seconds.IsTold) : (expiry deadline).kind = .layer none := by
    refine expiry_of_isTold fun other same => ?_
    rwa [← Option.some.inj same]
  refine ⟨shows,kind,Quantity.isTold_iff,fun spent some => ?_,
    fun x unspent kept finite served silent => ?_,
    fun unspent silent => analytics_of_unkept valid unspent silent,fun void deadline => ?_⟩
  · have filled : plan.queries ≠ [] := by
      intro void
      rw [void,List.map_nil,eq_comm,List.map_eq_nil_iff] at resources
      exact some resources
    refine ⟨fun told => ?_,fun untold => analytics_of_untold valid spent untold filled⟩
    have late : FailsLate deadline passing layer r [] [] [] :=
      failsLate_of_spent valid spent (kind told) filled
    exact ⟨late,shown late⟩
  · have timer : timerFor passing deadline = timerOf passing x := by simp [timerFor,deadline,kept]
    have ahead : isAhead deadline = true := by simp [isAhead,deadline,unspent,kept]
    have armed : timerFor passing deadline ≠ .off := by
      rw [timer,timerOf_of_isFinite finite]
      cases passing <;> simp
    have late := failsLate_of_served valid ahead (timer ▸ served) silent armed
    exact ⟨late,shown late⟩
  · have none : plan.queries = [] := by
      rw [void,List.map_nil,List.map_eq_nil_iff] at resources
      exact resources
    exact ⟨_,analytics_of_nothing valid none⟩

/-- A layer that answers the queries for one resource and leaves the others without an end. -/
def laggingLayer : Layer := fun query =>
  match query.resource with
  | .mints => ⟨[],1,.answer [.empty,.empty],[],.zero⟩
  | _ => ⟨[],0,.silence,[],.zero⟩

def idle : Request := { trio with measures := [] }

/-- A timeout below zero with one digit too many. -/
def longPast : Quantity := .whole (-(10 ^ Numeral.digitLimit : Nat))

/-- Of three queries one is answered before the deadline passes, and none is sent if it has passed. -/
theorem timeouts_decide_lagging : ∃ plan, trio.plan = .ok plan ∧
    FailsLate (some (.whole 0)) none laggingLayer trio [] [] [] ∧
    (analytics (some longPast) laggingLayer ⟨none,none⟩ trio).result = some (.error .unwritable) ∧
    FailsLate (some (.whole 5)) (some 3) laggingLayer trio plan.queries
      (endlessOf laggingLayer plan.queries) (answersOf laggingLayer plan.queries) ∧
    (endlessOf laggingLayer plan.queries).map (·.resource) = [.customers,.wallets] ∧
    (Session.start.after (some (.whole 5)) (.ask laggingLayer ⟨none,some 3⟩ trio)).meter.Shows
      (fun counter => 0 + lateAccount (answersOf laggingLayer plan.queries) counter) ∧
    lateAccount (answersOf laggingLayer plan.queries) (.rows "mints") = 2 ∧
    (analytics (some (.real (.infinite false))) laggingLayer ⟨none,some 3⟩ trio).result = none ∧
    ∃ points, (analytics (some (.whole 0)) laggingLayer ⟨none,none⟩ idle).result =
      some (.ok points) := by
  obtain ⟨plan,valid,some,lost,answered⟩ : ∃ plan, trio.plan = .ok plan ∧ plan.selections ≠ [] ∧
      (endlessOf laggingLayer plan.queries).map (·.resource) = [.customers,.wallets] ∧
      lateAccount (answersOf laggingLayer plan.queries) (.rows "mints") = 2 :=
    ⟨_,rfl,by decide,by decide,by decide⟩
  have silent : ∃ q ∈ plan.queries, (laggingLayer q).ending = .silence := by
    obtain ⟨q,_,same,_⟩ := List.map_eq_cons_iff.mp lost
    exact ⟨q,mem_endlessOf.mp (same ▸ List.mem_cons_self)⟩
  have served (timer : Timer) (covers : timer.covers 1 = true) :
      Served timer laggingLayer plan.queries := by
    intro q _
    unfold laggingLayer
    split
    · exact .inr ⟨⟨_,rfl⟩,covers⟩
    · exact .inl rfl
  obtain ⟨_,_,_,spent,_⟩ := @timeouts_decide laggingLayer trio _ valid [] (.whole 0) none
  obtain ⟨_,_,told,past,_⟩ := @timeouts_decide laggingLayer trio _ valid [] longPast none
  obtain ⟨_,_,_,_,passes,_⟩ := @timeouts_decide laggingLayer trio _ valid [] (.whole 5) (Option.some 3)
  obtain ⟨_,_,_,_,_,unkept,_⟩ :=
    @timeouts_decide laggingLayer trio _ valid [] (.real (.infinite false)) (Option.some 3)
  obtain ⟨_,_,_,_,_,_,nothing⟩ :=
    @timeouts_decide laggingLayer idle _ rfl [] (.whole 0) none
  have untold : ¬longPast.IsTold := by
    intro short
    have few := told.mp short _ rfl
    rw [Int.natAbs_neg,Int.natAbs_natCast] at few
    exact absurd few (Nat.lt_irrefl _)
  have timely : (timerOf (Option.some 3) (.ofInt 5)).covers 1 = true := by
    rw [timerOf_of_isFinite isFinite_five]
    rfl
  obtain ⟨late,shows⟩ := passes (.ofInt 5) (by decide) approximate_five isFinite_five
    (served _ timely) silent
  exact ⟨plan,valid,((spent (by decide) some).1 rfl).1,
    ((past (by decide +kernel) some).2 untold).1,late,lost,shows,answered,
    (unkept (by decide) silent).1 false rfl (served _ rfl),nothing rfl _⟩

def silentLayer : Layer := fun _ => ⟨[],0,.silence,[],.zero⟩

def solo : Request := { trio with measures := [⟨.mints,.count⟩] }

/-- A positive timeout that is too large for a floating-point number does not pass: the request fails
at once, and not as late, without sending the query that would never end. -/
theorem timeouts_overlong : ∃ plan, solo.plan = .ok plan ∧
    plan.queries.map (·.resource) = [.mints] ∧
    (∀ q ∈ plan.queries, (silentLayer q).ending = .silence) ∧
    (Quantity.whole (10 ^ 400)).isSpent = false ∧
    (analytics (some (.whole (10 ^ 400))) silentLayer .none solo).result =
      some (.error ⟨.tooLarge,"int too large to convert to float"⟩) ∧
    (analytics (some (.whole (10 ^ 400))) silentLayer .none solo).trace.queries = [] ∧
    (analytics (some (.whole (10 ^ 400))) silentLayer .none solo).trace.givenUp = [] := by
  obtain ⟨plan,valid,resources⟩ : ∃ plan, solo.plan = .ok plan ∧
      plan.queries.map (·.resource) = [.mints] := ⟨_,rfl,rfl⟩
  have silent : ∃ q ∈ plan.queries, (silentLayer q).ending = .silence := by
    obtain ⟨q,_,same,_⟩ := List.map_eq_cons_iff.mp resources
    exact ⟨q,same ▸ List.mem_cons_self,rfl⟩
  exact ⟨plan,valid,resources,fun _ _ => rfl,by decide,
    ((analytics_of_unkept valid (by decide +kernel) silent).2 (by decide +kernel)).1,
    by decide +kernel,by decide +kernel⟩

end ScopedAnalytics.Service
