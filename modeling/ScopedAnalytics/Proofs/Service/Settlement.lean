import ScopedAnalytics.Proofs.Dispatch.Outcome
import ScopedAnalytics.Proofs.Service.Planning

/-! What becomes of the queries of a request that is found good, however it ends. -/
namespace ScopedAnalytics

/-- Whether a measurement is one of a query, not of the whole request. -/
def Measurement.isOfQuery : Measurement → Bool
  | .query .. => true
  | _ => false

namespace Service

variable {deadline : Option Quantity} {layer : Layer} {interruption : Interruption} {r : Request}
  {plan : Plan}

theorem analytics_of_plan (valid : r.plan = .ok plan) (begins : interruption.leaving ≠ some 0) :
    analytics deadline layer interruption r =
      execute deadline layer interruption (r.order.getD Query.defaultOrder) plan := by
  rw [analytics,if_neg begins,valid]

theorem outcome_eq_some {d : Dispatch} {outcome : Except Failure (List (List Row))} :
    d.outcome = some outcome ↔ d.waiting = .stopped outcome := by
  unfold Dispatch.outcome
  cases d.waiting <;> simp

theorem isOver_iff {d : Dispatch} : d.isOver = true ↔ ∃ outcome, d.outcome = some outcome := by
  simp only [outcome_eq_some,Dispatch.isOver_iff]

section Lateness
variable {seconds : Quantity}

theorem expiry_of_isTold (told : ∀ seconds, deadline = some seconds → seconds.IsTold) :
    (expiry deadline).kind = .layer none := by
  cases deadline with
  | none => rfl
  | some seconds =>
    obtain ⟨text,held⟩ := Option.isSome_iff_exists.mp (told seconds rfl)
    rw [expiry,Option.elim_some,held]

theorem expiry_of_ahead (ahead : Dispatch.isAhead deadline = true) :
    (expiry deadline).kind = .layer none := by
  refine expiry_of_isTold fun seconds given => ?_
  rw [given,Dispatch.isAhead,Bool.and_eq_true] at ahead
  obtain ⟨x,kept⟩ := Option.isSome_iff_exists.mp ahead.2
  exact Quantity.isTold_of_approximate? kept

theorem expiry_of_not_isTold (untold : ¬seconds.IsTold) : expiry (some seconds) = .unwritable := by
  rw [expiry,Option.elim_some,Option.not_isSome_iff_eq_none.mp untold]

theorem expiry_kind (deadline : Option Quantity) :
    (expiry deadline).kind = .layer none ∨ expiry deadline = .unwritable := by
  unfold expiry
  split
  · exact .inl rfl
  · exact .inr rfl

end Lateness

section Conclusion
variable {order : SortOrder} {selections : List Selection}
  {outcome : Option (Except Failure (List (List Row)))}

theorem failed_queries (f : Failure) : (failed f).trace.queries = [] := by
  unfold failed
  dsimp only
  split <;> rfl

theorem conclude_trace (deadline : Option Quantity) (order : SortOrder)
    (selections : List Selection) (outcome : Option (Except Failure (List (List Row)))) :
    (conclude deadline order selections outcome).trace.queries = [] ∧
      (conclude deadline order selections outcome).trace.measurements.filter
        Measurement.isOfQuery = [] ∧
      (conclude deadline order selections outcome).trace.givenUp = [] := by
  cases outcome with
  | none => exact ⟨rfl,rfl,rfl⟩
  | some outcome =>
    cases outcome with
    | error f =>
      simp only [conclude,failed]
      split <;> exact ⟨rfl,rfl,rfl⟩
    | ok rows =>
      simp only [conclude,answered,mergeTrace]
      split <;> exact ⟨rfl,rfl,rfl⟩

theorem conclude_result_ne_none
    (ended : (conclude deadline order selections outcome).result ≠ none) : outcome.isSome = true := by
  cases outcome with
  | none => exact absurd rfl ended
  | some outcome => rfl

theorem conclude_ne_none {d : Dispatch} {outcome : Except Failure (List (List Row))}
    (ended : d.outcome = some outcome) :
    (conclude deadline order selections d.outcome).result ≠ none := by
  rw [ended]
  cases outcome <;> exact Option.some_ne_none _

theorem conclude_result_ok {points : List Point}
    (answers : (conclude deadline order selections outcome).result = some (.ok points)) :
    ∃ rows, outcome = some (.ok rows) ∧
      points = Timeline.points (selections.zipWith Answered.mk rows) order := by
  cases outcome with
  | none => cases answers
  | some outcome =>
    cases outcome with
    | error f => cases answers
    | ok rows =>
      simp only [conclude,answered,Option.some.injEq,Except.ok.injEq] at answers
      exact ⟨rows,rfl,answers.symm⟩

theorem conclude_result_error {failure : Failure}
    (fails : (conclude deadline order selections outcome).result = some (.error failure)) :
    ∃ f, outcome = some (.error f) ∧ failure = failureOf deadline f := by
  cases outcome with
  | none => cases fails
  | some outcome =>
    cases outcome with
    | ok rows => cases fails
    | error f => exact ⟨f,rfl,(Except.error.inj (Option.some.inj fails)).symm⟩

end Conclusion

/-- What is seen of the queries in the course of a request is what is seen of them as they are on
their way. -/
theorem execute_trace (deadline : Option Quantity) (layer : Layer) (interruption : Interruption)
    (order : SortOrder) (plan : Plan) :
    (execute deadline layer interruption order plan).trace.queries =
        (dispatch deadline layer interruption plan).seen.queries ∧
      (execute deadline layer interruption order plan).trace.measurements.filter
        Measurement.isOfQuery =
        (dispatch deadline layer interruption plan).seen.measurements.filter
          Measurement.isOfQuery ∧
      (execute deadline layer interruption order plan).trace.givenUp =
        (dispatch deadline layer interruption plan).seen.givenUp := by
  obtain ⟨queries,measurements,givenUp⟩ := conclude_trace deadline order plan.selections
    (dispatch deadline layer interruption plan).outcome
  simp only [Trace.queries,Trace.measurements,Trace.givenUp] at queries measurements givenUp
  simp only [execute,Dispatch.seen,Trace.queries,Trace.measurements,Trace.givenUp,
    List.filterMap_append,List.filter_append,List.filterMap_cons,List.cons_append,Event.query?,
    Event.measurement?,Event.givenUp?,queries,measurements,givenUp,List.append_nil,and_self]

private theorem counted_isOfQuery (fetches : List Fetch) :
    (fetches.filterMap Fetch.counted?).filter Measurement.isOfQuery =
      fetches.filterMap Fetch.counted? := by
  rw [List.filter_eq_self]
  intro measurement member
  obtain ⟨f,_,marked⟩ := List.mem_filterMap.mp member
  rw [Fetch.eq_measurement_of_counted? marked]
  rfl

theorem execute_queries (ahead : Dispatch.isAhead deadline = true)
    (stays : interruption.leaving ≠ some 1) (order : SortOrder) :
    (execute deadline layer interruption order plan).trace.queries = plan.queries := by
  obtain ⟨steady,_⟩ := Dispatch.run_steady layer plan.queries ahead stays
  have asked := congrArg (List.map Prod.fst) steady.errands
  simp only [List.map_map,Function.comp_def,Fetch.errand,List.map_id'] at asked
  rw [(execute_trace deadline layer interruption order plan).1]
  exact steady.underway.sent.queries.trans asked

/-- Every query of a request that is found good, one for each selection, reaches the layer once and
in order, whatever comes of the others. Each answer is counted once and each query that is given up
is seen to be. Once the request has ended and nothing is left to happen, every query has ended as its
reply says or is given up, one that the layer leaves without an end is given up, and the request
succeeds only if all have their answers. A request that never ends waits for a query that has no
end. -/
theorem queries_settle (valid : r.plan = .ok plan) (ahead : Dispatch.isAhead deadline = true)
    (begins : interruption.leaving ≠ some 0) (stays : interruption.leaving ≠ some 1) :
    let course := analytics deadline layer interruption r
    let d := dispatch deadline layer interruption plan
    plan.queries.map (·.resource) = plan.selections.map (·.resource) ∧
      course.trace.queries = plan.queries ∧
      d.fetches.map Fetch.errand = plan.queries.map (fun q => (q,layer q)) ∧
      d.isQuiet = true ∧
      (course.trace.measurements.filter Measurement.isOfQuery).Perm
        (d.fetches.filterMap Fetch.counted?) ∧
      course.trace.givenUp.Perm (d.fetches.filterMap Fetch.givenUp?) ∧
      (course.result ≠ none → ∀ f ∈ d.fetches, f.Settled ∧
        (f.reply.ending = .silence → f.stage = .ended .givenUp)) ∧
      (course.result = none →
        ∃ f ∈ d.fetches, f.reply.ending = .silence ∨ f.reply.ending = .signal) ∧
      ∀ points, course.result = some (.ok points) → ∀ f ∈ d.fetches, f.isFinished = true := by
  intro course d
  obtain ⟨steady,quiet⟩ := Dispatch.run_steady layer plan.queries ahead stays
  have same : course = execute deadline layer interruption _ plan := analytics_of_plan valid begins
  obtain ⟨_,measurements,givenUp⟩ :=
    execute_trace deadline layer interruption (r.order.getD Query.defaultOrder) plan
  rw [same,execute_queries ahead stays,measurements,givenUp]
  refine ⟨Request.plan_resources valid,rfl,steady.errands,quiet,?_,steady.givenUp,?_,?_,?_⟩
  · have counted := steady.counted.filter Measurement.isOfQuery
    rwa [counted_isOfQuery] at counted
  · intro ended f member
    obtain ⟨outcome,stopped⟩ := Option.isSome_iff_exists.mp (conclude_result_ne_none ended)
    have winding : d.isWinding = true := by
      rw [Dispatch.isWinding,outcome_eq_some.mp stopped]
    have done := steady.wound.isEnded winding steady.attended quiet f member
    have settled := Fetch.settled (steady.agrees f member) (steady.underway.sent.all f member) done
    exact ⟨settled,fun silence => settled.givenUp (.inl silence)⟩
  · intro endless
    rcases steady.lively.isOver_or_resting steady.attended quiet with stopped | ⟨f,member,resting⟩
    · obtain ⟨outcome,ended⟩ := isOver_iff.mp stopped
      exact absurd endless (conclude_ne_none ended)
    · exact ⟨f,member,Fetch.endless_of_isResting (steady.agrees f member) resting⟩
  · intro points answers f member
    obtain ⟨rows,stopped,_⟩ := conclude_result_ok answers
    exact (steady.informed.stopped rows (outcome_eq_some.mp stopped)).1 f member

def trio : Request where
  selection := .inr []
  measures := [⟨.mints,.count⟩,⟨.customers,.count⟩,⟨.wallets,.count⟩]
  scope := ⟨none,some (.text "p"),none⟩
  window := ⟨some .today,none,none,none⟩
  order := none
  limit := none

theorem approximate_five : (Quantity.whole 5).approximate? = some (.ofInt 5) := by decide +kernel

theorem isAhead_five : Dispatch.isAhead (some (.whole 5)) = true := by
  rw [Dispatch.isAhead,approximate_five]
  decide

theorem isFinite_five : (Binary64.ofInt 5).isFinite = true := by decide +kernel

theorem timerFor_five (passing : Option Nat) :
    Dispatch.timerFor passing (some (.whole 5)) = passing.elim .idle .after :=
  Dispatch.timerFor_of_isFinite approximate_five isFinite_five passing

/-- A layer that answers one query after a while, fails another at once and leaves the rest without
an end. -/
def unevenLayer : Layer := fun query =>
  match query.resource with
  | .mints => ⟨[],9,.answer [.empty],[],.zero⟩
  | .customers => .failed ⟨.layer (some 500),"down"⟩
  | _ => ⟨[],0,.silence,[],.zero⟩

/-- The failure of one query ends the request, and those of the others that wait are given up. -/
theorem queries_settle_uneven : ∃ plan, trio.plan = .ok plan ∧ plan.queries.length = 3 ∧
    (analytics (some (.whole 5)) unevenLayer .none trio).trace.queries = plan.queries ∧
    (analytics (some (.whole 5)) unevenLayer .none trio).trace.givenUp.Perm
      ((dispatch (some (.whole 5)) unevenLayer .none plan).fetches.filterMap Fetch.givenUp?) ∧
    (analytics (some (.whole 5)) unevenLayer .none trio).trace.givenUp = [.mints,.wallets] ∧
    ∀ f ∈ (dispatch (some (.whole 5)) unevenLayer .none plan).fetches, f.Settled := by
  refine ⟨_,rfl,rfl,?_⟩
  have begins : Interruption.none.leaving ≠ some 0 := by decide
  have stays : Interruption.none.leaving ≠ some 1 := by decide
  obtain ⟨_,queries,_,_,_,givenUp,settled,_⟩ :=
    @queries_settle _ unevenLayer _ trio _ rfl isAhead_five begins stays
  exact ⟨queries,givenUp,by decide +kernel,fun f member => (settled (by decide +kernel) f member).1⟩

end Service
end ScopedAnalytics
