import ScopedAnalytics.Program
import ScopedAnalytics.Proofs.Client.Endings
import ScopedAnalytics.Proofs.Dispatch.Signals
import ScopedAnalytics.Proofs.Dispatch.Verdicts
import ScopedAnalytics.Proofs.Service.Settlement

/-! What the request of a command line comes to, by what the layer makes of its queries: points only of
an answer to each, a failure if one is left with a failure or a signal, and a cancellation only if one
is left with a signal. -/
namespace ScopedAnalytics.Program

section Planning
variable {o : Options}

private theorem measures_other (o : Options) : FailsAs Failure.IsOther (measures o) := by
  refine .mapM fun measure _ => ?_
  cases measure with
  | value measure => exact .ok _
  | void => exact .error (by simp [lacking,Failure.IsOther])

private theorem scope_other (o : Options) : FailsAs Failure.IsOther (scope o) :=
  .mapError fun fault => by simp [Failure.IsOther]

private theorem window_other {given : Window.Given} :
    FailsAs Failure.IsOther ((Window.resolve given).mapError windowFailure) :=
  .mapError fun fault => by simp [windowFailure,Failure.IsOther]

/-- Whether a span cannot be found, or has no range, for a cancellation. -/
private def SpanOther (found : Except Failure Span) : Prop :=
  FailsAs Failure.IsOther found ∧ ∀ span, found = .ok span → FailsAs Failure.IsOther span.range

private theorem SpanOther.error {failure : Failure} (other : failure.IsOther) :
    SpanOther (.error failure) :=
  ⟨.error other,fun span impossible => by cases impossible⟩

private theorem SpanOther.ok {span : Span} (range : FailsAs Failure.IsOther span.range) :
    SpanOther (.ok span) := by
  refine ⟨.ok _,?_⟩
  rintro _ ⟨⟩
  exact range

private theorem SpanOther.ofWindow (given : Window.Given) :
    SpanOther (do
      let window ← (Window.resolve given).mapError windowFailure
      return ⟨window.granularity,.ok window.range⟩) := by
  refine ⟨window_other.bind fun _ _ => .ok _,?_⟩
  intro span found
  obtain ⟨window,_,found⟩ := except_bind_ok found
  obtain rfl := Except.ok.inj found
  exact .ok _

private theorem spanBetween_other (granularity : Option Granularity) (start finish : Given Date) :
    SpanOther (spanBetween granularity start finish) := by
  unfold spanBetween
  split
  · exact .ofWindow _
  · exact .error (by simp [incomparable,Failure.IsOther])
  · exact .error (by simp [incomparable,Failure.IsOther])
  · exact .ok (.error (by simp [lacking,Failure.IsOther]))

private theorem spanOf_other (granularity : Option Granularity) (interval : Given Interval) :
    SpanOther (spanOf granularity interval) := by
  unfold spanOf
  split
  · exact .ofWindow _
  · exact .ok (.error (by simp [noDates,Failure.invalidValue,Failure.IsOther]))
  · exact .error (by simp [lacking,Failure.IsOther])

private theorem span_other (o : Options) : SpanOther (span o) := by
  unfold span
  dsimp only
  split
  · exact .error (by simp [windowFailure,Failure.IsOther])
  · exact spanBetween_other _ _ _
  · exact spanOf_other _ _
  · exact .error (by simp [windowFailure,Failure.IsOther])
  · exact .error (by simp [windowFailure,Failure.IsOther])

private theorem limitFault_other (fault : LimitFault) : fault.failure.IsOther := by
  rcases fault.failure_kind with kind | kind <;> simp [Failure.IsOther,kind]

private theorem limit_other (o : Options) : FailsAs Failure.IsOther (limit o) := by
  unfold limit
  split
  · exact .ok _
  · exact .error (by simp [incomparable,Failure.IsOther])
  · exact .map _ (.mapError limitFault_other)

private theorem query_other {scope : Scope} {span : Span} {selection : Selection}
    (range : FailsAs Failure.IsOther span.range) :
    FailsAs Failure.IsOther (query o scope span selection) :=
  (limit_other o).bind fun _ _ => range.bind fun _ _ => .mapError limitFault_other

theorem plan_other (c : CommandLine) : FailsAs Failure.IsOther (plan c) := by
  have read : FailsAs Failure.IsOther ((Selections.readNodes c.selection).mapError fun fault =>
      (⟨.invalidRequest,fault.message⟩ : Failure)) :=
    .mapError fun fault => by simp [Failure.IsOther]
  refine read.bind fun nodes _ => (measures_other _).bind fun _ _ => (scope_other _).bind
    fun _ _ => (span_other _).1.bind fun span found => ?_
  exact (FailsAs.mapM fun _ _ => query_other ((span_other _).2 span found)).bind fun _ _ => .ok _

end Planning

section Requests
variable {deadline : Option (Given Binary64)} {layer : Layer} {c : CommandLine} {failure : Failure}

def direction (c : CommandLine) : SortOrder := c.options.order.value?.getD Query.defaultOrder

def pointsOf (c : CommandLine) (plan : Plan) (answers : List (List Row)) : List Point :=
  Timeline.points (plan.selections.zipWith Answered.mk answers) (direction c)

private theorem course_cases (deadline : Option (Given Binary64)) (layer : Layer)
    (c : CommandLine) :
    (∃ failure, failure.IsOther ∧ (course deadline layer c).trace.queries = [] ∧
      (course deadline layer c).result = some (.error failure)) ∨
    ∃ plan limit, Program.plan c = .ok plan ∧
      course deadline layer c = Service.execute limit layer .none (direction c) plan := by
  cases planned : plan c with
  | error failure =>
    have same : course deadline layer c = Service.failed failure := by simp only [course,planned]
    exact .inl ⟨failure,plan_other c failure planned,same ▸ Service.failed_queries failure,
      same ▸ rfl⟩
  | ok plan =>
    rw [course,planned]
    simp only [execute]
    split
    · split
      · exact .inr ⟨plan,none,rfl,rfl⟩
      · exact .inl ⟨_,by simp [incomparable,Failure.IsOther],rfl,rfl⟩
    · exact .inr ⟨plan,_,rfl,rfl⟩
    · exact .inr ⟨plan,none,rfl,rfl⟩

/-- A request is answered only with the points of an answer to each of its queries. -/
theorem course_points {points : List Point}
    (answered : (course deadline layer c).result = some (.ok points)) :
    ∃ plan answers, Program.plan c = .ok plan ∧
      List.Forall₂ (fun q rows => (layer q).ending = .answer rows) plan.queries answers ∧
      points = pointsOf c plan answers := by
  rcases course_cases deadline layer c with ⟨failure,_,_,failed⟩ | ⟨plan,limit,planned,same⟩
  · cases failed.symm.trans answered
  · rw [same] at answered
    obtain ⟨answers,ended,rfl⟩ := Service.conclude_result_ok answered
    exact ⟨plan,answers,planned,
      Dispatch.run_ok limit .none (Service.outcome_eq_some.mp ended),rfl⟩

private theorem failureOf_cancelled {limit : Option Quantity}
    (cancelled : (Service.failureOf limit failure).kind = .cancelled) :
    failure.kind = .cancelled := by
  unfold Service.failureOf at cancelled
  split at cancelled
  · rcases Service.expiry_kind limit with kind | same
    · cases kind.symm.trans cancelled
    · rw [same] at cancelled
      cases cancelled
  · exact cancelled

/-- A request is cancelled only if the layer left a query that reached it with a signal. -/
theorem course_cancelled
    (others : ∀ q failure, (layer q).ending = .failure failure → failure.IsOther)
    (failed : (course deadline layer c).result = some (.error failure))
    (cancelled : failure.kind = .cancelled) :
    ∃ q ∈ (course deadline layer c).trace.queries, (layer q).ending = .signal := by
  rcases course_cases deadline layer c with ⟨own,other,_,ended⟩ | ⟨plan,limit,_,same⟩
  · obtain rfl : own = failure := Except.error.inj (Option.some.inj (ended.symm.trans failed))
    exact absurd cancelled other
  · rw [same] at failed ⊢
    obtain ⟨f,ended,rfl⟩ := Service.conclude_result_error failed
    rw [(Service.execute_trace limit layer .none (direction c) plan).1]
    exact Dispatch.signal_of_cancelled (fun q _ failure => others q failure) limit none
      (failureOf_cancelled cancelled) (Service.outcome_eq_some.mp ended)

/-- A request fails if the layer left a query that reached it with a failure or a signal. -/
theorem course_fails {q : Query} (sent : q ∈ (course deadline layer c).trace.queries)
    (unanswered : ∀ rows, (layer q).ending ≠ .answer rows) (spoken : (layer q).ending ≠ .silence) :
    ∃ failure, (course deadline layer c).result = some (.error failure) := by
  rcases course_cases deadline layer c with ⟨_,_,unsent,_⟩ | ⟨plan,limit,_,same⟩
  · rw [unsent] at sent
    cases sent
  · rw [same] at sent ⊢
    rw [(Service.execute_trace limit layer .none (direction c) plan).1] at sent
    obtain ⟨f,ended⟩ := Dispatch.run_error limit (by simp [Interruption.none]) sent unanswered spoken
    refine ⟨Service.failureOf limit f,?_⟩
    have outcome : (Service.dispatch limit layer .none plan).outcome = some (.error f) :=
      Service.outcome_eq_some.mpr ended
    simp only [Service.execute,outcome]
    rfl

end Requests

end ScopedAnalytics.Program
