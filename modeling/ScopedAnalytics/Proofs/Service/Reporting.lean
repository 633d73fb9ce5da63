import ScopedAnalytics.Proofs.Dispatch.Sequence
import ScopedAnalytics.Proofs.Dispatch.Verdicts
import ScopedAnalytics.Proofs.Service.Checks
import ScopedAnalytics.Proofs.Timeline.Merging

/-! What a service notes of a request, from its beginning to its end, however it is interrupted and
whatever the layer makes of its queries. -/
namespace ScopedAnalytics

namespace Service
variable {deadline : Option Quantity} {layer : Layer} {interruption : Interruption} {r : Request}
  {plan : Plan}

/-- The entry of a request that is found good. It lists the resources in the order of the
selections. -/
def opening (plan : Plan) : Entry :=
  ⟨.info,"hub_analytics.service","analytics_request",[
    ("resources",.strs (plan.selections.map fun s => s.resource.name)),
    ("scope",.str plan.scope.key.name),
    ("scope_id",.str plan.scope.id),
    ("granularity",.str plan.granularity.name)],false⟩

/-- The entry with which a request ends that returns points or fails in a way that is reported to the
caller. A request that is cancelled, that fails in another way or that never ends has none. -/
def closing : Option (Except Failure (List Point)) → List Entry
  | some (.ok points) =>
    [⟨.info,"hub_analytics.service","analytics_request_done",[("datapoints",.int points.length)],false⟩]
  | some (.error f) =>
    if f.kind.isReported then
      [⟨.warning,"hub_analytics.service","analytics_request_failed",
        [("kind",.str f.kind.name),("error",.text f.message)],false⟩]
    else []
  | none => []

/-- The entries that a service makes of a request with a plan: its opening, one for each query that the
layer failed, in the order in which it did, that of the rows left out of a time series, and its
closing. -/
structure IsJournal (layer : Layer) (plan : Plan) (fetches : List Fetch) (course : Course)
    (places : List Nat) (failures merging : List Entry) : Prop where
  reports : course.trace.reports = opening plan :: failures ++ merging ++ closing course.result
  asked : fetches.map Fetch.errand = plan.queries.map fun q => (q,layer q)
  failed : ∀ place, place ∈ places ↔ ∃ f failure, fetches[place]? = some f ∧
    f.stage = .ended (.failed failure) ∧ failure.kind.isLayer = true
  inOrder : places.Pairwise (Dispatch.Sooner (plan.queries.map fun q => (q,layer q)))
  noted : List.Forall₂ (Dispatch.IsReport (plan.queries.map fun q => (q,layer q))) places failures
  merged : ∀ points, course.result = some (.ok points) → ∃ rows,
    List.Forall₂ (fun q rows => (layer q).ending = .answer rows) plan.queries rows ∧
      merging = if ∃ s ∈ plan.selections, s.hasTimestamp = true then
        Timeline.omission (Timeline.undated (plan.selections.zipWith Answered.mk rows)) else []
  unmerged : (∀ points, course.result ≠ some (.ok points)) → merging = []

section Conclusion

private theorem failed_reports (f : Failure) :
    (failed f).trace.reports = closing (failed f).result := by
  simp only [failed,closing]
  split <;> rfl

private theorem mergeTrace_reports (answers : List Answered) :
    (mergeTrace answers).reports = (mergeTrace answers).entries := by
  unfold mergeTrace
  dsimp only
  split <;> rfl

private theorem conclude_reports (deadline : Option Quantity) (order : SortOrder)
    (selections : List Selection) (outcome : Option (Except Failure (List (List Row)))) :
    let course := conclude deadline order selections outcome
    ∃ merging, course.trace.reports = merging ++ closing course.result ∧
      (∀ rows, outcome = some (.ok rows) →
        merging = (mergeTrace (selections.zipWith Answered.mk rows)).entries) ∧
      ((∀ points, course.result ≠ some (.ok points)) → merging = []) := by
  cases outcome with
  | none => exact ⟨[],rfl,nofun,fun _ => rfl⟩
  | some outcome =>
    cases outcome with
    | error f => exact ⟨[],failed_reports _,nofun,fun _ => rfl⟩
    | ok rows =>
      refine ⟨(mergeTrace (selections.zipWith Answered.mk rows)).entries,?_,fun other same => ?_,
        fun failing => absurd rfl (failing _)⟩
      · simp only [conclude,answered,Trace.reports_append]
        exact congrArg (· ++ _) (mergeTrace_reports _)
      · rw [← Except.ok.inj (Option.some.inj same)]

private theorem map_selection_zipWith {selections : List Selection} {rows : List (List Row)}
    (long : selections.length = rows.length) :
    (selections.zipWith Answered.mk rows).map (·.selection) = selections := by
  induction selections generalizing rows with
  | nil => rfl
  | cons s selections ih =>
    cases rows with
    | nil => cases long
    | cons row rows => exact congrArg (s :: ·) (ih (Nat.succ.inj long))

private theorem mergeTrace_of_rows {selections : List Selection} {rows : List (List Row)}
    (long : selections.length = rows.length) (order : SortOrder) :
    (mergeTrace (selections.zipWith Answered.mk rows)).entries =
      if ∃ s ∈ selections, s.hasTimestamp = true then
        Timeline.omission (Timeline.undated (selections.zipWith Answered.mk rows)) else [] := by
  have points := Timeline.points_of_answers (selections.zipWith Answered.mk rows) order
  have asked : (∃ a ∈ selections.zipWith Answered.mk rows, a.selection.hasTimestamp = true) ↔
      ∃ s ∈ selections, s.hasTimestamp = true := by
    conv_rhs => rw [← map_selection_zipWith long]
    simp only [List.mem_map,exists_exists_and_eq_and]
  simp only [asked] at points
  split at points
  · rw [if_pos ‹_›]
    exact points.2
  · rw [if_neg ‹_›]
    exact points.2

end Conclusion

private theorem execute_journal (valid : r.plan = .ok plan) (order : SortOrder) :
    ∃ places failures merging, IsJournal layer plan (dispatch deadline layer interruption plan).fetches
      (execute deadline layer interruption order plan) places failures merging := by
  obtain ⟨places,inOrder,denied,noted,silent⟩ :=
    Dispatch.run_reports deadline interruption layer plan.queries
  obtain ⟨merging,concluded,merged,unmerged⟩ := conclude_reports deadline order plan.selections
    (dispatch deadline layer interruption plan).outcome
  refine ⟨places,(dispatch deadline layer interruption plan).trace.reports,merging,?_⟩
  constructor
  case asked => exact (Dispatch.run_recorded deadline interruption layer plan.queries).errands
  case inOrder => exact inOrder
  case noted => exact noted
  case unmerged => exact unmerged
  case failed =>
    intro place
    rw [denied]
    refine exists_congr fun f => ?_
    rw [Fetch.isDenied_iff,← exists_and_left]
    rfl
  case reports =>
    have opened : Trace.reports [.noted (notice plan)] = [opening plan] := by
      have names : plan.selections.map (fun s => s.resource.name) =
          (plan.selections.map (·.resource)).map Resource.name := by
        rw [List.map_map]
        rfl
      rw [opening,names]
      rfl
    rw [execute]
    dsimp only
    rw [Trace.reports_append,Trace.reports_append,← List.singleton_append,Trace.reports_append,opened,
      concluded]
    have quiet : (dispatch deadline layer interruption plan).aftermath.reports = [] := silent
    rw [quiet,List.append_nil,List.append_assoc]
    simp only [List.append_assoc,List.cons_append,List.nil_append]
  case merged =>
    intro points returned
    obtain ⟨rows,ended,_⟩ := conclude_result_ok returned
    have answers := Dispatch.run_ok deadline interruption (outcome_eq_some.mp ended)
    refine ⟨rows,answers,?_⟩
    have long : plan.selections.length = rows.length := by
      have resources := congrArg List.length (Request.plan_resources valid)
      rw [List.length_map,List.length_map] at resources
      exact resources.symm.trans answers.length_eq
    rw [merged rows ended,mergeTrace_of_rows long order]

/-- The entries that a service makes of a request tell what came of it. A request that is found wrong is
noted as failed, and nothing else is; nothing at all is noted of one with a limit of too many digits to
be told. One that is found good is noted before anything else, and then come the queries that the layer
failed, in the order in which it did, the rows that a time series leaves out, and how the request
ended. -/
theorem reports_tell (begins : interruption.leaving ≠ some 0) :
    let course := analytics deadline layer interruption r
    ((∀ check, r.Fulfils check) ↔ ∃ plan, r.plan = .ok plan) ∧
      (∀ f, r.plan = .error f →
        (f.kind.isReported = true ∨
          f = .unwritable ∧ ∃ n, r.limit = some n ∧ Numeral.isWritable n = false) ∧
        course.result = some (.error f) ∧ course.trace.reports = closing course.result) ∧
      ∀ plan, r.plan = .ok plan → r.selections = .ok plan.selections ∧
        plan.queries.map (·.resource) = plan.selections.map (·.resource) ∧
        ∃ places failures merging, IsJournal layer plan
          (dispatch deadline layer interruption plan).fetches course places failures merging := by
  intro course
  refine ⟨⟨Request.plan_of_fulfils,fun ⟨plan,valid⟩ => ?_⟩,fun f refused => ?_,fun plan valid => ?_⟩
  · refine r.fulfils_or_failsFirst.resolve_right fun ⟨check,first⟩ => ?_
    obtain ⟨_,refused,_⟩ := Request.plan_error first
    cases valid.symm.trans refused
  · have same : course = failed f := by
      simp only [course,analytics,if_neg begins,refused]
    rw [same]
    refine ⟨?_,rfl,failed_reports f⟩
    rcases r.fulfils_or_failsFirst with fulfils | ⟨check,first⟩
    · obtain ⟨plan,valid⟩ := Request.plan_of_fulfils fulfils
      cases valid.symm.trans refused
    · obtain ⟨found,failed,told,untold⟩ := Request.plan_error first
      obtain rfl : found = f := Except.error.inj (failed.symm.trans refused)
      by_cases tells : r.Tells check
      · exact .inl (told tells ▸ kind_isReported check)
      · exact .inr ⟨untold tells,Request.limit_of_untold tells⟩
  · obtain ⟨_,selected,_⟩ := Request.plan_spec valid
    have same : course = execute deadline layer interruption (r.order.getD Query.defaultOrder) plan :=
      analytics_of_plan valid begins
    rw [same]
    exact ⟨selected,Request.plan_resources valid,execute_journal valid _⟩

/-- A layer that fails one query a round later than the next, and leaves the rest without an end. -/
def crossingLayer : Layer := fun query =>
  match query.resource with
  | .mints => ⟨[],1,.failure ⟨.layer none,"late"⟩,[],.zero⟩
  | .customers => .failed ⟨.layer (some 500),"down"⟩
  | _ => ⟨[],0,.silence,[],.zero⟩

/-- The failures of two queries are reported in the order in which they come, which is not that of the
queries, and the request fails with the first. -/
theorem reports_tell_crossing : ∃ plan, trio.plan = .ok plan ∧
    (∃ places failures merging, IsJournal crossingLayer plan
      (dispatch none crossingLayer .none plan).fetches
      (analytics none crossingLayer .none trio) places failures merging) ∧
    (analytics none crossingLayer .none trio).trace.reports = [
      ⟨.info,"hub_analytics.service","analytics_request",
        [("resources",.strs ["mints","customers","wallets"]),("scope",.str "project_id"),
          ("scope_id",.str "p"),("granularity",.str "hour")],false⟩,
      ⟨.error,"hub_analytics.service","cube_query_error",[("resource",.str "customers")],true⟩,
      ⟨.error,"hub_analytics.service","cube_query_error",[("resource",.str "mints")],true⟩,
      ⟨.warning,"hub_analytics.service","analytics_request_failed",
        [("kind",.str "UpstreamError"),("error",.str "down")],false⟩] := by
  have begins : Interruption.none.leaving ≠ some 0 := by decide
  obtain ⟨_,_,found⟩ := @reports_tell none crossingLayer .none trio begins
  exact ⟨_,rfl,(found _ rfl).2.2,rfl⟩

end Service
end ScopedAnalytics
