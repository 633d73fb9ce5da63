import ScopedAnalytics.Proofs.Dispatch.Answers
import ScopedAnalytics.Proofs.Meter.Totals
import ScopedAnalytics.Proofs.Service.Settlement
import ScopedAnalytics.Service.Session

/-! What a request that is found good comes to if every query is answered: the answers put together,
each with the selection that it was asked for. When they come in makes no difference to that, nor to
what is counted. -/
namespace ScopedAnalytics.Service

variable {deadline : Option Quantity} {passing : Option Nat} {layer : Layer} {r : Request}
  {plan : Plan} {answers : Query → List Row} {order : SortOrder}

/-- A layer that answers the queries of a plan, each after some rounds that the deadline leaves. -/
structure Answers (plan : Plan) (answers : Query → List Row) (timer : Timer) (layer : Layer) :
    Prop where
  answered : ∀ q ∈ plan.queries, (layer q).ending = .answer (answers q)
  timely : ∀ q ∈ plan.queries, timer.covers (layer q).rounds = true

def merged (plan : Plan) (answers : Query → List Row) (order : SortOrder) : List Point :=
  Timeline.points (plan.selections.zipWith Answered.mk (plan.queries.map answers)) order

section Lists
variable {α κ β : Type} [DecidableEq κ]

private theorem filterMap_key_length {key : α → κ} (value : α → β) (wanted : κ) {items : List α}
    (distinct : (items.map key).Nodup) :
    (items.filterMap fun a => if key a = wanted then some (value a) else none).length ≤ 1 := by
  induction items with
  | nil => simp
  | cons a items ih =>
    obtain ⟨new,distinct⟩ := List.nodup_cons.mp distinct
    by_cases own : key a = wanted
    · have none : (items.filterMap fun a => if key a = wanted then some (value a) else none) = [] := by
        refine List.filterMap_eq_nil_iff.mpr fun b member => if_neg fun same => ?_
        exact new (own.trans same.symm ▸ List.mem_map_of_mem member)
      simp [own,none]
    · simpa [own] using ih distinct

private theorem eq_of_perm {first second items : List β} (left : first.Perm items)
    (right : second.Perm items) (short : items.length ≤ 1) : first = second := by
  match items with
  | [] => rw [left.eq_nil,right.eq_nil]
  | [a] => rw [List.perm_singleton.mp left,List.perm_singleton.mp right]
  | a :: b :: items => simp at short

end Lists

section Course

private def measured (layer : Layer) (answers : Query → List Row) (q : Query) : Measurement :=
  (Fetch.fresh layer q).measurement (answers q)

theorem answered_measurements (order : SortOrder) (answers : List Answered) :
    (answered order answers).trace.measurements =
      [.points (.whole (Timeline.points answers order).length)] := by
  simp only [answered,mergeTrace]
  split <;> rfl

private theorem execute_of_answers (ahead : Dispatch.isAhead deadline = true)
    (served : Answers plan answers (Dispatch.timerFor passing deadline) layer) (order : SortOrder) :
    (execute deadline layer ⟨none,passing⟩ order plan).result = some (.ok (merged plan answers order)) ∧
      ∃ before after, (execute deadline layer ⟨none,passing⟩ order plan).trace.measurements =
          before ++ .points (.whole (merged plan answers order).length) :: after ∧
        (before ++ after).Perm (plan.queries.map (measured layer answers)) := by
  obtain ⟨stopped,counted⟩ := Dispatch.run_answers ahead served.answered served.timely
  have outcome : (dispatch deadline layer ⟨none,passing⟩ plan).outcome =
      some (.ok (plan.queries.map answers)) := outcome_eq_some.mpr stopped
  have points := answered_measurements order
    (plan.selections.zipWith Answered.mk (plan.queries.map answers))
  rw [Trace.measurements] at points
  constructor
  · simp only [execute,outcome,conclude,answered,merged]
  · refine ⟨(dispatch deadline layer ⟨none,passing⟩ plan).trace.measurements,
      (dispatch deadline layer ⟨none,passing⟩ plan).aftermath.measurements,?_,?_⟩
    · simp only [execute,outcome,conclude,Trace.measurements,List.filterMap_append,points,
        List.filterMap_cons,Event.measurement?,merged,List.append_assoc,List.cons_append,
        List.nil_append]
    · rw [Dispatch.seen,Trace.measurements,List.filterMap_append] at counted
      exact counted

private theorem execute_marks {α : Type} (ahead : Dispatch.isAhead deadline = true)
    (served : Answers plan answers (Dispatch.timerFor passing deadline) layer) (order : SortOrder)
    (mark? : Measurement → Option α) (other : ∀ number, mark? (.points number) = none) :
    ((execute deadline layer ⟨none,passing⟩ order plan).trace.measurements.filterMap mark?).Perm
      (plan.queries.filterMap fun q => mark? (measured layer answers q)) := by
  obtain ⟨_,before,after,same,counted⟩ := execute_of_answers ahead served order
  have marked := counted.filterMap mark?
  rw [List.filterMap_map] at marked
  rw [same,List.filterMap_append,List.filterMap_cons_none (other _),← List.filterMap_append]
  exact marked

private theorem execute_points (ahead : Dispatch.isAhead deadline = true)
    (served : Answers plan answers (Dispatch.timerFor passing deadline) layer) (order : SortOrder) :
    (execute deadline layer ⟨none,passing⟩ order plan).trace.measurements.filterMap
      Measurement.points? = [.whole (merged plan answers order).length] := by
  obtain ⟨_,before,after,same,counted⟩ := execute_of_answers ahead served order
  have none : (before ++ after).filterMap Measurement.points? = [] := by
    have marked := counted.filterMap Measurement.points?
    have unmarked : (plan.queries.map (measured layer answers)).filterMap Measurement.points? = [] := by
      rw [List.filterMap_map]
      exact List.filterMap_eq_nil_iff.mpr fun _ _ => rfl
    rw [unmarked] at marked
    exact marked.eq_nil
  rw [List.filterMap_append,List.append_eq_nil_iff] at none
  rw [same,List.filterMap_append,List.filterMap_cons,none.1,none.2]
  rfl

private theorem names_distinct (valid : r.plan = .ok plan) :
    (plan.queries.map fun q => q.resource.name).Nodup := by
  have injective : Function.Injective Resource.name := by
    intro a b same
    have named := Resource.named?_name a
    rw [same,Resource.named?_name] at named
    exact (Option.some.inj named).symm
  have resources : (plan.queries.map (·.resource)).Nodup := by
    rw [Request.plan_resources valid]
    exact Request.plan_distinct valid
  simpa [Function.comp_def] using resources.map injective

theorem run_isSound (deadline : Option Quantity) (uses : List Use) {session : Session}
    (sound : session.meter.IsSound) : (session.run deadline uses).meter.IsSound := by
  induction uses generalizing session with
  | nil => exact sound
  | cons use uses ih => exact ih (Meter.recordAll_isSound sound _)

/-- What is counted of the answers to the queries of a plan is the same for all layers that give
them. -/
private theorem execute_agree {other : Layer} {passing' : Option Nat} {m : Meter}
    (sound : m.IsSound) (valid : r.plan = .ok plan) (ahead : Dispatch.isAhead deadline = true)
    (served : Answers plan answers (Dispatch.timerFor passing deadline) layer)
    (served' : Answers plan answers (Dispatch.timerFor passing' deadline) other)
    (order : SortOrder) :
    (m.recordAll (execute deadline layer ⟨none,passing⟩ order plan).trace.measurements).Agree
      (m.recordAll (execute deadline other ⟨none,passing'⟩ order plan).trace.measurements) := by
  have distinct := names_distinct valid
  apply Meter.recordAll_agree sound
  case rows =>
    intro label
    have mark (layer : Layer) (q : Query) :
        (measured layer answers q).rowsUnder? label =
          if q.resource.name = label then some (.whole (answers q).length) else none := by
      simp [measured,Fetch.measurement,Fetch.fresh,Measurement.rowsUnder?,Quantity.approximate?]
    have one := execute_marks ahead served order (Measurement.rowsUnder? label) fun _ => rfl
    have two := execute_marks ahead served' order (Measurement.rowsUnder? label) fun _ => rfl
    simp only [mark] at one two
    exact eq_of_perm one two (filterMap_key_length _ label distinct)
  case queries =>
    intro label
    have mark (layer : Layer) (q : Query) :
        (measured layer answers q).queryUnder? label =
          if q.resource.name = label then some true else none := by
      have sortable := (layer q).duration.isSortable
      simp [measured,Fetch.measurement,Fetch.fresh,Measurement.queryUnder?,sortable]
    have one := execute_marks ahead served order (Measurement.queryUnder? label) fun _ => rfl
    have two := execute_marks ahead served' order (Measurement.queryUnder? label) fun _ => rfl
    simp only [mark] at one two
    exact eq_of_perm one two (filterMap_key_length _ label distinct)
  case failures =>
    intro kind
    have none (layer : Layer) : (plan.queries.filterMap fun q =>
        (measured layer answers q).failureOf? kind) = [] :=
      List.filterMap_eq_nil_iff.mpr fun _ _ => rfl
    have one := execute_marks ahead served order (Measurement.failureOf? kind) fun _ => rfl
    have two := execute_marks ahead served' order (Measurement.failureOf? kind) fun _ => rfl
    rw [none] at one two
    rw [one.eq_nil,two.eq_nil]
  case points => rw [execute_points ahead served order,execute_points ahead served' order]

end Course

/-- A request that is found good and all of whose queries are answered comes to the answers put
together, each with the selection at its place, in the direction that all queries ask for. Another
layer with the same answers, whatever the rounds, durations and remarks of either, makes neither the
points nor the queries sent nor what the meter shows any different. -/
theorem analytics_of_answers {other : Layer} {passing' : Option Nat} (valid : r.plan = .ok plan)
    (ahead : Dispatch.isAhead deadline = true)
    (served : Answers plan answers (Dispatch.timerFor passing deadline) layer)
    (served' : Answers plan answers (Dispatch.timerFor passing' deadline) other)
    (uses : List Use) :
    let direction := r.order.getD .descending
    let course := analytics deadline layer ⟨none,passing⟩ r
    let course' := analytics deadline other ⟨none,passing'⟩ r
    let session := Session.start.run deadline uses
    course.result = some (.ok (Timeline.points
        (plan.selections.zipWith Answered.mk (plan.queries.map answers)) direction)) ∧
      plan.queries.map (·.resource) = plan.selections.map (·.resource) ∧
      (∀ q ∈ plan.queries, q.order.2 = direction) ∧
      course.trace.queries = plan.queries ∧
      course'.result = course.result ∧
      course'.trace.queries = course.trace.queries ∧
      (session.after deadline (.ask layer ⟨none,passing⟩ r)).meter.Agree
        (session.after deadline (.ask other ⟨none,passing'⟩ r)).meter := by
  intro direction course course' session
  have begins (passing : Option Nat) : (⟨none,passing⟩ : Interruption).leaving ≠ some 0 := by simp
  have stays (passing : Option Nat) : (⟨none,passing⟩ : Interruption).leaving ≠ some 1 := by simp
  have same : course = execute deadline layer ⟨none,passing⟩ direction plan :=
    analytics_of_plan valid (begins passing)
  have same' : course' = execute deadline other ⟨none,passing'⟩ direction plan :=
    analytics_of_plan valid (begins passing')
  have result := (execute_of_answers ahead served direction).1
  have result' := (execute_of_answers ahead served' direction).1
  have counted : (session.after deadline (.ask layer ⟨none,passing⟩ r)).meter.Agree
      (session.after deadline (.ask other ⟨none,passing'⟩ r)).meter := by
    have sound : session.meter.IsSound := run_isSound deadline uses Meter.empty_isSound
    change (session.meter.recordAll course.trace.measurements).Agree
      (session.meter.recordAll course'.trace.measurements)
    rw [same,same']
    exact execute_agree sound valid ahead served served' direction
  refine ⟨?_,Request.plan_resources valid,Request.plan_order valid,?_,?_,?_,counted⟩
  · rw [same,result,merged]
  · rw [same,execute_queries ahead (stays passing)]
  · rw [same,same',result,result']
  · rw [same,same',execute_queries ahead (stays passing),execute_queries ahead (stays passing')]

/-- A layer that answers the queries for one resource with two rows and later than the others. -/
def tardyLayer (rounds : Nat) : Layer := fun query =>
  match query.resource with
  | .mints => ⟨[],rounds,.answer [.empty,.empty],[],.zero⟩
  | _ => ⟨[],1,.answer [.empty],[],.zero⟩

/-- It makes no difference whether the first of three answers comes first or last. -/
theorem analytics_of_answers_tardy : ∃ plan, trio.plan = .ok plan ∧
    (analytics (some (.whole 5)) (tardyLayer 0) ⟨none,none⟩ trio).trace.queries = plan.queries ∧
    (analytics (some (.whole 5)) (tardyLayer 7) ⟨none,some 12⟩ trio).result =
      (analytics (some (.whole 5)) (tardyLayer 0) ⟨none,none⟩ trio).result ∧
    (Session.start.after (some (.whole 5)) (.ask (tardyLayer 0) ⟨none,none⟩ trio)).meter.Agree
      (Session.start.after (some (.whole 5)) (.ask (tardyLayer 7) ⟨none,some 12⟩ trio)).meter := by
  refine ⟨_,rfl,?_⟩
  have unbounded : Dispatch.timerFor none (some (.whole 5)) = .idle := timerFor_five none
  have bounded : Dispatch.timerFor (some 12) (some (.whole 5)) = .after 12 := timerFor_five (some 12)
  have served (rounds : Nat) (timer : Timer) (within : ∀ n ≤ max rounds 1, timer.covers n = true)
      (plan : Plan) : Answers plan
        (fun q => if q.resource = .mints then [.empty,.empty] else [.empty]) timer
        (tardyLayer rounds) := by
    constructor
    case answered =>
      intro q _
      simp only [tardyLayer]
      cases q.resource <;> rfl
    case timely =>
      intro q _
      apply within
      simp only [tardyLayer]
      cases q.resource <;> dsimp only <;> omega
  have first := served 0 .idle (fun _ _ => rfl)
  have second := served 7 (.after 12) (fun n bound => by simp [Timer.covers]; omega)
  rw [← unbounded] at first
  rw [← bounded] at second
  obtain ⟨_,_,_,sent,result,_,counted⟩ :=
    @analytics_of_answers _ _ _ trio _ _ _ _ rfl isAhead_five (first _) (second _) []
  exact ⟨sent,result,counted⟩

end ScopedAnalytics.Service
