import ScopedAnalytics.Proofs.Dispatch.Traffic
import ScopedAnalytics.Proofs.Meter.Counting
import ScopedAnalytics.Proofs.Service.Answers

/-! What the meter of a service comes to over all its uses. The answers to the queries of each use
are counted whatever becomes of the use, its points and its failure only as it ends with them. -/
namespace ScopedAnalytics

section Tally

def finishedOn (resource : String) (fetches : List Fetch) : List Fetch :=
  fetches.filter fun f => f.isFinished && f.query.resource.name == resource

/-- What queries come to on a counter: the number of answers and the number of their rows. -/
def fetched (fetches : List Fetch) : Counter → Nat
  | .queries resource => (finishedOn resource fetches).length
  | .rows resource => ((finishedOn resource fetches).map fun f => f.rows.length).sum
  | _ => 0

/-- What the end of a request comes to on a counter: the number of its points, or one failure if
that is reported. -/
def concluded (result : Option (Except Failure (List Point))) : Counter → Nat
  | .failures kind =>
    match result with
    | some (.error f) => if f.kind.isReported = true ∧ f.kind.name = kind then 1 else 0
    | _ => 0
  | .points =>
    match result with
    | some (.ok points) => points.length
    | _ => 0
  | _ => 0

theorem counted_raises (fetches : List Fetch) (counter : Counter) :
    Measurement.raisesAll (fetches.filterMap Fetch.counted?) counter = fetched fetches counter := by
  induction fetches with
  | nil => cases counter <;> rfl
  | cons f fetches ih =>
    by_cases finished : f.isFinished = true
    · have counted : f.counted? = some (f.measurement f.rows) := by
        rw [Fetch.counted?,Fetch.stage_of_isFinished finished]
      rw [List.filterMap_cons_some counted]
      simp only [Measurement.raisesAll,List.map_cons,List.sum_cons] at ih ⊢
      rw [ih]
      cases counter with
      | queries resource =>
        by_cases own : f.query.resource.name = resource <;>
          simp [Fetch.measurement,Measurement.raises,fetched,finishedOn,finished,own,Nat.add_comm]
      | rows resource =>
        by_cases own : f.query.resource.name = resource <;>
          simp [Fetch.measurement,Measurement.raises,Measurement.count,fetched,finishedOn,finished,
            own]
      | failures kind => rfl
      | points => rfl
    · have counted : f.counted? = none := by
        unfold Fetch.isFinished at finished
        unfold Fetch.counted?
        split at finished
        · exact absurd rfl finished
        · rfl
      rw [List.filterMap_cons_none counted,ih]
      cases counter <;> simp [fetched,finishedOn,finished]

theorem counted_isWhole {fetches : List Fetch} {x : Measurement}
    (member : x ∈ fetches.filterMap Fetch.counted?) : x.IsWhole := by
  obtain ⟨f,_,counted⟩ := List.mem_filterMap.mp member
  rw [Fetch.eq_measurement_of_counted? counted]
  exact ⟨f.reply.duration.isSortable,f.rows.length,rfl⟩

end Tally

theorem Meter.recordAll_isOfQuery (m : Meter) {measurements : List Measurement}
    (own : ∀ x ∈ measurements, x.isOfQuery = true) :
    (m.recordAll measurements).failures = m.failures ∧
      (m.recordAll measurements).points = m.points := by
  induction measurements generalizing m with
  | nil => exact ⟨rfl,rfl⟩
  | cons x measurements ih =>
    obtain ⟨failures,points⟩ :=
      ih (m.record x).1 fun y member => own y (List.mem_cons_of_mem _ member)
    cases x with
    | query resource duration rows =>
      obtain ⟨failures',points'⟩ := m.record_query_others resource duration rows
      exact ⟨failures.trans failures',points.trans points'⟩
    | failure kind => cases own _ List.mem_cons_self
    | points number => cases own _ List.mem_cons_self

namespace Service
variable {deadline : Option Quantity} {layer : Layer} {interruption : Interruption} {r : Request}

section Conclusion
variable {result : Option (Except Failure (List Point))}

def lastMeasured : Option (Except Failure (List Point)) → List Measurement
  | some (.ok points) => [.points (.whole points.length)]
  | some (.error f) => if f.kind.isReported then [.failure f.kind.name] else []
  | none => []

/-- An end with neither points nor a failure that is reported, or none. -/
def Silent : Option (Except Failure (List Point)) → Prop
  | some (.ok _) => False
  | some (.error f) => f.kind.isReported = false
  | none => True

theorem lastMeasured_raises (result : Option (Except Failure (List Point))) (counter : Counter) :
    Measurement.raisesAll (lastMeasured result) counter = concluded result counter := by
  rcases result with _ | f | points
  · cases counter <;> rfl
  · cases reported : f.kind.isReported <;> cases counter <;>
      simp [lastMeasured,Measurement.raisesAll,Measurement.raises,concluded,reported]
  · cases counter <;> rfl

theorem lastMeasured_isWhole {x : Measurement} (member : x ∈ lastMeasured result) : x.IsWhole := by
  rcases result with _ | f | points
  · cases member
  · rw [lastMeasured] at member
    split at member
    · rw [List.mem_singleton.mp member]
      trivial
    · cases member
  · rw [List.mem_singleton.mp member]
    exact ⟨_,rfl⟩

theorem lastMeasured_of_silent (silent : Silent result) : lastMeasured result = [] := by
  rcases result with _ | f | points
  · rfl
  · have unreported : f.kind.isReported = false := silent
    rw [lastMeasured,unreported]
    rfl
  · exact silent.elim

theorem failed_measurements (f : Failure) :
    (failed f).trace.measurements = lastMeasured (failed f).result := by
  simp only [failed,lastMeasured]
  cases f.kind.isReported <;> rfl

theorem conclude_measurements (deadline : Option Quantity) (order : SortOrder)
    (selections : List Selection) (outcome : Option (Except Failure (List (List Row)))) :
    (conclude deadline order selections outcome).trace.measurements =
      lastMeasured (conclude deadline order selections outcome).result := by
  rcases outcome with _ | failure | rows
  · rfl
  · exact failed_measurements _
  · exact answered_measurements order _

end Conclusion

section Course

theorem execute_measurements (deadline : Option Quantity) (layer : Layer)
    (interruption : Interruption) (order : SortOrder) (plan : Plan) :
    (execute deadline layer interruption order plan).trace.measurements.Perm
      ((dispatch deadline layer interruption plan).fetches.filterMap Fetch.counted? ++
        lastMeasured (execute deadline layer interruption order plan).result) := by
  have counted := (Dispatch.run_recorded deadline interruption layer plan.queries).counted
  refine List.Perm.trans ?_ (counted.append_right _)
  have ending := conclude_measurements deadline order plan.selections
    (dispatch deadline layer interruption plan).outcome
  simp only [execute,← ending,Dispatch.seen,Trace.measurements,List.filterMap_append,
    List.filterMap_cons,List.cons_append,Event.measurement?,List.append_assoc]
  exact List.Perm.append_left _ List.perm_append_comm

end Course

namespace Use

/-- The queries of a use as they are when nothing is left to happen. -/
def fetches (deadline : Option Quantity) : Use → List Fetch
  | .close => []
  | .ask layer interruption r =>
    if interruption.leaving = some 0 then []
    else
      match r.plan with
      | .error _ => []
      | .ok plan => (dispatch deadline layer interruption plan).fetches

def account (deadline : Option Quantity) (use : Use) (counter : Counter) : Nat :=
  fetched (use.fetches deadline) counter + concluded (Session.course deadline use).result counter

example : (ask (tardyLayer 3) .none trio).account none (.rows "mints") = 2 := by decide

end Use

section Uses
variable {use : Use}

/-- What is measured of a request are the answers to its queries and its end, in some order. -/
theorem analytics_measurements (deadline : Option Quantity) (layer : Layer)
    (interruption : Interruption) (r : Request) :
    (analytics deadline layer interruption r).trace.measurements.Perm
      (((Use.ask layer interruption r).fetches deadline).filterMap Fetch.counted? ++
        lastMeasured (analytics deadline layer interruption r).result) := by
  simp only [Use.fetches,analytics]
  by_cases leaves : interruption.leaving = some 0
  · simp only [if_pos leaves]
    exact .refl _
  · simp only [if_neg leaves]
    cases r.plan with
    | error f => exact .of_eq (failed_measurements f)
    | ok plan => exact execute_measurements deadline layer interruption _ plan

theorem course_raises (deadline : Option Quantity) (use : Use) (counter : Counter) :
    Measurement.raisesAll (Session.course deadline use).trace.measurements counter =
      use.account deadline counter := by
  cases use with
  | close => cases counter <;> rfl
  | ask layer interruption r =>
    have measured := analytics_measurements deadline layer interruption r
    rw [Session.course,Measurement.raisesAll_perm measured,Measurement.raisesAll_append,
      counted_raises,lastMeasured_raises]
    rfl

theorem course_isWhole (deadline : Option Quantity) (use : Use) :
    ∀ x ∈ (Session.course deadline use).trace.measurements, x.IsWhole := by
  cases use with
  | close => exact nofun
  | ask layer interruption r =>
    intro x member
    have measured := analytics_measurements deadline layer interruption r
    rcases List.mem_append.mp (measured.mem_iff.mp member) with answer | ending
    · exact counted_isWhole answer
    · exact lastMeasured_isWhole ending

private theorem course_isOfQuery (silent : Silent (Session.course deadline use).result) :
    ∀ x ∈ (Session.course deadline use).trace.measurements, x.isOfQuery = true := by
  cases use with
  | close => exact nofun
  | ask layer interruption r =>
    intro x member
    have nothing := lastMeasured_of_silent silent
    rw [Session.course] at member nothing
    have counted := (analytics_measurements deadline layer interruption r).mem_iff.mp member
    rw [nothing,List.append_nil] at counted
    obtain ⟨f,_,marked⟩ := List.mem_filterMap.mp counted
    rw [Fetch.eq_measurement_of_counted? marked]
    rfl

/-- A use that ends neither with points nor with a failure that is reported leaves the counts of
failures and points as they are. -/
theorem after_of_silent (session : Session)
    (silent : Silent (Session.course deadline use).result) :
    (session.after deadline use).meter.failures = session.meter.failures ∧
      (session.after deadline use).meter.points = session.meter.points :=
  session.meter.recordAll_isOfQuery (course_isOfQuery silent)

section Run
variable {session : Session} {total : Counter → Nat}

theorem after_shows (shows : session.meter.Shows total) (sound : session.meter.IsSound)
    (deadline : Option Quantity) (use : Use) :
    (session.after deadline use).meter.Shows fun counter =>
      total counter + use.account deadline counter := by
  have added := shows.recordAll sound (course_isWhole deadline use)
  simp only [course_raises] at added
  exact added

theorem run_shows (shows : session.meter.Shows total) (sound : session.meter.IsSound)
    (deadline : Option Quantity) (uses : List Use) :
    (session.run deadline uses).meter.Shows fun counter =>
      total counter + (uses.map fun use => use.account deadline counter).sum := by
  induction uses generalizing session total with
  | nil => exact shows
  | cons use uses ih =>
    have rest := ih (after_shows shows sound deadline use) (Meter.recordAll_isSound sound _)
    simp only [List.map_cons,List.sum_cons,← Nat.add_assoc]
    exact rest

end Run

theorem run_meter (deadline : Option Quantity) (uses : List Use) (session : Session) :
    (session.run deadline uses).meter = session.meter.recordAll
      (uses.flatMap fun use => (Session.course deadline use).trace.measurements) := by
  induction uses generalizing session with
  | nil => rfl
  | cons use uses ih =>
    rw [List.flatMap_cons,Meter.recordAll,List.foldl_append]
    exact ih (session.after deadline use)

private theorem uses_raise (deadline : Option Quantity) (uses : List Use) (counter : Counter) :
    Measurement.raisesAll
        (uses.flatMap fun use => (Session.course deadline use).trace.measurements) counter =
      (uses.map fun use => use.account deadline counter).sum := by
  induction uses with
  | nil => rfl
  | cons use uses ih =>
    rw [List.flatMap_cons,Measurement.raisesAll_append,course_raises,ih]
    rfl

private theorem fetches_answered {f : Fetch}
    (member : f ∈ (Use.ask layer interruption r).fetches deadline) (finished : f.isFinished = true) :
    (layer f.query).ending = .answer f.rows := by
  simp only [Use.fetches] at member
  split at member
  · cases member
  · split at member
    · cases member
    · rename_i plan _
      have recorded := Dispatch.run_recorded deadline interruption layer plan.queries
      have agrees := recorded.agrees f member
      rw [Fetch.Agrees,Fetch.stage_of_isFinished finished] at agrees
      rw [← (recorded.reply_eq member).2]
      exact agrees

/-- What a service counts over all its uses. Each counter shows what the uses come to on it, as far
as a floating-point number holds that: the answered queries and their rows by resource, the reported
failures by kind, and the points. Nothing else is measured, an answered query is one that the layer
answered with these rows, and a use that ends with anything else than points or a reported failure
counts neither. -/
theorem run_accounts (deadline : Option Quantity) (uses : List Use) :
    let session := Session.start.run deadline uses
    let measurements := uses.flatMap fun use => (Session.course deadline use).trace.measurements
    let total := fun counter => (uses.map fun use => use.account deadline counter).sum
    session.meter.Shows total ∧
      session.meter = Meter.empty.recordAll measurements ∧
      (∀ counter, Measurement.raisesAll measurements counter = total counter) ∧
      (∀ layer interruption r, ∀ f ∈ (Use.ask layer interruption r).fetches deadline,
        f.isFinished = true → (layer f.query).ending = .answer f.rows) ∧
      ∀ use, Silent (Session.course deadline use).result →
        (session.after deadline use).meter.failures = session.meter.failures ∧
          (session.after deadline use).meter.points = session.meter.points := by
  intro session measurements total
  refine ⟨?_,?_,?_,?_,fun use => after_of_silent session⟩
  · have shows : Session.start.meter.Shows fun _ => 0 := Meter.empty_shows
    simpa only [Nat.zero_add] using run_shows shows Meter.empty_isSound deadline uses
  · exact run_meter deadline uses Session.start
  · exact fun counter => uses_raise deadline uses counter
  · exact fun layer interruption r f member finished => fetches_answered member finished

end Uses

end Service
end ScopedAnalytics
