import Mathlib.Data.List.Perm.Subperm
import ScopedAnalytics.Proofs.Dispatch.Outcome

/-! What holds of every run of a dispatch, however it begins and is interrupted. What is seen of the
queries is what they have come to, and a failure that ends the waiting is one of the request itself
or that of a query which reached the layer. -/
namespace ScopedAnalytics

/-- Whether a job is the leaving of the caller or a turn before it. -/
def Job.isDeparture : Job → Bool
  | leave | caller _ => true
  | _ => false

namespace Dispatch

variable {d : Dispatch} {errands : List (Query × Reply (List Row))} {failure : Failure}

section Blame

def HasFailed (d : Dispatch) (failure : Failure) : Prop :=
  ∃ f ∈ d.fetches, f.stage = .ended (.failed failure)

/-- Whether a failure is one that a request comes to without its queries. -/
def IsOwn (failure : Failure) : Prop :=
  failure = .cancellation ∨ failure = lateness ∨ failure = overlong

/-- No failure is gathered or ends the waiting that is not one of the request or of a query. -/
structure Blamed (d : Dispatch) : Prop where
  gathered : ∀ failure, d.gathered = some (.error failure) → IsOwn failure ∨ d.HasFailed failure
  stopped : ∀ failure, d.waiting = .stopped (.error failure) → IsOwn failure ∨ d.HasFailed failure

theorem HasFailed.perform (failed : d.HasFailed failure) (job : Job) :
    (d.perform job).HasFailed failure := by
  refine perform_exists (fun f ended => ?_) (fun _ ended => ended)
    (fun f ended => f.cut_stage.trans ended) job failed
  rw [Fetch.turn_of_ended (by simp [Fetch.isEnded,ended])]
  exact ended

theorem news?_error {fetches : List Fetch} {f : Fetch}
    (news : news? fetches f = some (.error failure)) :
    f.stage = .ended (.failed failure) ∨
      failure = .cancellation ∧ (f.stage = .ended .givenUp ∨ f.stage = .ended .dropped) := by
  cases stage : f.stage with
  | unsent => simp [news?,stage] at news
  | waiting rounds => simp [news?,stage] at news
  | stalled => simp [news?,stage] at news
  | ended fate =>
    cases fate with
    | finished rows => simp [news?,stage] at news
    | failed other =>
      obtain rfl : other = failure := by simpa [news?,stage] using news
      exact .inl rfl
    | givenUp => exact .inr ⟨by simpa [news?,stage] using news.symm,.inl rfl⟩
    | dropped => exact .inr ⟨by simpa [news?,stage] using news.symm,.inr rfl⟩

/-- A request that fails at its turn has the failure gathered or comes to it without its queries. -/
private theorem resume_over_error (stopped : d.resume.waiting = .stopped (.error failure)) :
    d.waiting = .stopped (.error failure) ∨ IsOwn failure ∨
      d.gathered = some (.error failure) := by
  rcases resume_cases d with ⟨_,same⟩ | ⟨_,⟨_,same⟩ | ⟨_,same⟩⟩ | ⟨outcome,same,_,ending⟩
  · exact .inl (same ▸ stopped)
  · rw [same] at stopped
    cases stopped
  · rw [same] at stopped
    cases stopped
  · rw [same] at stopped
    rcases ending failure (Waiting.stopped.inj stopped) with ⟨rfl,_⟩ | ⟨rfl,_⟩ | ⟨gathered,_⟩
    · exact .inr (.inl (.inl rfl))
    · exact .inr (.inl (.inr (.inl rfl)))
    · exact .inr (.inr gathered)

theorem Blamed.perform (blamed : Blamed d) (job : Job) : Blamed (d.perform job) where
  gathered := by
    intro failure gathered
    have old (before : d.gathered = some (.error failure)) :
        IsOwn failure ∨ (d.perform job).HasFailed failure :=
      (blamed.gathered failure before).imp_right fun failed => failed.perform job
    by_cases own : ∃ told, job = .news told
    · obtain ⟨told,rfl⟩ := own
      rw [Dispatch.perform] at gathered ⊢
      cases found : d.fetches[told]? with
      | none =>
        rw [learn_absent found] at gathered ⊢
        exact blamed.gathered failure gathered
      | some f =>
        rw [learn_gathered found] at gathered
        rcases Option.or_eq_some_iff.mp gathered with before | ⟨_,news⟩
        · exact old before
        · rcases news?_error news with stage | ⟨cancelled,_⟩
          · have failed : d.HasFailed failure := ⟨f,List.mem_of_getElem? found,stage⟩
            exact .inr (failed.perform (.news told))
          · exact .inl (.inl cancelled)
    · rw [perform_gathered d fun told same => own ⟨told,same⟩] at gathered
      exact old gathered
  stopped := by
    intro failure stopped
    by_cases own : job = .request
    · subst own
      rcases resume_over_error stopped with before | isOwn | gathered
      · exact (blamed.stopped failure before).imp_right fun failed => failed.perform .request
      · exact .inl isOwn
      · exact (blamed.gathered failure gathered).imp_right fun failed => failed.perform .request
    · rw [perform_waiting d own] at stopped
      exact (blamed.stopped failure stopped).imp_right fun failed => failed.perform job

theorem Blamed.opened (blamed : Blamed d) : Blamed { d.opened with queue := [] } where
  gathered := by
    simpa only [HasFailed,opened_fetches,opened_gathered] using blamed.gathered
  stopped := by
    simpa only [HasFailed,opened_fetches,opened_waiting] using blamed.stopped

end Blame

section Record

/-- What holds of a dispatch from its beginning on. -/
structure Recorded (errands : List (Query × Reply (List Row))) (d : Dispatch) : Prop where
  errands : d.fetches.map Fetch.errand = errands
  agrees : ∀ f ∈ d.fetches, f.Agrees
  sent : d.seen.queries.Perm (d.fetches.filterMap Fetch.sent?)
  counted : d.seen.measurements.Perm (d.fetches.filterMap Fetch.counted?)
  blamed : Blamed d

theorem Recorded.perform (recorded : Recorded errands d) (job : Job) :
    Recorded errands (d.perform job) where
  errands := (perform_errands d job).trans recorded.errands
  agrees := perform_agrees job recorded.agrees
  sent := perform_record (fun f => f.turn_passage.queries) (fun _ => rfl)
    (fun f => by simp [Fetch.sent?,Fetch.cut_isSent]) job recorded.sent
  counted := perform_counted job recorded.counted
  blamed := recorded.blamed.perform job

theorem Recorded.opened (recorded : Recorded errands d) :
    Recorded errands { d.opened with queue := [] } where
  errands := by simpa only [opened_fetches] using recorded.errands
  agrees := by simpa only [opened_fetches] using recorded.agrees
  sent := by
    rw [opened_seen]
    simpa only [opened_fetches] using recorded.sent
  counted := by
    rw [opened_seen]
    simpa only [opened_fetches] using recorded.counted
  blamed := recorded.blamed.opened

private theorem Recorded.of_unsent (errands' : d.fetches.map Fetch.errand = errands)
    (unsent : ∀ f ∈ d.fetches, f.stage = .unsent) (unseen : d.seen = []) (fresh : d.gathered = none)
    (stopped : ∀ failure, d.waiting = .stopped (.error failure) → IsOwn failure) :
    Recorded errands d where
  errands := errands'
  agrees f member := by simp [Fetch.Agrees,unsent f member]
  sent := by
    have none : d.fetches.filterMap Fetch.sent? = [] :=
      filterMap_eq_nil fun f member => by simp [Fetch.sent?,Fetch.isSent,unsent f member]
    rw [unseen,none]
    exact .refl _
  counted := by
    have none : d.fetches.filterMap Fetch.counted? = [] :=
      filterMap_eq_nil fun f member => by simp [Fetch.counted?,unsent f member]
    rw [unseen,none]
    exact .refl _
  blamed := ⟨by simp [fresh],fun failure same => .inl (stopped failure same)⟩

theorem start_unsent (deadline : Option Quantity) (passing : Option Nat) (layer : Layer)
    (queries : List Query) :
    let d := start deadline passing (fresh layer queries)
    d.fetches.map Fetch.errand = queries.map (fun q => (q,layer q)) ∧
      (∀ f ∈ d.fetches, f.stage = .unsent) ∧ d.trace = [] ∧ d.aftermath = [] ∧ d.gathered = none := by
  have errands := fresh_errands layer queries
  have unsent : ∀ f ∈ fresh layer queries, f.stage = .unsent :=
    fun f member => (mem_fresh member).1
  have cutErrands : ((fresh layer queries).map Fetch.cut).map Fetch.errand =
      queries.map fun q => (q,layer q) := by
    rw [← errands,List.map_map]
    exact List.map_congr_left fun f _ => by simp [Fetch.errand]
  have cutUnsent : ∀ f ∈ (fresh layer queries).map Fetch.cut, f.stage = .unsent := by
    intro g member
    obtain ⟨f,inside,rfl⟩ := List.mem_map.mp member
    exact f.cut_stage.trans (unsent f inside)
  dsimp only
  rcases start_cases deadline passing (fresh layer queries) with
    ⟨void,same⟩ | ⟨_,same⟩ | ⟨_,same | same⟩
  · rw [same]
    exact ⟨by rw [← errands,void]; rfl,by simp [ready],rfl,rfl,rfl⟩
  · rw [same]
    exact ⟨errands,unsent,rfl,rfl,rfl⟩
  · rw [same]
    exact ⟨cutErrands,cutUnsent,rfl,rfl,rfl⟩
  · rw [same]
    exact ⟨cutErrands,cutUnsent,rfl,rfl,rfl⟩

private theorem start_recorded (deadline : Option Quantity) (passing : Option Nat) (layer : Layer)
    (queries : List Query) :
    Recorded (queries.map fun q => (q,layer q)) (start deadline passing (fresh layer queries)) := by
  obtain ⟨errands,unsent,trace,aftermath,gathered⟩ := start_unsent deadline passing layer queries
  refine .of_unsent errands unsent (by rw [seen,trace,aftermath]; rfl) gathered fun failure stopped => ?_
  rcases start_cases deadline passing (fresh layer queries) with
    ⟨_,same⟩ | ⟨_,same⟩ | ⟨_,same | same⟩
  · simp [same,ready] at stopped
  · rw [same] at stopped
    exact absurd stopped (waitingFor_ne_stopped deadline _)
  · simp [same,windUp] at stopped
  · obtain rfl : overlong = failure := by simpa [same,finish] using stopped
    exact .inr (.inr rfl)

/-- What every job and every new round preserves holds at the end of a run if it held as the request
began to wait. The leaving of the caller is a job like any other. -/
theorem run_jobs_invariant {P : List Job → Dispatch → Prop}
    (step : ∀ job rest d, P (job :: rest) d → P rest (d.perform job))
    (next : ∀ d, P [] d → P d.opened.queue { d.opened with queue := [] })
    (deadline : Option Quantity) (interruption : Interruption) {fetches : List Fetch}
    (base : ∀ pending, (∀ job ∈ pending, job.isDeparture = true) →
      P pending (start deadline interruption.passing fetches)) :
    P [] (run deadline interruption fetches) := by
  refine rounds_induction step next ?_ _
  unfold accompany
  split
  · exact base [] (by simp)
  · exact base [] (by simp)
  · exact step .leave [] _ (base [.leave] (by simp [Job.isDeparture]))
  · rename_i turns _
    exact step (.caller (turns + 1)) [] _ (base [.caller (turns + 1)] (by simp [Job.isDeparture]))

/-- What does not depend on the jobs that are left of a round holds at the end of a run in the same
way. -/
theorem run_invariant {P : Dispatch → Prop} (step : ∀ d job, P d → P (d.perform job))
    (next : ∀ d, P d → P { d.opened with queue := [] }) (deadline : Option Quantity)
    (interruption : Interruption) {fetches : List Fetch}
    (base : P (start deadline interruption.passing fetches)) :
    P (run deadline interruption fetches) :=
  run_jobs_invariant (P := fun _ d => P d) (fun job _ d => step d job) next deadline interruption
    fun _ _ => base

theorem run_recorded (deadline : Option Quantity) (interruption : Interruption) (layer : Layer)
    (queries : List Query) :
    Recorded (queries.map fun q => (q,layer q)) (run deadline interruption (fresh layer queries)) :=
  run_invariant (fun _ job recorded => recorded.perform job) (fun _ recorded => recorded.opened)
    deadline interruption (start_recorded deadline interruption.passing layer queries)

end Record

section Traffic
variable {layer : Layer} {queries : List Query}

theorem Recorded.reply_eq (recorded : Recorded (queries.map fun q => (q,layer q)) d) {f : Fetch}
    (member : f ∈ d.fetches) : f.query ∈ queries ∧ f.reply = layer f.query := by
  have errand : f.errand ∈ queries.map fun q => (q,layer q) :=
    recorded.errands ▸ List.mem_map_of_mem member
  obtain ⟨q,inside,same⟩ := List.mem_map.mp errand
  obtain ⟨query,reply⟩ := Prod.mk.inj same
  exact ⟨query ▸ inside,by rw [← query,← reply]⟩

/-- No query reaches the layer twice, and none does that is not one of the request. -/
theorem Recorded.sent_subperm (recorded : Recorded (queries.map fun q => (q,layer q)) d) :
    d.seen.queries.Subperm queries := by
  have asked := congrArg (List.map Prod.fst) recorded.errands
  simp only [List.map_map,Function.comp_def,Fetch.errand,List.map_id'] at asked
  have chosen : d.fetches.filterMap Fetch.sent? =
      (d.fetches.filter Fetch.isSent).map (·.query) := by
    rw [← List.filterMap_eq_filter,List.map_filterMap]
    refine List.filterMap_congr fun f _ => ?_
    cases sent : f.isSent <;> simp [Fetch.sent?,Option.guard,sent]
  refine recorded.sent.subperm.trans ?_
  rw [chosen,← asked]
  exact (List.filter_sublist.map _).subperm

theorem Recorded.failed_sent (recorded : Recorded (queries.map fun q => (q,layer q)) d)
    (failed : d.HasFailed failure) :
    ∃ q ∈ d.seen.queries, (layer q).ending = .failure failure := by
  obtain ⟨f,member,stage⟩ := failed
  refine ⟨f.query,recorded.sent.mem_iff.mpr ?_,?_⟩
  · exact List.mem_filterMap.mpr ⟨f,member,by simp [Fetch.sent?,Fetch.isSent,stage]⟩
  · have agrees := recorded.agrees f member
    rw [Fetch.Agrees,stage] at agrees
    rw [← (recorded.reply_eq member).2]
    exact agrees

/-- A failure that ends the waiting is one that the request comes to without its queries, or the
layer failed a query with it. -/
theorem Recorded.outcome_error (recorded : Recorded (queries.map fun q => (q,layer q)) d)
    (stopped : d.outcome = some (.error failure)) :
    IsOwn failure ∨ ∃ q ∈ d.seen.queries, (layer q).ending = .failure failure := by
  refine (recorded.blamed.stopped failure ?_).imp_right recorded.failed_sent
  unfold outcome at stopped
  split at stopped
  · rename_i waiting
    rw [waiting,Option.some.inj stopped]
  · cases stopped

end Traffic

end Dispatch
end ScopedAnalytics
