import Mathlib.Algebra.GroupWithZero.Nat
import ScopedAnalytics.Proofs.Dispatch.Operations
import ScopedAnalytics.Proofs.Fetch.Passage

/-! Runs of a dispatch. What every job and every new round preserve holds when the run is over, and
the run is over because each job takes off more than it calls for. -/
namespace ScopedAnalytics.Dispatch

section Induction
variable {P : List Job → Dispatch → Prop}

theorem performAll_induction (step : ∀ job rest d, P (job :: rest) d → P rest (d.perform job))
    {jobs : List Job} {d : Dispatch} (base : P jobs d) : P [] (d.performAll jobs) := by
  induction jobs generalizing d with
  | nil => exact base
  | cons job rest ih => exact ih (step job rest d base)

/-- A property of the jobs that are left of a round and of the dispatch holds after rounds, if no job
and no new round breaks it. -/
theorem rounds_induction (step : ∀ job rest d, P (job :: rest) d → P rest (d.perform job))
    (next : ∀ d, P [] d → P d.opened.queue { d.opened with queue := [] }) {d : Dispatch}
    (base : P [] d) (n : Nat) : P [] (d.rounds n) := by
  induction n generalizing d with
  | zero => exact base
  | succ n ih =>
    unfold rounds
    split
    · exact base
    · exact ih (performAll_induction step (next d base))

end Induction

section Effort

theorem sum_map_set {α : Type} {items : List α} {place : Nat} {a b : α} (weight : α → Nat)
    (found : items[place]? = some a) :
    ((items.set place b).map weight).sum + weight a = (items.map weight).sum + weight b := by
  induction items generalizing place with
  | nil => simp at found
  | cons item items ih =>
    cases place with
    | zero =>
      obtain rfl : item = a := by simpa using found
      simp only [List.set_cons_zero,List.map_cons,List.sum_cons]
      omega
    | succ place =>
      have rest := ih (by simpa using found)
      simp only [List.set_cons_succ,List.map_cons,List.sum_cons]
      omega

theorem effort_eq (d : Dispatch) : d.effort = (d.fetches.map Fetch.effort).sum +
    (d.queue.map Job.effort).sum + (d.late.map Job.effort).sum +
      d.waiting.effort d.gathered.isSome d.isCalled + d.timer.effort := by
  rw [effort,← List.sum_eq_foldr,← List.sum_eq_foldr,List.map_append,List.sum_append]
  omega

theorem push_effort (d : Dispatch) (job : Job) : (d.push job).effort = d.effort + job.effort := by
  simp only [effort_eq,push,List.map_append,List.sum_append,List.map_cons,List.map_nil,
    List.sum_cons,List.sum_nil]
  omega

theorem note_effort (d : Dispatch) (events : Trace) : (d.note events).effort = d.effort := by
  simp [effort]

theorem call_effort_le {d : Dispatch} (waits : d.isOver = false) : d.call.effort ≤ d.effort := by
  rcases call_cases d with ⟨_,same⟩ | ⟨uncalled,same⟩
  · exact Nat.le_of_eq (congrArg effort same)
  · have less : d.waiting.effort d.gathered.isSome true + 1 ≤
        d.waiting.effort d.gathered.isSome d.isCalled := by
      cases waiting : d.waiting with
      | stopped outcome => simp [isOver,waiting] at waits
      | plain => simp [Waiting.effort,uncalled]
      | timed => simp [Waiting.effort,uncalled]
      | expiring => simp [Waiting.effort,uncalled]
      | leaving => simp [Waiting.effort,uncalled]
    rw [same,push_effort]
    simp only [effort_eq,Job.effort]
    omega

private theorem wakings_effort (fetches : List Fetch) :
    ((wakings fetches).map Job.effort).sum = fetches.countP Fetch.isResting := by
  have shifted : ∀ start : Nat, (((fetches.zipIdx start).filterMap fun entry =>
      if entry.1.isResting then some (Job.fetch entry.2) else none).map Job.effort).sum =
        fetches.countP Fetch.isResting := by
    induction fetches with
    | nil => simp
    | cons f fetches ih =>
      intro start
      have rest := ih (start + 1)
      rw [List.zipIdx_cons,List.filterMap_cons,List.countP_cons]
      cases resting : f.isResting with
      | false => simpa using rest
      | true =>
        simp only [if_true,List.map_cons,List.sum_cons,Job.effort,rest]
        omega
  exact shifted 0

private theorem cut_effort_sum_le (fetches : List Fetch) :
    ((fetches.map Fetch.cut).map Fetch.effort).sum + fetches.countP Fetch.isResting ≤
      (fetches.map Fetch.effort).sum := by
  induction fetches with
  | nil => simp
  | cons f fetches ih =>
    have here := f.cut_effort_le
    simp only [List.map_cons,List.sum_cons,List.countP_cons]
    omega

theorem cutAll_effort_le (d : Dispatch) : d.cutAll.effort ≤ d.effort := by
  have fetches := cut_effort_sum_le d.fetches
  have jobs := wakings_effort d.fetches
  simp only [effort_eq,cutAll,List.map_append,List.sum_append]
  omega

theorem turn_effort_le (d : Dispatch) (place : Nat) : (d.turn place).effort ≤ d.effort := by
  cases found : d.fetches[place]? with
  | none => simp [turn_absent found]
  | some f =>
    have passage := f.turn_passage.effort_le
    have swap := sum_map_set (b := f.turn.fetch) Fetch.effort found
    have jobs : ((f.turn.call.jobs place).map Job.effort).sum +
        (f.turn.call.lateJobs.map Job.effort).sum =
          (if f.turn.call = .again ∨ f.turn.call = .news then 1 else 0) +
            if f.turn.call = .signal then 2 else 0 := by
      cases f.turn.call <;> rfl
    rw [turn_found found,note_effort]
    simp only [effort_eq,List.map_append,List.sum_append]
    omega

private theorem receive_effort {d : Dispatch} (fresh : d.gathered = none)
    (answers : Except Failure (List (List Row))) :
    (d.receive answers).effort + (!d.isOver).toNat = d.effort := by
  simp only [effort_eq,receive,fresh,isOver]
  cases d.waiting <;> simp [Waiting.effort] <;> omega

theorem gather_effort_le {d : Dispatch} (fresh : d.gathered = none)
    (answers : Except Failure (List (List Row))) : (d.gather answers).effort ≤ d.effort := by
  have less := receive_effort fresh answers
  rcases gather_cases d answers with ⟨plain,same⟩ | ⟨guarded,same⟩ | ⟨_,same⟩
  · have waits : (d.receive answers).isOver = false := by simp [receive,isOver,plain]
    rw [same]
    exact Nat.le_trans (call_effort_le waits) (Nat.le.intro less)
  · rw [same,push_effort]
    simpa [Job.effort,isOver_of_isGuarded guarded] using Nat.le_of_eq less
  · rw [same]
    exact Nat.le.intro less

theorem mark_effort {d : Dispatch} {place : Nat} {f : Fetch} (found : d.fetches[place]? = some f) :
    (d.mark place f).effort = d.effort := by
  have same : Fetch.effort { f with isKnown := true } = f.effort := rfl
  have swap := sum_map_set (b := { f with isKnown := true }) Fetch.effort found
  simp only [effort_eq,mark]
  omega

theorem learn_effort_le (d : Dispatch) (place : Nat) : (d.learn place).effort ≤ d.effort := by
  cases found : d.fetches[place]? with
  | none => exact Nat.le_of_eq (congrArg effort (learn_absent found))
  | some f =>
    rw [← mark_effort found]
    rcases learn_cases found with ⟨answers,fresh,_,same⟩ | ⟨_,same⟩
    · rw [same]
      exact gather_effort_le (d := d.mark place f) fresh answers
    · exact Nat.le_of_eq (congrArg effort same)

theorem finish_effort_le (d : Dispatch) (outcome : Except Failure (List (List Row))) :
    (d.finish outcome).effort ≤ d.effort := by
  have cut := d.cutAll_effort_le
  rw [effort_eq] at cut
  rw [effort_eq]
  simp only [finish,Waiting.effort,Timer.effort]
  omega

theorem windUp_effort_le {d : Dispatch} {waiting : Waiting}
    (less : waiting.effort d.gathered.isSome false ≤ d.waiting.effort d.gathered.isSome d.isCalled) :
    (d.windUp waiting).effort ≤ d.effort := by
  have cut := d.cutAll_effort_le
  rw [effort_eq] at cut
  rw [effort_eq]
  simp only [windUp,cutAll] at cut ⊢
  omega

theorem resume_effort_le (d : Dispatch) : d.resume.effort ≤ d.effort := by
  rcases resume_cases d with
    ⟨_,same⟩ | ⟨⟨timed,fresh⟩,⟨_,same⟩ | ⟨_,same⟩⟩ | ⟨outcome,same,_⟩
  · exact Nat.le_of_eq (congrArg effort same)
  · rw [same]
    exact windUp_effort_le (by simp [timed,fresh,Waiting.effort])
  · rw [same]
    exact windUp_effort_le (by simp [timed,fresh,Waiting.effort])
  · rw [same]
    exact finish_effort_le d outcome

theorem leave_effort_le (d : Dispatch) : d.leave.effort ≤ d.effort := by
  have struck : d.strike.effort = d.effort := rfl
  rcases leave_cases d with ⟨_,same⟩ | ⟨_,same | same⟩ | ⟨guarded,same⟩
  · exact Nat.le_of_eq (congrArg effort same)
  · exact Nat.le_of_eq ((congrArg effort same).trans struck)
  · rw [same]
    exact cutAll_effort_le d
  · rw [same,← struck]
    exact call_effort_le (isOver_of_isGuarded guarded)

theorem release_effort_le (d : Dispatch) : d.release.effort ≤ d.effort := by
  rcases release_cases d with ⟨guarded,same⟩ | ⟨_,same⟩
  · rw [same]
    exact call_effort_le (isOver_of_isGuarded guarded)
  · exact Nat.le_of_eq (congrArg effort same)

theorem expire_effort_le (d : Dispatch) : d.expire.effort ≤ d.effort := by
  rcases expire_cases d with ⟨guarded,same⟩ | same
  · rw [same]
    exact call_effort_le (isOver_of_isGuarded guarded)
  · exact Nat.le_of_eq (congrArg effort same)

theorem perform_effort_lt (d : Dispatch) (job : Job) :
    (d.perform job).effort < d.effort + job.effort := by
  cases job with
  | fetch place => exact Nat.lt_succ_of_le (turn_effort_le d place)
  | news place => exact Nat.lt_succ_of_le (learn_effort_le d place)
  | release => exact Nat.lt_succ_of_le (release_effort_le d)
  | deadline => exact Nat.lt_succ_of_le (expire_effort_le d)
  | request => exact Nat.lt_succ_of_le (resume_effort_le d)
  | leave => exact Nat.lt_succ_of_le (leave_effort_le d)
  | signal => simp [perform,push_effort,Job.effort]
  | caller turns =>
    cases turns with
    | zero => exact Nat.lt_succ_of_le (leave_effort_le d)
    | succ turns => simp [perform,push_effort,Job.effort]

theorem performAll_effort (d : Dispatch) (jobs : List Job) :
    (d.performAll jobs).effort + jobs.length ≤ d.effort + (jobs.map Job.effort).sum := by
  induction jobs generalizing d with
  | nil => exact Nat.le_refl _
  | cons job rest ih =>
    have here := d.perform_effort_lt job
    have later := ih (d.perform job)
    simp only [performAll,List.foldl_cons,List.length_cons,List.map_cons,List.sum_cons] at later ⊢
    omega

theorem opened_effort (d : Dispatch) :
    { d.opened with queue := [] }.effort + (d.opened.queue.map Job.effort).sum = d.effort := by
  rw [opened_eq]
  rcases opened_cases d with ⟨due,timer,queue⟩ | ⟨_,timer,queue⟩
  · have running : d.timer.effort = 1 := by
      cases timer : d.timer with
      | off => simp [Timer.isDue,timer] at due
      | idle => rfl
      | after rounds => rfl
    have off : Timer.off.effort = 0 := rfl
    simp only [effort_eq,timer,queue,running,off,List.map_append,List.sum_append,List.map_cons,
      List.map_nil,List.sum_cons,List.sum_nil,Job.effort]
    omega
  · have same : d.timer.elapsed.effort = d.timer.effort := by
      cases timer : d.timer with
      | off => rfl
      | idle => rfl
      | after rounds => cases rounds <;> rfl
    simp only [effort_eq,timer,queue,same,List.map_append,List.sum_append,List.map_nil,List.sum_nil]
    omega

theorem round_effort_lt {d : Dispatch} (busy : d.isQuiet = false) : d.round.effort < d.effort := by
  have jobs : 0 < d.opened.queue.length := by
    rw [isQuiet,List.isEmpty_eq_false_iff] at busy
    exact List.length_pos_iff.mpr busy
  have opened := d.opened_effort
  have performed := performAll_effort { d.opened with queue := [] } d.opened.queue
  rw [round]
  omega

theorem rounds_isQuiet {d : Dispatch} {n : Nat} (enough : d.effort ≤ n) :
    (d.rounds n).isQuiet = true := by
  induction n generalizing d with
  | zero =>
    cases quiet : d.isQuiet with
    | true => simpa [rounds] using quiet
    | false => exact absurd (round_effort_lt quiet) (by omega)
  | succ n ih =>
    unfold rounds
    cases quiet : d.isQuiet with
    | true => simpa using quiet
    | false =>
      have less := round_effort_lt quiet
      simpa using ih (d := d.round) (by omega)

theorem run_induction {P : List Job → Dispatch → Prop}
    (step : ∀ job rest d, P (job :: rest) d → P rest (d.perform job))
    (next : ∀ d, P [] d → P d.opened.queue { d.opened with queue := [] }) {d : Dispatch}
    (busy : d.isQuiet = false) (base : P d.opened.queue { d.opened with queue := [] }) :
    P [] (d.rounds d.effort) := by
  have less := round_effort_lt busy
  obtain ⟨n,same⟩ := Nat.exists_eq_add_one_of_ne_zero (Nat.ne_zero_of_lt less)
  rw [same,rounds,busy,if_neg Bool.false_ne_true]
  exact rounds_induction step next (performAll_induction step base) n

end Effort

end ScopedAnalytics.Dispatch
