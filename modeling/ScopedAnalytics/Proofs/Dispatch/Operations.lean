import ScopedAnalytics.Dispatch

/-! What each operation of a dispatch can do, said once for all that is proved about it. -/
namespace ScopedAnalytics

namespace Timer
variable {timer : Timer} {isIdle : Bool} {rounds : Nat}

theorem isDue_iff : timer.isDue isIdle = true ↔
    timer = .after 0 ∨ timer ≠ .off ∧ isIdle = true := by
  cases timer with
  | off => simp [isDue]
  | idle => simp [isDue]
  | after rounds => cases rounds <;> simp [isDue]

theorem elapsed_eq_off : timer.elapsed = .off ↔ timer = .off := by
  cases timer with
  | off => simp [elapsed]
  | idle => simp [elapsed]
  | after rounds => cases rounds <;> simp [elapsed]

theorem elapsed_eq_after (undue : timer.isDue isIdle = false) :
    timer.elapsed = .after rounds ↔ timer = .after (rounds + 1) := by
  cases timer with
  | off => simp [elapsed]
  | idle => simp [elapsed]
  | after more =>
    cases more with
    | zero => simp [isDue] at undue
    | succ more => simp [elapsed]

end Timer

namespace Fetch.Call
variable {call : Fetch.Call} {place : Nat} {job : Job}

theorem mem_jobs : job ∈ call.jobs place ↔
    call = .again ∧ job = .fetch place ∨ call = .news ∧ job = .news place := by
  cases call <;> simp [jobs]

theorem length_jobs_le (call : Fetch.Call) (place : Nat) : (call.jobs place).length ≤ 1 := by
  cases call <;> simp [jobs]

theorem mem_lateJobs : job ∈ call.lateJobs ↔ call = .signal ∧ job = .signal := by
  cases call <;> simp [lateJobs]

theorem lateJobs_eq_nil (quiet : call ≠ .signal) : call.lateJobs = [] := by
  cases call with
  | signal => exact absurd rfl quiet
  | _ => rfl

end Fetch.Call

namespace Dispatch

/-- Whether a request waits for more than its answers. -/
def isGuarded (d : Dispatch) : Bool :=
  match d.waiting with
  | .timed | .expiring | .leaving => true
  | .plain | .stopped _ => false

theorem isOver_iff {d : Dispatch} : d.isOver = true ↔ ∃ outcome, d.waiting = .stopped outcome := by
  cases waiting : d.waiting <;> simp [isOver,waiting]

theorem isOver_of_isGuarded {d : Dispatch} (guarded : d.isGuarded = true) : d.isOver = false := by
  cases waiting : d.waiting <;> simp [isGuarded,isOver,waiting] at guarded ⊢

section Turns

theorem note_eq (d : Dispatch) (events : Trace) : d.note events =
    { d with trace := (d.note events).trace, aftermath := (d.note events).aftermath } := by
  unfold note
  split <;> rfl

@[simp] theorem note_fetches (d : Dispatch) (events : Trace) :
    (d.note events).fetches = d.fetches := by rw [note_eq]

@[simp] theorem note_queue (d : Dispatch) (events : Trace) : (d.note events).queue = d.queue := by
  rw [note_eq]

@[simp] theorem note_late (d : Dispatch) (events : Trace) : (d.note events).late = d.late := by
  rw [note_eq]

@[simp] theorem note_timer (d : Dispatch) (events : Trace) : (d.note events).timer = d.timer := by
  rw [note_eq]

@[simp] theorem note_gathered (d : Dispatch) (events : Trace) :
    (d.note events).gathered = d.gathered := by rw [note_eq]

@[simp] theorem note_waiting (d : Dispatch) (events : Trace) :
    (d.note events).waiting = d.waiting := by rw [note_eq]

@[simp] theorem note_isCalled (d : Dispatch) (events : Trace) :
    (d.note events).isCalled = d.isCalled := by rw [note_eq]

@[simp] theorem note_isStruck (d : Dispatch) (events : Trace) :
    (d.note events).isStruck = d.isStruck := by rw [note_eq]

theorem turn_absent {d : Dispatch} {place : Nat} (absent : d.fetches[place]? = none) :
    d.turn place = d := by
  simp [turn,absent]

theorem turn_found {d : Dispatch} {place : Nat} {f : Fetch}
    (found : d.fetches[place]? = some f) :
    d.turn place = { d with
      fetches := d.fetches.set place f.turn.fetch
      queue := d.queue ++ f.turn.call.jobs place
      late := d.late ++ f.turn.call.lateJobs }.note f.turn.trace := by
  simp [turn,found]

theorem turn_fetches {d : Dispatch} {place : Nat} {f : Fetch}
    (found : d.fetches[place]? = some f) :
    (d.turn place).fetches = d.fetches.set place f.turn.fetch := by
  rw [turn_found found,note_fetches]

theorem turn_queue {d : Dispatch} {place : Nat} {f : Fetch}
    (found : d.fetches[place]? = some f) :
    (d.turn place).queue = d.queue ++ f.turn.call.jobs place := by
  rw [turn_found found,note_queue]

theorem turn_late {d : Dispatch} {place : Nat} {f : Fetch}
    (found : d.fetches[place]? = some f) :
    (d.turn place).late = d.late ++ f.turn.call.lateJobs := by
  rw [turn_found found,note_late]

/-- As long as the request waits, what is seen in a turn is seen before it stops. -/
theorem turn_of_waits {d : Dispatch} {place : Nat} {f : Fetch} (waits : d.isOver = false)
    (found : d.fetches[place]? = some f) : d.turn place = { d with
      fetches := d.fetches.set place f.turn.fetch
      queue := d.queue ++ f.turn.call.jobs place
      late := d.late ++ f.turn.call.lateJobs
      trace := d.trace ++ f.turn.trace } := by
  rw [isOver] at waits
  simp [turn_found found,note,isOver,waits]

theorem turn_eq (d : Dispatch) (place : Nat) : d.turn place = { d with
    fetches := (d.turn place).fetches
    queue := (d.turn place).queue
    late := (d.turn place).late
    trace := (d.turn place).trace
    aftermath := (d.turn place).aftermath } := by
  cases found : d.fetches[place]? with
  | none => rw [turn_absent found]
  | some f => rw [turn_found found,note_eq]

theorem turn_waiting (d : Dispatch) (place : Nat) : (d.turn place).waiting = d.waiting := by
  rw [turn_eq]

theorem turn_gathered (d : Dispatch) (place : Nat) : (d.turn place).gathered = d.gathered := by
  rw [turn_eq]

theorem turn_timer (d : Dispatch) (place : Nat) : (d.turn place).timer = d.timer := by
  rw [turn_eq]

theorem turn_isCalled (d : Dispatch) (place : Nat) : (d.turn place).isCalled = d.isCalled := by
  rw [turn_eq]

theorem turn_isStruck (d : Dispatch) (place : Nat) : (d.turn place).isStruck = d.isStruck := by
  rw [turn_eq]

end Turns

section Calls

/-- A call queues the request for its turn unless it is queued already. -/
theorem call_cases (d : Dispatch) : d.isCalled = true ∧ d.call = d ∨
    d.isCalled = false ∧ d.call = { d with isCalled := true }.push .request := by
  unfold call
  cases d.isCalled with
  | true => exact .inl ⟨rfl,rfl⟩
  | false => exact .inr ⟨rfl,rfl⟩

theorem call_eq (d : Dispatch) :
    d.call = { d with isCalled := true, queue := d.call.queue } := by
  rcases call_cases d with ⟨called,same⟩ | ⟨_,same⟩
  · rw [same,← called]
  · rw [same,push]

/-- Answers that are gathered call a request that waits for them alone, and any other one has to be
released by them. -/
theorem gather_cases (d : Dispatch) (answers : Except Failure (List (List Row))) :
    d.waiting = .plain ∧ d.gather answers = (d.receive answers).call ∨
      d.isGuarded = true ∧ d.gather answers = (d.receive answers).push .release ∨
      d.isOver = true ∧ d.gather answers = d.receive answers := by
  unfold gather isGuarded isOver
  cases d.waiting with
  | plain => exact .inl ⟨rfl,rfl⟩
  | timed => exact .inr (.inl ⟨rfl,rfl⟩)
  | expiring => exact .inr (.inl ⟨rfl,rfl⟩)
  | leaving => exact .inr (.inl ⟨rfl,rfl⟩)
  | stopped outcome => exact .inr (.inr ⟨rfl,rfl⟩)

theorem gather_eq (d : Dispatch) (answers : Except Failure (List (List Row))) :
    d.gather answers = { d with
      gathered := some answers
      isCalled := (d.gather answers).isCalled
      queue := (d.gather answers).queue } := by
  rcases gather_cases d answers with ⟨_,same⟩ | ⟨_,same⟩ | ⟨_,same⟩
  · rw [same,call_eq,receive]
  · rw [same,push,receive]
  · rw [same,receive]

theorem learn_absent {d : Dispatch} {place : Nat} (absent : d.fetches[place]? = none) :
    d.learn place = d := by
  simp [learn,absent]

/-- The news of an end brings something to gather, unless that is done or the news of others are
missing. -/
theorem learn_cases {d : Dispatch} {place : Nat} {f : Fetch} (found : d.fetches[place]? = some f) :
    (∃ answers, d.gathered = none ∧ news? (d.mark place f).fetches f = some answers ∧
      d.learn place = (d.mark place f).gather answers) ∨
    (d.gathered.isSome = true ∨ news? (d.mark place f).fetches f = none) ∧
      d.learn place = d.mark place f := by
  simp only [learn,found]
  cases gathered : d.gathered with
  | some answers => exact .inr ⟨.inl rfl,rfl⟩
  | none =>
    cases news : news? (d.mark place f).fetches f with
    | none => exact .inr ⟨.inr rfl,rfl⟩
    | some answers => exact .inl ⟨answers,rfl,rfl,rfl⟩

theorem release_cases (d : Dispatch) : d.isGuarded = true ∧ d.release = d.call ∨
    d.isGuarded = false ∧ d.release = d := by
  unfold release isGuarded
  cases d.waiting with
  | plain => exact .inr ⟨rfl,rfl⟩
  | timed => exact .inl ⟨rfl,rfl⟩
  | expiring => exact .inl ⟨rfl,rfl⟩
  | leaving => exact .inl ⟨rfl,rfl⟩
  | stopped outcome => exact .inr ⟨rfl,rfl⟩

theorem expire_cases (d : Dispatch) : d.isGuarded = true ∧ d.expire = d.call ∨ d.expire = d := by
  unfold expire isGuarded
  cases d.waiting with
  | timed => exact .inl ⟨rfl,rfl⟩
  | _ => exact .inr rfl

theorem leave_cases (d : Dispatch) : d.isOver = true ∧ d.leave = d ∨
    d.waiting = .plain ∧ (d.leave = d.strike ∨ d.leave = d.cutAll) ∨
    d.isGuarded = true ∧ d.leave = d.strike.call := by
  unfold leave isGuarded isOver
  cases d.waiting with
  | plain =>
    refine .inr (.inl ⟨rfl,?_⟩)
    dsimp only
    split
    · exact .inl rfl
    · exact .inr rfl
  | timed => exact .inr (.inr ⟨rfl,rfl⟩)
  | expiring => exact .inr (.inr ⟨rfl,rfl⟩)
  | leaving => exact .inr (.inr ⟨rfl,rfl⟩)
  | stopped outcome => exact .inl ⟨rfl,rfl⟩

end Calls

section Endings

private theorem belated_ok {answers : Except Failure (List (List Row))} {rows : List (List Row)}
    (good : belated answers = .ok rows) : answers = .ok rows := by
  cases answers with
  | error f => cases good
  | ok rows => exact good

private theorem belated_error {answers : Except Failure (List (List Row))} {failure : Failure}
    (bad : belated answers = .error failure) :
    failure = lateness ∨ answers = .error failure ∧ failure.kind ≠ .cancelled := by
  cases answers with
  | ok rows => cases bad
  | error f =>
    have same := Except.error.inj bad
    split at same
    · exact .inl same.symm
    · rename_i kept
      exact .inr ⟨congrArg Except.error same,same ▸ kept⟩

/-- What a failure comes from that a request ends with at its turn: its caller, its deadline, or what it
has gathered. Once its deadline has passed, a cancellation that it has gathered does not count. -/
def EndsWith (d : Dispatch) (failure : Failure) : Prop :=
  failure = .cancellation ∧ (d.isStruck = true ∨ d.waiting = .leaving) ∨
    failure = lateness ∧ d.waiting = .expiring ∨
    d.gathered = some (.error failure) ∧
      (d.waiting = .plain ∨ d.waiting = .timed ∨
        d.waiting = .expiring ∧ failure.kind ≠ .cancelled)

private def Ends (d : Dispatch) (outcome : Except Failure (List (List Row))) : Prop :=
  (∀ rows, outcome = .ok rows → d.gathered = some (.ok rows)) ∧
    ∀ failure, outcome = .error failure → d.EndsWith failure

private theorem ends_cancelled {d : Dispatch} (left : d.isStruck = true ∨ d.waiting = .leaving) :
    d.Ends (.error .cancellation) :=
  ⟨nofun,fun _ bad => .inl ⟨(Except.error.inj bad).symm,left⟩⟩

private theorem ends_gathered {d : Dispatch} {answers : Except Failure (List (List Row))}
    (waits : d.waiting = .plain ∨ d.waiting = .timed) (gathered : d.gathered = some answers) :
    d.Ends answers := by
  refine ⟨fun rows good => good ▸ gathered,fun failure bad => .inr (.inr ⟨bad ▸ gathered,?_⟩)⟩
  exact waits.imp_right .inl

private theorem ends_late {d : Dispatch} (waits : d.waiting = .expiring) :
    d.Ends (.error lateness) :=
  ⟨nofun,fun _ bad => .inr (.inl ⟨(Except.error.inj bad).symm,waits⟩)⟩

private theorem ends_belated {d : Dispatch} {answers : Except Failure (List (List Row))}
    (waits : d.waiting = .expiring) (gathered : d.gathered = some answers) :
    d.Ends (belated answers) := by
  refine ⟨fun rows good => belated_ok good ▸ gathered,fun failure bad => ?_⟩
  rcases belated_error bad with late | ⟨same,kind⟩
  · exact .inr (.inl ⟨late,waits⟩)
  · exact .inr (.inr ⟨same ▸ gathered,.inr (.inr ⟨waits,kind⟩)⟩)

/-- At its turn, a request goes on waiting, gives up its queries or ends. It ends well only with the
answers it has gathered. -/
theorem resume_cases (d : Dispatch) :
    (d.isOver = true ∨ d.waiting = .plain ∧ d.gathered = none) ∧ d.resume = d ∨
    (d.waiting = .timed ∧ d.gathered = none) ∧
      (d.isStruck = true ∧ d.resume = d.windUp .leaving ∨
        d.isStruck = false ∧ d.resume = d.windUp .expiring) ∨
    ∃ outcome, d.resume = d.finish outcome ∧
      (∀ rows, outcome = .ok rows → d.gathered = some (.ok rows)) ∧
      ∀ failure, outcome = .error failure → d.EndsWith failure := by
  change _ ∨ _ ∨ ∃ outcome, d.resume = d.finish outcome ∧ d.Ends outcome
  cases waiting : d.waiting with
  | stopped outcome => exact .inl ⟨.inl (by simp [isOver,waiting]),by simp [resume,waiting]⟩
  | leaving =>
    exact .inr (.inr ⟨_,by simp only [resume,waiting],ends_cancelled (.inr waiting)⟩)
  | plain =>
    cases gathered : d.gathered with
    | none => exact .inl ⟨.inr ⟨rfl,rfl⟩,by simp only [resume,waiting,gathered]⟩
    | some answers =>
      cases struck : d.isStruck with
      | true =>
        exact .inr (.inr ⟨_,by simp [resume,waiting,gathered,struck],ends_cancelled (.inl struck)⟩)
      | false =>
        exact .inr (.inr ⟨_,by simp [resume,waiting,gathered,struck],
          ends_gathered (.inl waiting) gathered⟩)
  | timed =>
    cases gathered : d.gathered with
    | some answers =>
      exact .inr (.inr ⟨_,by simp only [resume,waiting,gathered],ends_gathered (.inr waiting) gathered⟩)
    | none =>
      refine .inr (.inl ⟨⟨rfl,rfl⟩,?_⟩)
      cases struck : d.isStruck with
      | true => exact .inl ⟨rfl,by simp [resume,waiting,gathered,struck]⟩
      | false => exact .inr ⟨rfl,by simp [resume,waiting,gathered,struck]⟩
  | expiring =>
    cases struck : d.isStruck with
    | true =>
      refine .inr (.inr ⟨_,?_,ends_cancelled (.inl struck)⟩)
      cases gathered : d.gathered <;> simp [resume,waiting,gathered,struck]
    | false =>
      cases gathered : d.gathered with
      | none => exact .inr (.inr ⟨_,by simp [resume,waiting,gathered,struck],ends_late waiting⟩)
      | some answers =>
        exact .inr (.inr ⟨_,by simp [resume,waiting,gathered,struck],ends_belated waiting gathered⟩)

end Endings

section Rounds

theorem opened_eq (d : Dispatch) :
    d.opened = { d with queue := d.opened.queue, late := [], timer := d.opened.timer } := by
  unfold opened
  dsimp only
  split <;> rfl

/-- A round has the jobs that were called for, and after them the passing of the deadline if that is
due. -/
theorem opened_cases (d : Dispatch) :
    d.timer.isDue (d.queue ++ d.late).isEmpty = true ∧ d.opened.timer = .off ∧
      d.opened.queue = d.queue ++ d.late ++ [.deadline] ∨
    d.timer.isDue (d.queue ++ d.late).isEmpty = false ∧ d.opened.timer = d.timer.elapsed ∧
      d.opened.queue = d.queue ++ d.late := by
  unfold opened
  dsimp only
  cases d.timer.isDue (d.queue ++ d.late).isEmpty with
  | true => exact .inl ⟨rfl,rfl,rfl⟩
  | false => exact .inr ⟨rfl,rfl,rfl⟩

theorem opened_queue (d : Dispatch) : ∃ due, d.opened.queue = d.queue ++ d.late ++ due ∧
    (due = [] ∨ due = [.deadline]) := by
  rcases opened_cases d with ⟨_,_,queue⟩ | ⟨_,_,queue⟩
  · exact ⟨[.deadline],queue,.inr rfl⟩
  · exact ⟨[],by rw [queue,List.append_nil],.inl rfl⟩

theorem opened_fetches (d : Dispatch) : d.opened.fetches = d.fetches := by rw [opened_eq]

theorem opened_waiting (d : Dispatch) : d.opened.waiting = d.waiting := by rw [opened_eq]

theorem opened_gathered (d : Dispatch) : d.opened.gathered = d.gathered := by rw [opened_eq]

theorem opened_late (d : Dispatch) : d.opened.late = [] := by rw [opened_eq]

theorem opened_isCalled (d : Dispatch) : d.opened.isCalled = d.isCalled := by rw [opened_eq]

theorem opened_isStruck (d : Dispatch) : d.opened.isStruck = d.isStruck := by rw [opened_eq]

end Rounds

end Dispatch
end ScopedAnalytics
