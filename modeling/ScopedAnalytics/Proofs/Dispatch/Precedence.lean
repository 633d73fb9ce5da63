import Mathlib.Data.Nat.Find
import ScopedAnalytics.Proofs.Dispatch.Schedule

/-! Which failure a request fails with if several of its queries fail: that of the query which fails
in the earliest round and, of those, at the first place. -/
namespace ScopedAnalytics.Dispatch

variable {pending : List Job} {d : Dispatch} {job : Job} {timer : Timer} {k place rounds : Nat}
  {failure : Failure} {layer : Layer} {queries : List Query}

/-- Whether the query at a place fails after some rounds. -/
def FailsAt (layer : Layer) (queries : List Query) (place rounds : Nat) (failure : Failure) : Prop :=
  ∃ q, queries[place]? = some q ∧ (layer q).rounds = rounds ∧ (layer q).ending = .failure failure

/-- The failure of a query that no other one fails before, in an earlier round or in the same one at an
earlier place. -/
structure FirstFailure (layer : Layer) (queries : List Query) (place rounds : Nat)
    (failure : Failure) : Prop where
  fails : FailsAt layer queries place rounds failure
  first : ∀ there rounds' other, FailsAt layer queries there rounds' other →
    rounds < rounds' ∨ rounds = rounds' ∧ place ≤ there

theorem exists_firstFailure (fails : FailsAt layer queries place rounds failure) :
    ∃ place rounds failure, FirstFailure layer queries place rounds failure := by
  classical
  have some : ∃ rounds place failure, FailsAt layer queries place rounds failure :=
    ⟨rounds,place,failure,fails⟩
  obtain ⟨failing,failure',fails'⟩ := Nat.find_spec some
  have here : ∃ place failure, FailsAt layer queries place (Nat.find some) failure :=
    ⟨failing,failure',fails'⟩
  obtain ⟨failure,fails⟩ := Nat.find_spec here
  refine ⟨Nat.find here,Nat.find some,failure,fails,fun there rounds' other fails => ?_⟩
  have earliest : Nat.find some ≤ rounds' := Nat.find_min' some ⟨there,other,fails⟩
  rcases Nat.lt_or_eq_of_le earliest with before | same
  · exact .inl before
  · exact .inr ⟨same,Nat.find_min' here ⟨other,same ▸ fails⟩⟩

/-- The queries at their places with the replies of a layer. -/
theorem reply_of_errands {errands : List (Query × Reply (List Row))} {there : Nat} {f : Fetch}
    (same : d.fetches.map Fetch.errand = errands) (held : d.fetches[there]? = some f) :
    errands[there]? = some (f.query,f.reply) := by
  rw [← same,List.getElem?_map,held]
  rfl

section Places
variable {f : Fetch}

private theorem FailsAt.held (fails : FailsAt layer queries place rounds failure)
    (steady : Steady (queries.map fun q => (q,layer q)) pending d) :
    ∃ f, d.fetches[place]? = some f ∧ f.reply.rounds = rounds ∧
      f.reply.ending = .failure failure := by
  obtain ⟨q,found,rounds,ending⟩ := fails
  have errand := congrArg (·[place]?) steady.errands
  simp only [List.getElem?_map,found,Option.map_some,Option.map_eq_some_iff] at errand
  obtain ⟨f,held,same⟩ := errand
  obtain ⟨_,reply⟩ := Prod.mk.inj same
  exact ⟨f,held,reply ▸ rounds,reply ▸ ending⟩

private theorem failsAt_of_held (steady : Steady (queries.map fun q => (q,layer q)) pending d)
    (held : d.fetches[place]? = some f) (ending : f.reply.ending = .failure failure) :
    FailsAt layer queries place f.reply.rounds failure := by
  have errand := reply_of_errands steady.errands held
  rw [List.getElem?_map,Option.map_eq_some_iff] at errand
  obtain ⟨q,found,same⟩ := errand
  obtain ⟨_,reply⟩ := Prod.mk.inj same
  exact ⟨q,found,by rw [reply],by rw [reply,ending]⟩

private theorem not_isFinished_of_failure (agrees : f.Agrees)
    (ending : f.reply.ending = .failure failure) :
    f.isFinished = false ∧ f.isResting = false := by
  cases stage : f.stage with
  | unsent => simp [Fetch.isFinished,Fetch.isResting,stage]
  | waiting rounds => simp [Fetch.isFinished,Fetch.isResting,stage]
  | stalled => simp [Fetch.Agrees,stage,ending] at agrees
  | ended fate =>
    cases fate with
    | finished rows => simp [Fetch.Agrees,stage,ending] at agrees
    | _ => simp [Fetch.isFinished,Fetch.isResting,stage]

end Places

section Gathering
variable {there : Nat} {f : Fetch} {answers : Except Failure (List (List Row))}

/-- Of queries that fail, only one whose failure is not known yet can be gathered, and none that is
known was. -/
private theorem Steady.unknown (steady : Steady (queries.map fun q => (q,layer q)) pending d)
    (fresh : d.gathered = none) (member : f ∈ d.fetches)
    (ending : f.reply.ending = .failure failure) : f.isKnown = false := by
  cases known : f.isKnown with
  | false => rfl
  | true =>
    have finished := steady.informed.known fresh f member known
    simp [(not_isFinished_of_failure (steady.agrees f member) ending).1] at finished

/-- As the first thing is gathered, it is the failure of the query that fails first. -/
private theorem Regular.gathers (regular : Regular timer k (.news place :: pending) d)
    (steady : Steady (queries.map fun q => (q,layer q)) (.news place :: pending) d)
    (first : FirstFailure layer queries there rounds failure) (held : d.fetches[place]? = some f)
    (news : news? (d.mark place f).fetches f = some answers) : answers = .error failure := by
  obtain ⟨g,held',took,fails⟩ := first.fails.held steady
  have inside := List.mem_of_getElem? held
  have inside' := List.mem_of_getElem? held'
  have unknown := steady.unknown regular.fresh inside' fails
  obtain ⟨unfinished,unresting⟩ := not_isFinished_of_failure (steady.agrees g inside') fails
  have ended := steady.informed.told place f List.mem_cons_self held
  obtain ⟨replied,_,due⟩ := regular.replied ended held
  cases stage : f.stage with
  | unsent => simp [Fetch.hasReplied,stage] at replied
  | waiting rounds => simp [Fetch.hasReplied,stage] at replied
  | stalled => simp [Fetch.hasReplied,stage] at replied
  | ended fate =>
    cases fate with
    | givenUp => simp [Fetch.hasReplied,stage] at replied
    | dropped => simp [Fetch.hasReplied,stage] at replied
    | finished rows =>
      have finished : f.isFinished = true := by simp [Fetch.isFinished,stage]
      rw [steady.informed.news?_of_missing regular.fresh held finished inside' unfinished] at news
      cases news
    | failed other =>
      obtain rfl : Except.error other = answers := by simpa [news?,stage] using news
      have agrees := steady.agrees f inside
      rw [Fetch.Agrees,stage] at agrees
      have now : f.reply.rounds + 1 = k :=
        due.resolve_left (by simp [steady.unknown regular.fresh inside agrees])
      have order := first.first place f.reply.rounds other (failsAt_of_held steady held agrees)
      -- The first failure was due no later and its news is not known yet, so this is it.
      have here : there = place := by
        cases regular.stands there g held' with
        | turn _ _ ends => omega
        | next _ _ ends => omega
        | nextNews _ ends => omega
        | known _ known => simp [unknown] at known
        | stalled resting => simp [unresting] at resting
        | news _ ends ahead =>
          rcases List.mem_cons.mp ahead with same | later
          · exact Job.news.inj same
          · have after := (regular.order_cons rfl).2 _ later there rfl
            omega
      subst here
      obtain rfl : g = f := Option.some.inj (held'.symm.trans held)
      exact congrArg Except.error (Ending.failure.inj (agrees.symm.trans fails))

end Gathering

section Run

/-- Whether a request has a failure gathered and waits on, for its turn alone. -/
structure Doomed (failure : Failure) (d : Dispatch) : Prop where
  waits : d.waiting = .plain ∨ d.waiting = .timed
  gathered : d.gathered = some (.error failure)

private theorem Doomed.perform (doomed : Doomed failure d) (unstruck : d.isStruck = false)
    (job : Job) :
    Doomed failure (d.perform job) ∨ (d.perform job).waiting = .stopped (.error failure) := by
  have gathered : (d.perform job).gathered = some (.error failure) := by
    by_cases own : ∃ told, job = .news told
    · obtain ⟨told,rfl⟩ := own
      rw [Dispatch.perform]
      cases found : d.fetches[told]? with
      | none => rw [learn_absent found,doomed.gathered]
      | some f => rw [learn_gathered found,doomed.gathered,Option.some_or]
    · rw [perform_gathered d fun told same => own ⟨told,same⟩,doomed.gathered]
  by_cases own : job = .request
  · subst own
    refine .inr ?_
    rcases doomed.waits with waiting | waiting
    · simp [Dispatch.perform,resume,waiting,doomed.gathered,unstruck,finish]
    · simp [Dispatch.perform,resume,waiting,doomed.gathered,finish]
  · exact .inl ⟨by rw [perform_waiting d own]; exact doomed.waits,gathered⟩

/-- What a dispatch that nobody interrupts comes to if one of its queries fails in time. -/
inductive Failing (timer : Timer) (failure : Failure) (pending : List Job) (d : Dispatch) : Prop
  | yet (k : Nat) (regular : Regular timer k pending d)
  | doomed (doomed : Doomed failure d)
  | finished (stopped : d.waiting = .stopped (.error failure))

private theorem Failing.perform (failing : Failing timer failure (job :: pending) d)
    (steady : Steady (queries.map fun q => (q,layer q)) (job :: pending) d)
    (peaceful : Peaceful (job :: pending) d)
    (first : FirstFailure layer queries place rounds failure)
    (timely : timer.covers rounds = true) : Failing timer failure pending (d.perform job) := by
  cases failing with
  | finished stopped =>
    have stays : d.isOver = true := by simp [isOver,stopped]
    exact .finished ((perform_waiting_of_isOver stays job).trans stopped)
  | doomed doomed =>
    rcases doomed.perform peaceful.unstruck job with doomed | stopped
    · exact .doomed doomed
    · exact .finished stopped
  | yet k regular =>
    rcases regular.perform steady peaceful with
      regular | ⟨there,f,answers,rfl,held,news,same⟩ | ⟨rfl,_,_,known⟩
    · exact .yet k regular
    · obtain rfl := regular.gathers steady first held news
      refine .doomed ⟨?_,?_⟩
      · rw [perform_waiting d (by simp)]
        exact regular.waits
      · rw [same,gather_gathered]
    · obtain ⟨g,held,took,fails⟩ := first.fails.held steady
      have inside := List.mem_of_getElem? held
      have unknown := steady.unknown regular.fresh inside fails
      rcases known g inside (took ▸ timely) with ⟨_,known⟩ | resting
      · simp [unknown] at known
      · simp [(not_isFinished_of_failure (steady.agrees g inside) fails).2] at resting

private theorem Failing.opened (failing : Failing timer failure [] d) (peaceful : Peaceful [] d) :
    Failing timer failure d.opened.queue { d.opened with queue := [] } := by
  cases failing with
  | yet k regular => exact .yet (k + 1) (regular.opened peaceful)
  | doomed doomed =>
    exact .doomed ⟨(opened_waiting d).symm ▸ doomed.waits,(opened_gathered d).trans doomed.gathered⟩
  | finished stopped => exact .finished ((opened_waiting d).trans stopped)

private theorem Failing.stopped (failing : Failing timer failure [] d)
    (steady : Steady (queries.map fun q => (q,layer q)) [] d) (peaceful : Peaceful [] d)
    (fails : FailsAt layer queries place rounds failure) (quiet : d.isQuiet = true) :
    d.waiting = .stopped (.error failure) := by
  cases failing with
  | finished stopped => exact stopped
  | doomed doomed =>
    have ended := steady.lively.prompted.isOver_of_isSome quiet (by simp [doomed.gathered])
    rcases doomed.waits with waiting | waiting <;> simp [isOver,waiting] at ended
  | yet k regular =>
    obtain ⟨g,held,_,fails⟩ := fails.held steady
    have inside := List.mem_of_getElem? held
    have unknown := steady.unknown regular.fresh inside fails
    rcases (regular.of_isQuiet peaceful quiet).2 g inside with ⟨_,known⟩ | resting
    · simp [unknown] at known
    · simp [(not_isFinished_of_failure (steady.agrees g inside) fails).2] at resting

/-- A request that nobody interrupts fails with the first failure of its queries if its deadline leaves
that the rounds, whatever comes of the other queries. -/
theorem run_firstFailure {deadline : Option Quantity} {passing : Option Nat}
    (ahead : isAhead deadline = true) (unsignalled : ∀ q ∈ queries, (layer q).ending ≠ .signal)
    (first : FirstFailure layer queries place rounds failure)
    (timely : (timerFor passing deadline).covers rounds = true) :
    (run deadline ⟨none,passing⟩ (fresh layer queries)).waiting = .stopped (.error failure) := by
  have some : queries ≠ [] := by
    rintro rfl
    obtain ⟨q,found,_⟩ := first.fails
    cases found
  obtain ⟨steady,peaceful,failing⟩ := run_peaceful
    (P := Failing (timerFor passing deadline) failure) ahead some unsignalled
    (fun _ _ _ steady peaceful failing => failing.perform steady peaceful first timely)
    (fun _ peaceful failing => failing.opened peaceful)
    (.yet 0 (launched_regular layer queries deadline passing))
  exact failing.stopped steady peaceful first.fails (rounds_isQuiet (Nat.le_refl _))

end Run

end ScopedAnalytics.Dispatch
