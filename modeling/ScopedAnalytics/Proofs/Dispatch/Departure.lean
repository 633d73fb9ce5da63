import ScopedAnalytics.Proofs.Dispatch.Settling

/-! How a dispatch begins. Unless its deadline is over or its caller leaves before that, every query
is sent in the first round, in order, whatever comes of those before it. -/
namespace ScopedAnalytics.Dispatch

variable {pending : List Job} {d : Dispatch} {job : Job}

section Sending

structure Sent (d : Dispatch) : Prop where
  queries : d.seen.queries = d.fetches.map (·.query)
  all : ∀ f ∈ d.fetches, f.isSent = true

private theorem turn_queries_of_isSent {f : Fetch} (sent : f.isSent = true) :
    f.turn.trace.queries = [] := by
  have same := f.turn_passage.queries
  have query := f.turn_passage.errand.1
  have still := f.turn_passage.isSent sent
  simpa [Fetch.sent?,sent,still,query] using same

private theorem note_queries {events : Trace} (none : events.queries = []) :
    (d.note events).seen.queries = d.seen.queries := by
  rw [Trace.queries] at none
  unfold note seen
  split
  · simp [Trace.queries,none]
  · simp [Trace.queries,none]

private theorem perform_queries (d : Dispatch) (job : Job) :
    (d.perform job).fetches.map (·.query) = d.fetches.map (·.query) :=
  perform_map job (fun f _ => f.turn_passage.errand.1) (fun _ _ => rfl) (fun f _ => f.cut_query)

theorem Sent.perform (sent : Sent d) (job : Job) : Sent (d.perform job) where
  queries := by
    rw [perform_queries,← sent.queries]
    by_cases own : ∃ place, job = .fetch place
    · obtain ⟨place,rfl⟩ := own
      rw [Dispatch.perform]
      cases found : d.fetches[place]? with
      | none => rw [turn_absent found]
      | some f =>
        have already := sent.all f (List.mem_of_getElem? found)
        rw [turn_found found]
        exact note_queries (turn_queries_of_isSent already)
    · rw [(perform_unseen d job fun place same => own ⟨place,same⟩).seen_eq]
  all := perform_forall (fun f => f.turn_passage.isSent) (fun _ already => already)
    (fun f already => f.cut_isSent.trans already) job sent.all

theorem Sent.opened (sent : Sent d) : Sent { d.opened with queue := [] } where
  queries := by
    rw [opened_seen]
    simpa only [opened_fetches] using sent.queries
  all := by simpa only [opened_fetches] using sent.all

/-- Some queries have reached the layer, in their order, and those after them are next. -/
structure Departing (count : Nat) (pending : List Job) (d : Dispatch) : Prop where
  queries : d.seen.queries = (d.fetches.take count).map (·.query)
  before : ∀ place f, d.fetches[place]? = some f → place < count → f.isSent = true
  after : ∀ place f, d.fetches[place]? = some f → count ≤ place →
    f.stage = .unsent ∧ f.isCut = false
  next : ∃ tail, pending = (List.range' count (d.fetches.length - count)).map .fetch ++ tail
  waits : d.isOver = false
  unfinished : d.aftermath = []

private theorem departure_queries {f : Fetch} (stage : f.stage = .unsent) (uncut : f.isCut = false) :
    f.turn.trace.queries = [f.query] ∧ f.turn.fetch.isSent = true := by
  have same := f.turn_passage.queries
  have query := f.turn_passage.errand.1
  have sent : f.turn.fetch.isSent = true := by
    cases rounds : f.reply.rounds with
    | succ rounds => simp [Fetch.turn,stage,uncut,Fetch.departure,Fetch.patience,Fetch.isSent,rounds]
    | zero =>
      cases ending : f.reply.ending <;>
        simp [Fetch.turn,stage,uncut,Fetch.departure,Fetch.patience,Fetch.arrival,Fetch.ending,
          Fetch.isSent,rounds,ending]
  have unsent : f.isSent = false := by simp [Fetch.isSent,stage]
  refine ⟨?_,sent⟩
  simpa [Fetch.sent?,unsent,sent,query] using same

theorem Departing.perform {count : Nat} (departing : Departing count (job :: pending) d)
    (inside : count < d.fetches.length) : Departing (count + 1) pending (d.perform job) := by
  obtain ⟨tail,same⟩ := departing.next
  obtain ⟨left,more⟩ := Nat.exists_eq_add_one_of_ne_zero (Nat.sub_ne_zero_of_lt inside)
  rw [more,List.range'_succ,List.map_cons,List.cons_append,List.cons.injEq] at same
  obtain ⟨rfl,rfl⟩ := same
  have found : d.fetches[count]? = some d.fetches[count] := List.getElem?_eq_getElem inside
  obtain ⟨stage,uncut⟩ := departing.after count _ found (Nat.le_refl count)
  obtain ⟨queries,sent⟩ := departure_queries stage uncut
  have fetches : (d.perform (.fetch count)).fetches =
      d.fetches.set count d.fetches[count].turn.fetch := by
    rw [Dispatch.perform,turn_fetches found]
  have noted : (d.turn count).trace = d.trace ++ d.fetches[count].turn.trace ∧
      (d.turn count).aftermath = d.aftermath := by
    rw [turn_of_waits departing.waits found]
    exact ⟨rfl,rfl⟩
  constructor
  case queries =>
    have map : (d.perform (.fetch count)).fetches.map (·.query) = d.fetches.map (·.query) :=
      perform_queries d _
    have before := departing.queries
    rw [seen,departing.unfinished,List.append_nil] at before
    rw [List.map_take,map,← List.map_take,List.take_succ_eq_append_getElem inside,List.map_append,
      ← before,Dispatch.perform,seen,noted.1,noted.2,departing.unfinished,List.append_nil,
      Trace.queries,List.filterMap_append]
    exact congrArg _ queries
  case before =>
    intro place f held earlier
    rw [fetches] at held
    rcases getElem?_set_cases held with ⟨rfl,rfl⟩ | ⟨other,held⟩
    · exact sent
    · exact departing.before place f held (by omega)
  case after =>
    intro place f held later
    rw [fetches] at held
    rcases getElem?_set_cases held with ⟨rfl,rfl⟩ | ⟨other,held⟩
    · omega
    · exact departing.after place f held (by omega)
  case next =>
    refine ⟨tail,?_⟩
    rw [fetches,List.length_set]
    congr 3
    omega
  case waits =>
    rw [Dispatch.perform,isOver,turn_waiting]
    exact departing.waits
  case unfinished => exact noted.2.trans departing.unfinished

/-- The queries have been sent, or they are on their way to be. -/
def Underway (pending : List Job) (d : Dispatch) : Prop :=
  Sent d ∨ ∃ count, count < d.fetches.length ∧ Departing count pending d

theorem Underway.perform (underway : Underway (job :: pending) d) :
    Underway pending (d.perform job) := by
  rcases underway with sent | ⟨count,inside,departing⟩
  · exact .inl (sent.perform job)
  · have next := departing.perform inside
    have length : (d.perform job).fetches.length = d.fetches.length := by
      simpa using congrArg List.length (perform_queries d job)
    by_cases more : count + 1 < d.fetches.length
    · exact .inr ⟨count + 1,length.symm ▸ more,next⟩
    · have whole : (d.perform job).fetches.length ≤ count + 1 := by omega
      refine .inl ⟨?_,?_⟩
      · have queries := next.queries
        rwa [List.take_of_length_le whole] at queries
      · intro f member
        obtain ⟨place,held⟩ := List.getElem?_of_mem member
        obtain ⟨bound,_⟩ := List.getElem?_eq_some_iff.mp held
        exact next.before place f held (by omega)

theorem Underway.sent (underway : Underway [] d) : Sent d := by
  rcases underway with sent | ⟨count,inside,departing⟩
  · exact sent
  · obtain ⟨tail,same⟩ := departing.next
    have length := congrArg List.length same
    simp only [List.length_nil,List.length_append,List.length_map,List.length_range'] at length
    omega

end Sending

section Start

/-- Whether a deadline still lies ahead when the request begins to wait, and can be kept. -/
def isAhead : Option Quantity → Bool
  | none => true
  | some seconds => !seconds.isSpent && seconds.approximate?.isSome

/-- What a request with a deadline ahead waits for at first. -/
def waitingFor : Option Quantity → Waiting
  | none => .plain
  | some _ => .timed

def timerFor (passing : Option Nat) : Option Quantity → Timer
  | none => .off
  | some seconds => (seconds.approximate?.map (timerOf passing)).getD .off

theorem timerOf_of_isFinite {x : Binary64} (finite : x.isFinite = true) (passing : Option Nat) :
    timerOf passing x = passing.elim .idle .after := by
  cases x with
  | finite => rfl
  | infinite => cases finite
  | nan => cases finite

theorem timerFor_of_isFinite {seconds : Quantity} {x : Binary64} (kept : seconds.approximate? = some x)
    (finite : x.isFinite = true) (passing : Option Nat) :
    timerFor passing (some seconds) = passing.elim .idle .after := by
  rw [timerFor,kept,Option.map_some,Option.getD_some,timerOf_of_isFinite finite]

/-- The turns of a caller who leaves, from the first round on. -/
def callerOf : Option Nat → List Job
  | some (turns + 2) => [.caller turns]
  | _ => []

def launched (fetches : List Fetch) (waiting : Waiting) (timer : Timer) : Dispatch :=
  { ready fetches waiting (if timer = .after 0 then .off else timer.elapsed) with queue := [] }

/-- The jobs of the first round after those of the queries. -/
def closing (leaving : Option Nat) (timer : Timer) : List Job :=
  callerOf leaving ++ if timer = .after 0 then [.deadline] else []

theorem ready_attended (fetches : List Fetch) (waiting : Waiting) (timer : Timer) :
    Attended [] (ready fetches waiting timer) := by
  intro place f found _
  obtain ⟨inside,_⟩ := List.getElem?_eq_some_iff.mp found
  have turn := List.mem_map_of_mem (f := Job.fetch) (List.mem_range.mpr inside)
  simpa [ahead,ready] using turn

theorem accompany_eq (d : Dispatch) {leaving : Option Nat} (stays : leaving ≠ some 1) :
    d.accompany leaving = { d with queue := d.queue ++ callerOf leaving } := by
  unfold accompany
  split
  · simp [callerOf]
  · simp [callerOf]
  · exact absurd rfl stays
  · rfl

/-- A request begins to wait with the turns of all its queries ahead, unless it has none or its
deadline does not lie ahead, so that all are cut. -/
theorem start_cases (deadline : Option Quantity) (passing : Option Nat) (fetches : List Fetch) :
    fetches = [] ∧ start deadline passing fetches = ready [] (.stopped (.ok [])) .off ∨
    isAhead deadline = true ∧ start deadline passing fetches =
      ready fetches (waitingFor deadline) (timerFor passing deadline) ∨
    isAhead deadline = false ∧
      (start deadline passing fetches = (ready fetches .plain .off).windUp .expiring ∨
        start deadline passing fetches = (ready fetches .plain .off).finish (.error overlong)) := by
  cases void : fetches.isEmpty with
  | true => exact .inl ⟨List.isEmpty_iff.mp void,by simp [start,void]⟩
  | false =>
    refine .inr ?_
    cases deadline with
    | none => exact .inl ⟨rfl,by simp [start,void,waitingFor,timerFor]⟩
    | some seconds =>
      cases spent : seconds.isSpent with
      | true => exact .inr ⟨by simp [isAhead,spent],.inl (by simp [start,void,spent])⟩
      | false =>
        cases kept : seconds.approximate? with
        | none => exact .inr ⟨by simp [isAhead,kept],.inr (by simp [start,void,spent,kept])⟩
        | some x =>
          exact .inl ⟨by simp [isAhead,spent,kept],
            by simp [start,void,spent,kept,waitingFor,timerFor]⟩

theorem start_eq {deadline : Option Quantity} (ahead : isAhead deadline = true)
    (passing : Option Nat) {fetches : List Fetch} (some : fetches ≠ []) :
    start deadline passing fetches =
      ready fetches (waitingFor deadline) (timerFor passing deadline) := by
  rcases start_cases deadline passing fetches with ⟨void,_⟩ | ⟨_,same⟩ | ⟨passed,_⟩
  · exact absurd void some
  · exact same
  · exact absurd ahead (by simp [passed])

/-- The first round of a request whose deadline lies ahead and whose caller stays for it begins with
the turns of all queries. -/
theorem opened_start {deadline : Option Quantity} (ahead : isAhead deadline = true)
    {leaving : Option Nat} (stays : leaving ≠ some 1) (passing : Option Nat) {fetches : List Fetch}
    (some : fetches ≠ []) :
    ((start deadline passing fetches).accompany leaving).opened =
      { launched fetches (waitingFor deadline) (timerFor passing deadline) with
        queue := (List.range fetches.length).map .fetch ++
          closing leaving (timerFor passing deadline) } := by
  rw [start_eq ahead passing some,accompany_eq _ stays]
  have filled : (List.range fetches.length).map Job.fetch ++ callerOf leaving ≠ [] := by
    simpa using fun void => absurd void some
  have busy : ((List.range fetches.length).map Job.fetch ++ callerOf leaving).isEmpty = false :=
    List.isEmpty_eq_false_iff.mpr filled
  have due : ∀ timer : Timer, timer.isDue false = decide (timer = .after 0) := by
    intro timer
    rw [Bool.eq_iff_iff,Timer.isDue_iff]
    simp
  simp only [Dispatch.opened,ready,List.append_nil,busy,due,decide_eq_true_eq,launched,closing]
  split
  · simp
  · simp

theorem waitingFor_eq (deadline : Option Quantity) :
    waitingFor deadline = .plain ∨ waitingFor deadline = .timed := by
  cases deadline with
  | none => exact .inl rfl
  | some seconds => exact .inr rfl

theorem waitingFor_ne_stopped (deadline : Option Quantity)
    (outcome : Except Failure (List (List Row))) : waitingFor deadline ≠ .stopped outcome := by
  rcases waitingFor_eq deadline with waits | waits <;> simp [waits]

theorem begins_waiting {deadline : Option Quantity} (begins : d.waiting = waitingFor deadline) :
    d.isWinding = false ∧ d.isOver = false := by
  rcases waitingFor_eq deadline with waits | waits <;> simp [isWinding,isOver,begins,waits]

/-- What holds as the first round begins, and after each job and each round if before it, holds at
the end of a run. -/
theorem run_of_launched {P : List Job → Dispatch → Prop}
    (step : ∀ job rest d, P (job :: rest) d → P rest (d.perform job))
    (next : ∀ d, P [] d → P d.opened.queue { d.opened with queue := [] })
    {deadline : Option Quantity} (ahead : isAhead deadline = true) {interruption : Interruption}
    (stays : interruption.leaving ≠ some 1) {fetches : List Fetch} (some : fetches ≠ [])
    (base : P ((List.range fetches.length).map .fetch ++
        closing interruption.leaving (timerFor interruption.passing deadline))
      (launched fetches (waitingFor deadline) (timerFor interruption.passing deadline))) :
    P [] (run deadline interruption fetches) := by
  have opened := opened_start ahead stays interruption.passing some
  have busy : ((start deadline interruption.passing fetches).accompany
      interruption.leaving).isQuiet = false := by
    rw [isQuiet,opened]
    simp [some]
  refine run_induction step next busy ?_
  rw [opened]
  exact base

end Start

end ScopedAnalytics.Dispatch
