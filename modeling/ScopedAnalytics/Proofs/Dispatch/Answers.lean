import ScopedAnalytics.Proofs.Dispatch.Calm

/-! A dispatch all of whose queries have answers. Whatever the rounds that they take, it ends with
all of them, each at the place of its query, if its deadline leaves them the rounds. -/
namespace ScopedAnalytics

/-- Whether a timer lets a query wait for some rounds. -/
def Timer.covers (rounds : Nat) : Timer → Bool
  | after more => decide (rounds ≤ more)
  | off | idle => true

namespace Dispatch

variable {layer : Layer} {queries : List Query} {answers : Query → List Row}

private theorem mem_firstTurns {n : Nat} {job : Job} (member : job ∈ (List.range n).map Job.fetch) :
    ∃ place, job = .fetch place := by
  obtain ⟨place,_,rfl⟩ := List.mem_map.mp member
  exact ⟨place,rfl⟩

private theorem ready_timely {timer : Timer}
    (timely : ∀ q ∈ queries, timer.covers (layer q).rounds = true) (waiting : Waiting) :
    Timely [] (ready (fresh layer queries) waiting timer) := by
  intro place f left rounds found toGo due
  obtain ⟨q,inside,rfl⟩ := List.mem_map.mp (List.mem_of_getElem? found)
  obtain rfl : (layer q).rounds = left := by simpa [Fetch.left?,Fetch.fresh] using toGo
  have covered := timely q inside
  cases timer with
  | off => simp [roundsToGo,ready] at due
  | idle => simp [roundsToGo,ready] at due
  | after more =>
    obtain rfl : more + 1 = rounds := by simpa [roundsToGo,ready] using due
    have bound : (layer q).rounds ≤ more := by simpa [Timer.covers] using covered
    exact .inr (Nat.succ_le_succ bound)

private theorem ready_calm (answered : ∀ q ∈ queries, (layer q).ending = .answer (answers q))
    {timer : Timer} (timely : ∀ q ∈ queries, timer.covers (layer q).rounds = true)
    (deadline : Option Quantity) :
    Calm [] (ready (fresh layer queries) (waitingFor deadline) timer) := by
  constructor
  case waits => exact waitingFor_eq deadline
  case unstruck => rfl
  case late => rfl
  case timely => exact ready_timely timely _
  case answered =>
    intro _ impossible
    cases impossible
  case fetches =>
    intro f member
    obtain ⟨q,inside,rfl⟩ := List.mem_map.mp member
    exact ⟨rfl,⟨answers q,answered q inside⟩,.inl rfl⟩
  case jobs =>
    intro job member
    obtain ⟨place,rfl⟩ := mem_firstTurns member
    rfl
  case release =>
    intro member
    obtain ⟨place,same⟩ := mem_firstTurns member
    cases same
  case request =>
    intro before after same
    obtain ⟨place,impossible⟩ := mem_firstTurns (same ▸ List.mem_append_right before List.mem_cons_self)
    cases impossible
  case last => simp
  case undated =>
    intro member
    obtain ⟨place,same⟩ := mem_firstTurns member
    cases same

private theorem launched_undisturbed {deadline : Option Quantity} (ahead : isAhead deadline = true)
    {passing : Option Nat} (some : queries ≠ [])
    (answered : ∀ q ∈ queries, (layer q).ending = .answer (answers q))
    (timely : ∀ q ∈ queries, (timerFor passing deadline).covers (layer q).rounds = true) :
    Undisturbed ((List.range (fresh layer queries).length).map .fetch ++
        closing none (timerFor passing deadline))
      (launched (fresh layer queries) (waitingFor deadline) (timerFor passing deadline)) := by
  have filled : fresh layer queries ≠ [] := by simpa [fresh] using some
  have stays : (none : Option Nat) ≠ Option.some 1 := by simp
  have opened := opened_start ahead stays passing filled
  rw [accompany,start_eq ahead passing filled] at opened
  have calm : Undisturbed [] (ready (fresh layer queries) (waitingFor deadline)
      (timerFor passing deadline)) := .inr (ready_calm answered timely deadline)
  have first := calm.opened (ready_attended _ _ _)
  rwa [opened] at first

private theorem run_undisturbed {deadline : Option Quantity} (ahead : isAhead deadline = true)
    {passing : Option Nat} (answered : ∀ q ∈ queries, (layer q).ending = .answer (answers q))
    (timely : ∀ q ∈ queries, (timerFor passing deadline).covers (layer q).rounds = true) :
    Steady (queries.map fun q => (q,layer q)) []
        (run deadline ⟨none,passing⟩ (fresh layer queries)) ∧
      ∃ rows, (run deadline ⟨none,passing⟩ (fresh layer queries)).waiting = .stopped (.ok rows) := by
  have stays : (⟨none,passing⟩ : Interruption).leaving ≠ some 1 := by simp
  obtain ⟨steady,quiet⟩ := run_steady layer queries ahead stays
  refine ⟨steady,?_⟩
  cases queries with
  | nil => exact ⟨[],rfl⟩
  | cons query queries =>
    have both := run_of_launched
      (P := fun pending d => Steady ((query :: queries).map fun q => (q,layer q)) pending d ∧
        Undisturbed pending d)
      (fun _ _ _ held => ⟨held.1.perform,held.2.perform held.1⟩)
      (fun _ held => ⟨held.1.opened,held.2.opened held.1.attended⟩) ahead stays
      (by simp [fresh] : fresh layer (query :: queries) ≠ [])
      ⟨launched_steady layer (by simp) deadline _ _,
        launched_undisturbed ahead (by simp) answered timely⟩
    exact both.2.stopped steady quiet

private theorem stage_of_agrees {f : Fetch} {rows : List Row} (agrees : f.Agrees)
    (finished : f.isFinished = true) (answer : f.reply.ending = .answer rows) :
    f.stage = .ended (.finished rows) := by
  cases stage : f.stage with
  | ended fate =>
    cases fate with
    | finished held =>
      have same : f.reply.ending = .answer held := by simpa [Fetch.Agrees,stage] using agrees
      rw [Ending.answer.inj (answer.symm.trans same)]
    | failed failure => simp [Fetch.isFinished,stage] at finished
    | givenUp => simp [Fetch.isFinished,stage] at finished
    | dropped => simp [Fetch.isFinished,stage] at finished
  | unsent => simp [Fetch.isFinished,stage] at finished
  | waiting rounds => simp [Fetch.isFinished,stage] at finished
  | stalled => simp [Fetch.isFinished,stage] at finished

private theorem Steady.map_eq {β : Type} {d : Dispatch} {view : Fetch → β} {image : Query → β}
    (steady : Steady (queries.map fun q => (q,layer q)) [] d)
    (same : ∀ f ∈ d.fetches, f.query ∈ queries → f.reply = layer f.query → view f = image f.query) :
    d.fetches.map view = queries.map image := by
  calc d.fetches.map view
      = d.fetches.map fun f => image f.errand.1 := by
        refine List.map_congr_left fun f member => ?_
        have errand : f.errand ∈ queries.map fun q => (q,layer q) :=
          steady.errands ▸ List.mem_map_of_mem member
        obtain ⟨q,inside,equal⟩ := List.mem_map.mp errand
        obtain ⟨rfl,reply⟩ := Prod.mk.inj equal
        exact same f member inside reply.symm
    _ = (d.fetches.map Fetch.errand).map fun errand => image errand.1 := by
        rw [List.map_map]
        rfl
    _ = queries.map image := by
        rw [steady.errands,List.map_map]
        rfl

/-- What is remarked of the queries on their way is remarked of those that were asked for, in order. -/
theorem Steady.filterMap_eq {β : Type} {d : Dispatch} {mark : Fetch → Option β}
    {image : Query → Option β} (steady : Steady (queries.map fun q => (q,layer q)) [] d)
    (same : ∀ f ∈ d.fetches, f.query ∈ queries → f.reply = layer f.query → mark f = image f.query) :
    d.fetches.filterMap mark = queries.filterMap image := by
  have joined := congrArg (List.filterMap id) (steady.map_eq same)
  simpa only [List.filterMap_map,Function.id_comp] using joined

/-- Whatever the rounds that the answers take, a run that nothing disturbs ends with all of them,
each at the place of its query, and each is counted once. -/
theorem run_answers {deadline : Option Quantity} (ahead : isAhead deadline = true)
    {passing : Option Nat} (answered : ∀ q ∈ queries, (layer q).ending = .answer (answers q))
    (timely : ∀ q ∈ queries, (timerFor passing deadline).covers (layer q).rounds = true) :
    (run deadline ⟨none,passing⟩ (fresh layer queries)).waiting = .stopped (.ok (queries.map answers)) ∧
      (run deadline ⟨none,passing⟩ (fresh layer queries)).seen.measurements.Perm
        (queries.map fun q => (Fetch.fresh layer q).measurement (answers q)) := by
  obtain ⟨steady,rows,stopped⟩ := run_undisturbed ahead answered timely
  obtain ⟨finished,rfl⟩ := steady.informed.stopped rows stopped
  generalize run deadline ⟨none,passing⟩ (fresh layer queries) = d at steady stopped finished
  have stage (f : Fetch) (member : f ∈ d.fetches) (asked : f.query ∈ queries)
      (reply : f.reply = layer f.query) : f.stage = .ended (.finished (answers f.query)) :=
    stage_of_agrees (steady.agrees f member) (finished f member) (reply ▸ answered _ asked)
  constructor
  · rw [stopped,steady.map_eq fun f member asked reply => ?_]
    rw [Fetch.rows,stage f member asked reply]
  · refine steady.counted.trans (List.Perm.of_eq ?_)
    calc d.fetches.filterMap Fetch.counted?
        = queries.filterMap fun q => some ((Fetch.fresh layer q).measurement (answers q)) := by
          refine steady.filterMap_eq fun f member asked reply => ?_
          rw [Fetch.counted?,stage f member asked reply]
          simp [Fetch.measurement,Fetch.fresh,reply]
      _ = queries.map fun q => (Fetch.fresh layer q).measurement (answers q) :=
          congrFun List.filterMap_eq_map queries

end Dispatch
end ScopedAnalytics
