import ScopedAnalytics.Proofs.Dispatch.Departure
import ScopedAnalytics.Proofs.Dispatch.Progress

/-! How a dispatch ends. When nothing is left to happen, every query has been sent, once and in
order, and what was counted and given up is what the queries came to; if the request has stopped
waiting, no query is left without an end. -/
namespace ScopedAnalytics

/-- What a query was sent for and how the layer takes it. -/
def Fetch.errand (f : Fetch) : Query × Reply (List Row) := (f.query,f.reply)

/-- Whether a query has ended in a way that a query can end which was sent: as its reply says, or
given up. -/
def Fetch.Settled (f : Fetch) : Prop :=
  match f.stage with
  | .ended (.finished rows) => f.reply.ending = .answer rows
  | .ended (.failed failure) => f.reply.ending = .failure failure
  | .ended .givenUp => True
  | _ => False

theorem Fetch.settled {f : Fetch} (agrees : f.Agrees) (sent : f.isSent = true)
    (ended : f.isEnded = true) : f.Settled := by
  cases stage : f.stage with
  | unsent => simp [isEnded,stage] at ended
  | waiting rounds => simp [isEnded,stage] at ended
  | stalled => simp [isEnded,stage] at ended
  | ended fate =>
    cases fate with
    | dropped => simp [isSent,stage] at sent
    | givenUp => simp [Settled,stage]
    | finished rows => simpa [Settled,Agrees,stage] using agrees
    | failed failure => simpa [Settled,Agrees,stage] using agrees

theorem Fetch.Settled.givenUp {f : Fetch} (settled : f.Settled)
    (hangs : f.reply.ending = .silence ∨ f.reply.ending = .signal) :
    f.stage = .ended .givenUp := by
  cases stage : f.stage with
  | unsent => simp [Settled,stage] at settled
  | waiting rounds => simp [Settled,stage] at settled
  | stalled => simp [Settled,stage] at settled
  | ended fate =>
    cases fate with
    | givenUp => rfl
    | dropped => simp [Settled,stage] at settled
    | finished rows => rcases hangs with hangs | hangs <;> simp [Settled,stage,hangs] at settled
    | failed failure => rcases hangs with hangs | hangs <;> simp [Settled,stage,hangs] at settled

theorem Fetch.endless_of_isResting {f : Fetch} (agrees : f.Agrees) (resting : f.isResting = true) :
    f.reply.ending = .silence ∨ f.reply.ending = .signal := by
  cases stage : f.stage with
  | stalled => simpa [Agrees,stage] using agrees
  | unsent => simp [isResting,stage] at resting
  | waiting rounds => simp [isResting,stage] at resting
  | ended fate => simp [isResting,stage] at resting

namespace Dispatch

variable {pending : List Job} {d : Dispatch} {job : Job}
  {errands : List (Query × Reply (List Row))}

structure Steady (errands : List (Query × Reply (List Row))) (pending : List Job) (d : Dispatch) :
    Prop where
  underway : Underway pending d
  attended : Attended pending d
  wound : Wound d
  informed : Informed pending d
  lively : Lively pending d
  agrees : ∀ f ∈ d.fetches, f.Agrees
  counted : d.seen.measurements.Perm (d.fetches.filterMap Fetch.counted?)
  givenUp : d.seen.givenUp.Perm (d.fetches.filterMap Fetch.givenUp?)
  errands : d.fetches.map Fetch.errand = errands

theorem perform_agrees (job : Job) (agrees : ∀ f ∈ d.fetches, f.Agrees) :
    ∀ f ∈ (d.perform job).fetches, f.Agrees :=
  perform_forall (fun f => f.turn_passage.agrees) (fun _ agrees => agrees)
    (fun _ => Fetch.cut_agrees) job agrees

theorem perform_counted (job : Job)
    (counted : d.seen.measurements.Perm (d.fetches.filterMap Fetch.counted?)) :
    (d.perform job).seen.measurements.Perm ((d.perform job).fetches.filterMap Fetch.counted?) :=
  perform_record (fun f => f.turn_passage.measurements) (fun _ => rfl)
    (fun f => by simp [Fetch.counted?,Fetch.measurement]) job counted

theorem perform_errands (d : Dispatch) (job : Job) :
    (d.perform job).fetches.map Fetch.errand = d.fetches.map Fetch.errand := by
  refine perform_map job (fun f _ => ?_) (fun _ _ => rfl) (fun f _ => by simp [Fetch.errand])
  obtain ⟨query,reply,_⟩ := f.turn_passage.errand
  rw [Fetch.errand,query,reply,Fetch.errand]

theorem Steady.perform (steady : Steady errands (job :: pending) d) :
    Steady errands pending (d.perform job) where
  underway := steady.underway.perform
  attended := steady.attended.perform
  wound := steady.wound.perform job
  informed := steady.informed.perform
  lively := steady.lively.perform steady.informed
  agrees := perform_agrees job steady.agrees
  counted := perform_counted job steady.counted
  givenUp := perform_record (fun f => f.turn_passage.givenUps) (fun _ => rfl)
    (fun f => by simp [Fetch.givenUp?]) job steady.givenUp
  errands := (perform_errands d job).trans steady.errands

theorem Steady.opened (steady : Steady errands [] d) :
    Steady errands d.opened.queue { d.opened with queue := [] } where
  underway := .inl steady.underway.sent.opened
  attended := steady.attended.opened
  wound := steady.wound.opened
  informed := steady.informed.opened
  lively := steady.lively.opened
  agrees := by simpa only [opened_fetches] using steady.agrees
  counted := by
    rw [opened_seen]
    simpa only [opened_fetches] using steady.counted
  givenUp := by
    rw [opened_seen]
    simpa only [opened_fetches] using steady.givenUp
  errands := by simpa only [opened_fetches] using steady.errands

def fresh (layer : Layer) (queries : List Query) : List Fetch := queries.map (Fetch.fresh layer)

theorem mem_fresh {layer : Layer} {queries : List Query} {f : Fetch}
    (member : f ∈ fresh layer queries) :
    f.stage = .unsent ∧ f.isCut = false ∧ f.isKnown = false := by
  obtain ⟨query,_,rfl⟩ := List.mem_map.mp member
  exact ⟨rfl,rfl,rfl⟩

theorem fresh_errands (layer : Layer) (queries : List Query) :
    (fresh layer queries).map Fetch.errand = queries.map fun q => (q,layer q) := by
  simp [fresh,Fetch.fresh,Fetch.errand,Function.comp_def]

theorem filterMap_eq_nil {α β : Type} {mark : α → Option β} {items : List α}
    (none : ∀ a ∈ items, mark a = none) : items.filterMap mark = [] :=
  List.filterMap_eq_nil_iff.mpr none

private theorem closing_quiet (leaving : Option Nat) (timer : Timer) (place : Nat) :
    .news place ∉ closing leaving timer := by
  have caller : Job.news place ∉ callerOf leaving := by
    unfold callerOf
    split <;> simp
  unfold closing
  split <;> simp [caller]

private theorem launched_departing (layer : Layer) (queries : List Query)
    (deadline : Option Quantity) (leaving : Option Nat) (timer : Timer) :
    Departing 0 ((List.range (fresh layer queries).length).map .fetch ++ closing leaving timer)
      (launched (fresh layer queries) (waitingFor deadline) timer) where
  queries := rfl
  before _ _ _ impossible := absurd impossible (Nat.not_lt_zero _)
  after := by
    intro place f found _
    obtain ⟨stage,uncut,_⟩ := mem_fresh (List.mem_of_getElem? found)
    exact ⟨stage,uncut⟩
  next := ⟨closing leaving timer,by simp [launched,ready,List.range_eq_range']⟩
  waits := (begins_waiting rfl).2
  unfinished := rfl

private theorem launched_informed (layer : Layer) (queries : List Query)
    (deadline : Option Quantity) (leaving : Option Nat) (timer : Timer) :
    Informed ((List.range (fresh layer queries).length).map .fetch ++ closing leaving timer)
      (launched (fresh layer queries) (waitingFor deadline) timer) where
  told := by
    intro place f member found
    simp [ahead,launched,ready,closing_quiet] at member
  known := by
    intro _ f member known
    obtain ⟨_,_,unknown⟩ := mem_fresh member
    simp [unknown] at known
  gathered rows impossible := by cases impossible
  stopped rows impossible := absurd impossible (waitingFor_ne_stopped deadline _)

private theorem launched_lively (layer : Layer) {queries : List Query} (some : queries ≠ [])
    (deadline : Option Quantity) (leaving : Option Nat) (timer : Timer) :
    Lively ((List.range (fresh layer queries).length).map .fetch ++ closing leaving timer)
      (launched (fresh layer queries) (waitingFor deadline) timer) := by
  refine ⟨?_,?_,⟨fun _ => rfl,fun _ answered => ?_,fun _ called => ?_⟩⟩
  · intro place f found ended
    obtain ⟨stage,_⟩ := mem_fresh (List.mem_of_getElem? found)
    simp [Fetch.isEnded,stage] at ended
  · intro _ _
    obtain ⟨query,member⟩ := List.exists_mem_of_ne_nil queries some
    exact ⟨.fresh layer query,List.mem_map.mpr ⟨query,member,rfl⟩,rfl⟩
  · cases answered
  · cases called

theorem launched_steady (layer : Layer) {queries : List Query} (some : queries ≠ [])
    (deadline : Option Quantity) (leaving : Option Nat) (timer : Timer) :
    Steady (queries.map fun q => (q,layer q))
      ((List.range (fresh layer queries).length).map .fetch ++ closing leaving timer)
      (launched (fresh layer queries) (waitingFor deadline) timer) where
  underway := .inr ⟨0,by simpa [launched,ready,fresh] using List.length_pos_iff.mpr some,
    launched_departing layer queries deadline leaving timer⟩
  attended := by
    intro place f found _
    obtain ⟨inside,_⟩ := List.getElem?_eq_some_iff.mp found
    refine List.mem_append_left _ (List.mem_append_left _ (List.mem_map.mpr ⟨place,?_,rfl⟩))
    exact List.mem_range.mpr inside
  wound winding := absurd winding (Bool.eq_false_iff.mp (begins_waiting rfl).1)
  informed := launched_informed layer queries deadline leaving timer
  lively := launched_lively layer some deadline leaving timer
  agrees := by
    intro f member
    obtain ⟨stage,_⟩ := mem_fresh member
    simp [Fetch.Agrees,stage]
  counted := by
    have none : (fresh layer queries).filterMap Fetch.counted? = [] :=
      filterMap_eq_nil fun f member => by simp [Fetch.counted?,(mem_fresh member).1]
    exact List.Perm.of_eq none.symm
  givenUp := by
    have none : (fresh layer queries).filterMap Fetch.givenUp? = [] :=
      filterMap_eq_nil fun f member => by simp [Fetch.givenUp?,(mem_fresh member).1]
    exact List.Perm.of_eq none.symm
  errands := fresh_errands layer queries

private theorem void_steady (pending : List Job) {d : Dispatch} (void : d.fetches = [])
    (unseen : d.seen = []) (fresh : d.gathered = none) (stopped : d.waiting = .stopped (.ok [])) :
    Steady [] pending d where
  underway := .inl ⟨by rw [unseen,void]; rfl,by simp [void]⟩
  attended := by
    intro place f found
    simp [void] at found
  wound := by simp [Wound,void]
  informed := by
    constructor
    case told => simp [void]
    case known => simp [void]
    case gathered => simp [fresh]
    case stopped =>
      intro rows same
      obtain rfl : [] = rows := by simpa [stopped] using same
      exact ⟨by simp [void],by simp [void]⟩
  lively := by
    have stays : d.isOver = true := by simp [isOver,stopped]
    refine ⟨?_,?_,.of_isOver stays⟩
    · intro place f found
      simp [void] at found
    · intro waits
      exact absurd stays (by simp [waits])
  agrees := by simp [void]
  counted := by
    rw [unseen,void]
    exact .refl _
  givenUp := by
    rw [unseen,void]
    exact .refl _
  errands := by rw [void]; rfl

theorem run_steady (layer : Layer) (queries : List Query) {deadline : Option Quantity}
    (ahead : isAhead deadline = true) {interruption : Interruption}
    (stays : interruption.leaving ≠ some 1) :
    Steady (queries.map fun q => (q,layer q)) [] (run deadline interruption (fresh layer queries)) ∧
      (run deadline interruption (fresh layer queries)).isQuiet = true := by
  refine ⟨?_,rounds_isQuiet (Nat.le_refl _)⟩
  cases queries with
  | nil =>
    have start : ((start deadline interruption.passing []).accompany interruption.leaving) =
        { ready [] (.stopped (.ok [])) .off with queue := callerOf interruption.leaving } := by
      rw [accompany_eq _ stays]
      rfl
    simp only [run,fresh,List.map_nil,start]
    refine rounds_induction (fun _ _ _ steady => steady.perform) (fun _ steady => steady.opened) ?_ _
    exact void_steady [] rfl rfl rfl rfl
  | cons query queries =>
    exact run_of_launched (fun _ _ _ steady => steady.perform) (fun _ steady => steady.opened) ahead
      stays (by simp [fresh]) (launched_steady layer (by simp) deadline _ _)

end Dispatch
end ScopedAnalytics
