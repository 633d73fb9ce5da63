import ScopedAnalytics.Proofs.Dispatch.Schedule
import ScopedAnalytics.Proofs.Dispatch.Verdicts

/-! What a request comes to whose deadline passes before it has its answers. It gives its queries up
and fails as late once they have ended; those that had their answers keep them. -/
namespace ScopedAnalytics

namespace Ending
variable {α : Type}

def answer? : Ending α → Option α
  | answer value => some value
  | _ => none

def isSilence : Ending α → Bool
  | silence => true
  | _ => false

end Ending

def answersOf (layer : Layer) (queries : List Query) : List (Query × List Row) :=
  queries.filterMap fun q => (layer q).ending.answer?.map fun rows => (q,rows)

def endlessOf (layer : Layer) (queries : List Query) : List Query :=
  queries.filter fun q => (layer q).ending.isSilence

theorem mem_endlessOf {layer : Layer} {queries : List Query} {q : Query} :
    q ∈ endlessOf layer queries ↔ q ∈ queries ∧ (layer q).ending = .silence := by
  rw [endlessOf,List.mem_filter]
  cases (layer q).ending <;> simp [Ending.isSilence]

/-- Whether a query has no failure of its own and gets none: it has its answer, it was given up or
never sent, or it is cut before it has ended. -/
def Fetch.Harmless (f : Fetch) : Prop :=
  match f.stage with
  | .ended (.failed _) => False
  | .ended _ => True
  | _ => f.isCut = true

namespace Fetch
variable {f : Fetch}

private theorem Harmless.isCut (harmless : f.Harmless) {rounds : Nat} {seen : Trace}
    (bound : f.Bound rounds seen) : f.isCut = true := by
  cases bound with
  | unsent stage => simpa [Harmless,stage] using harmless
  | waiting _ stage => simpa [Harmless,stage] using harmless

theorem Harmless.turn (harmless : f.Harmless) : f.turn.fetch.Harmless := by
  have passage := f.turn_passage
  generalize f.turn.fetch = g at passage ⊢
  generalize f.turn.trace = seen at passage
  generalize f.turn.call = call at passage
  cases passage with
  | still => exact harmless
  | dropped => trivial
  | givenUp => trivial
  | waits _ _ bound uncut => simp [harmless.isCut bound] at uncut
  | finished _ _ bound uncut => simp [harmless.isCut bound] at uncut
  | failed _ _ bound uncut => simp [harmless.isCut bound] at uncut
  | silent _ bound uncut => simp [harmless.isCut bound] at uncut
  | signalled _ bound uncut => simp [harmless.isCut bound] at uncut

theorem cut_harmless (unfailed : ∀ failure, f.stage ≠ .ended (.failed failure)) : f.cut.Harmless := by
  cases stage : f.stage with
  | ended fate =>
    cases fate with
    | failed failure => exact absurd stage (unfailed failure)
    | _ => simp [Harmless,stage]
  | _ => simp [Harmless,cut_of_not_ended,isEnded,stage]

theorem Harmless.cut (harmless : f.Harmless) : f.cut.Harmless := by
  refine cut_harmless fun failure stage => ?_
  simp [Harmless,stage] at harmless

theorem Harmless.turn_isFinished (harmless : f.Harmless) (unfinished : f.isFinished = false) :
    f.turn.fetch.isFinished = false := by
  have passage := f.turn_passage
  generalize f.turn.fetch = g at passage ⊢
  generalize f.turn.trace = seen at passage
  generalize f.turn.call = call at passage
  cases passage with
  | still => exact unfinished
  | finished _ _ bound uncut => simp [harmless.isCut bound] at uncut
  | _ => rfl

/-- Whether a query has its answer, if the layer ever answers it. -/
def IsThrough (f : Fetch) : Prop := f.reply.ending = .silence ∨ f.isFinished = true

/-- What is counted and given up of a query that has ended and has its answer if there is one. -/
theorem IsThrough.marks (through : f.IsThrough) (agrees : f.Agrees)
    (settled : f.Settled) :
    f.counted? = f.reply.ending.answer?.map f.measurement ∧
      f.givenUp? = if f.reply.ending.isSilence then some f.query.resource else none := by
  rcases through with silence | finished
  · have stage := settled.givenUp (.inl silence)
    simp [counted?,givenUp?,stage,silence,Ending.answer?,Ending.isSilence]
  · have stage := stage_of_isFinished finished
    have answer : f.reply.ending = .answer f.rows := by simpa [Agrees,stage] using agrees
    simp [counted?,givenUp?,stage,answer,Ending.answer?,Ending.isSilence]

end Fetch

namespace Dispatch

variable {pending : List Job} {d : Dispatch} {job : Job} {timer : Timer} {k : Nat}
  {layer : Layer} {queries : List Query} {deadline : Option Quantity} {passing : Option Nat}

section Lapse

/-- A request that gave its queries up because its deadline passed, and waits for them to end. -/
structure Lapsed (d : Dispatch) : Prop where
  waits : d.waiting = .expiring
  gathered : ∀ answers, d.gathered = some answers → ∃ f, answers = .error f ∧ f.kind = .cancelled
  harmless : ∀ f ∈ d.fetches, f.Harmless
  missing : ∃ f ∈ d.fetches, f.Harmless ∧ f.isFinished = false

/-- The first news of a query that was given up is all that such a request gathers. -/
private theorem Lapsed.news {place : Nat} {f : Fetch} (lapsed : Lapsed d)
    (informed : Informed (.news place :: pending) d) (fresh : d.gathered = none)
    (held : d.fetches[place]? = some f) {answers : Except Failure (List (List Row))}
    (news : news? (d.mark place f).fetches f = some answers) : answers = .error .cancellation := by
  have harmless := lapsed.harmless f (List.mem_of_getElem? held)
  cases stage : f.stage with
  | unsent => simp [news?,stage] at news
  | waiting rounds => simp [news?,stage] at news
  | stalled => simp [news?,stage] at news
  | ended fate =>
    cases fate with
    | failed failure => simp [Fetch.Harmless,stage] at harmless
    | givenUp => simpa [news?,stage] using news.symm
    | dropped => simpa [news?,stage] using news.symm
    | finished rows =>
      obtain ⟨g,member,_,unfinished⟩ := lapsed.missing
      have finished : f.isFinished = true := by simp [Fetch.isFinished,stage]
      rw [informed.news?_of_missing fresh held finished member unfinished] at news
      cases news

private theorem Lapsed.perform_gathered (lapsed : Lapsed d) (informed : Informed (job :: pending) d) :
    ∀ answers, (d.perform job).gathered = some answers →
      ∃ f, answers = .error f ∧ f.kind = .cancelled := by
  intro answers gathered
  by_cases own : ∃ told, job = .news told
  · obtain ⟨told,rfl⟩ := own
    cases held : d.fetches[told]? with
    | none =>
      rw [Dispatch.perform,learn_absent held] at gathered
      exact lapsed.gathered answers gathered
    | some f =>
      rw [Dispatch.perform,learn_gathered held,Option.or_eq_some_iff] at gathered
      rcases gathered with before | ⟨fresh,news⟩
      · exact lapsed.gathered answers before
      · exact ⟨_,lapsed.news informed fresh held news,rfl⟩
  · rw [Dispatch.perform_gathered d fun told same => own ⟨told,same⟩] at gathered
    exact lapsed.gathered answers gathered

/-- At its turn, a request that gave its queries up fails as late, and no job before changes that. -/
theorem Lapsed.perform (lapsed : Lapsed d) (informed : Informed (job :: pending) d)
    (unstruck : d.isStruck = false) :
    Lapsed (d.perform job) ∨ (d.perform job).waiting = .stopped (.error lateness) := by
  by_cases own : job = .request
  · subst own
    refine .inr ?_
    cases gathered : d.gathered with
    | none => simp [Dispatch.perform,resume,lapsed.waits,gathered,unstruck,finish]
    | some answers =>
      obtain ⟨f,rfl,cancelled⟩ := lapsed.gathered answers gathered
      simp [Dispatch.perform,resume,lapsed.waits,gathered,unstruck,finish,belated,cancelled]
  · refine .inl ⟨(perform_waiting d own).trans lapsed.waits,lapsed.perform_gathered informed,?_,?_⟩
    · exact perform_forall (P := Fetch.Harmless) (fun _ => Fetch.Harmless.turn)
        (fun _ harmless => harmless) (fun _ harmless => harmless.cut) job lapsed.harmless
    · exact perform_exists (P := fun f => f.Harmless ∧ f.isFinished = false)
        (fun f before => ⟨before.1.turn,before.1.turn_isFinished before.2⟩) (fun _ before => before)
        (fun f before => ⟨before.1.cut,f.cut_isFinished.trans before.2⟩) job lapsed.missing

theorem Lapsed.opened (lapsed : Lapsed d) : Lapsed { d.opened with queue := [] } where
  waits := (opened_waiting d).trans lapsed.waits
  gathered := by
    rw [opened_gathered]
    exact lapsed.gathered
  harmless := by simpa only [opened_fetches] using lapsed.harmless
  missing := by simpa only [opened_fetches] using lapsed.missing

theorem Lapsed.not_isQuiet (lapsed : Lapsed d) (informed : Informed [] d) (lively : Lively [] d)
    (attended : Attended [] d) (wound : Wound d) : d.isQuiet = false := by
  cases quiet : d.isQuiet with
  | false => rfl
  | true =>
    have waits : d.isOver = false := by simp [isOver,lapsed.waits]
    have winding : d.isWinding = true := by simp [isWinding,lapsed.waits]
    have answered : d.gathered.isSome = true := by
      cases gathered : d.gathered with
      | some answers => rfl
      | none =>
        obtain ⟨f,member,_,unfinished⟩ := lapsed.missing
        have ended := wound.isEnded winding attended quiet f member
        have known := lively.reported.isKnown quiet member ended
        simp [informed.known gathered f member known] at unfinished
    simp [lively.prompted.isOver_of_isSome quiet answered] at waits

/-- What a request comes to that gave its queries up because its deadline passed. -/
inductive Lapsing (d : Dispatch) : Prop
  | waits (lapsed : Lapsed d)
  | finished (stopped : d.waiting = .stopped (.error lateness))

theorem Lapsing.perform (lapsing : Lapsing d) (informed : Informed (job :: pending) d)
    (unstruck : d.isStruck = false) : Lapsing (d.perform job) := by
  cases lapsing with
  | waits lapsed =>
    rcases lapsed.perform informed unstruck with lapsed | stopped
    · exact .waits lapsed
    · exact .finished stopped
  | finished stopped =>
    have stays : d.isOver = true := by simp [isOver,stopped]
    exact .finished ((perform_waiting_of_isOver stays job).trans stopped)

theorem Lapsing.opened (lapsing : Lapsing d) : Lapsing { d.opened with queue := [] } := by
  cases lapsing with
  | waits lapsed => exact .waits lapsed.opened
  | finished stopped => exact .finished ((opened_waiting d).trans stopped)

theorem Lapsing.stopped (lapsing : Lapsing d) (informed : Informed [] d) (lively : Lively [] d)
    (attended : Attended [] d) (wound : Wound d) (quiet : d.isQuiet = true) :
    d.waiting = .stopped (.error lateness) := by
  cases lapsing with
  | waits lapsed => simp [lapsed.not_isQuiet informed lively attended wound] at quiet
  | finished stopped => exact stopped

end Lapse

section Spent
variable {seconds : Quantity}

/-- A request whose queries are cut before they are sent. -/
private structure Withdrawn (pending : List Job) (d : Dispatch) : Prop where
  informed : Informed pending d
  lively : Lively pending d
  attended : Attended pending d
  wound : Wound d
  peaceful : Peaceful pending d
  lapsing : Lapsing d

private theorem Withdrawn.perform (withdrawn : Withdrawn (job :: pending) d) :
    Withdrawn pending (d.perform job) where
  informed := withdrawn.informed.perform
  lively := withdrawn.lively.perform withdrawn.informed
  attended := withdrawn.attended.perform
  wound := withdrawn.wound.perform job
  peaceful := withdrawn.peaceful.perform
  lapsing := withdrawn.lapsing.perform withdrawn.informed withdrawn.peaceful.unstruck

private theorem Withdrawn.opened (withdrawn : Withdrawn [] d) :
    Withdrawn d.opened.queue { d.opened with queue := [] } where
  informed := withdrawn.informed.opened
  lively := withdrawn.lively.opened
  attended := withdrawn.attended.opened
  wound := withdrawn.wound.opened
  peaceful := withdrawn.peaceful.opened
  lapsing := withdrawn.lapsing.opened

private theorem mem_withdrawn {f : Fetch} (member : f ∈ (fresh layer queries).map Fetch.cut) :
    f.stage = .unsent ∧ f.isCut = true ∧ f.isKnown = false := by
  obtain ⟨g,inside,rfl⟩ := List.mem_map.mp member
  obtain ⟨stage,_,unknown⟩ := mem_fresh inside
  rw [Fetch.cut_of_not_ended (by simp [Fetch.isEnded,stage])]
  exact ⟨stage,rfl,unknown⟩

private theorem start_withdrawn (layer : Layer) (some : queries ≠ [])
    (same : d = (ready (fresh layer queries) .plain .off).windUp .expiring)
    (informed : Informed [] d) (turns : ∀ job ∈ ahead [] d, ∃ place, job = .fetch place) :
    Withdrawn [] d := by
  have fetches : d.fetches = (fresh layer queries).map Fetch.cut := same ▸ rfl
  have waiting : d.waiting = .expiring := same ▸ rfl
  have fresh : d.gathered = none := same ▸ rfl
  have uncalled : d.isCalled = false := same ▸ rfl
  have late : d.late = [] := same ▸ rfl
  have cut {f : Fetch} (member : f ∈ d.fetches) :
      f.stage = .unsent ∧ f.isCut = true ∧ f.isKnown = false :=
    mem_withdrawn (fetches ▸ member)
  have harmless : ∀ f ∈ d.fetches, f.Harmless := by
    intro f member
    obtain ⟨stage,cut,_⟩ := cut member
    simp [Fetch.Harmless,stage,cut]
  obtain ⟨f,first⟩ : ∃ f, f ∈ d.fetches := by
    obtain ⟨q,asked⟩ := List.exists_mem_of_ne_nil queries some
    exact ⟨(Fetch.fresh layer q).cut,fetches ▸ List.mem_map_of_mem (List.mem_map_of_mem asked)⟩
  constructor
  case informed => exact informed
  case lively =>
    refine ⟨fun place f found ended => ?_,fun _ _ => ⟨f,first,(cut first).2.2⟩,?_⟩
    · simp [Fetch.isEnded,(cut (List.mem_of_getElem? found)).1] at ended
    · exact ⟨by simp [waiting],by simp [fresh],by simp [uncalled]⟩
  case attended =>
    intro place f found _
    obtain ⟨inside,_⟩ := List.getElem?_eq_some_iff.mp found
    have placed : place < queries.length := by simpa [fetches,Dispatch.fresh] using inside
    simp [ahead,same,windUp,cutAll,ready,Dispatch.fresh,placed]
  case wound => exact fun _ f member => .inl (cut member).2.1
  case peaceful =>
    refine ⟨fun job member => ?_,fun f member => .inr (.inl (cut member).2.1),same ▸ rfl,late⟩
    obtain ⟨place,rfl⟩ := turns job (by simpa [ahead,late] using member)
    rfl
  case lapsing =>
    refine .waits ⟨waiting,by simp [fresh],harmless,f,first,harmless f first,?_⟩
    simp [Fetch.isFinished,(cut first).1]

/-- A request whose deadline has passed as it begins to wait fails as late if it has any query. -/
theorem run_spent (spent : seconds.isSpent = true) (some : queries ≠ []) :
    (run (.some seconds) ⟨none,passing⟩ (fresh layer queries)).waiting =
      .stopped (.error lateness) := by
  have same : start (.some seconds) passing (fresh layer queries) =
      (ready (fresh layer queries) .plain .off).windUp .expiring := by
    have filled : (fresh layer queries).isEmpty = false := by simpa [fresh] using some
    simp [start,filled,spent]
  have base := start_withdrawn layer some same (start_informed (.some seconds) passing layer queries)
    fun _ => start_turns
  have withdrawn : Withdrawn [] (run (.some seconds) ⟨none,passing⟩ (fresh layer queries)) :=
    rounds_induction (fun _ _ _ => Withdrawn.perform) (fun _ => Withdrawn.opened) base _
  exact withdrawn.lapsing.stopped withdrawn.informed withdrawn.lively withdrawn.attended
    withdrawn.wound (rounds_isQuiet (Nat.le_refl _))

theorem run_of_start {interruption : Interruption} {fetches : List Fetch}
    {outcome : Except Failure (List (List Row))}
    (stopped : (start deadline interruption.passing fetches).waiting = .stopped outcome) :
    (run deadline interruption fetches).waiting = .stopped outcome := by
  refine run_invariant (P := fun d => d.waiting = .stopped outcome) (fun d job stopped => ?_)
    (fun d stopped => (opened_waiting d).trans stopped) deadline _ stopped
  have stays : d.isOver = true := by simp [isOver,stopped]
  exact (perform_waiting_of_isOver stays job).trans stopped

theorem run_overlong (unspent : seconds.isSpent = false) (overlarge : seconds.approximate? = none)
    (some : queries ≠ []) : (run (.some seconds) ⟨none,passing⟩ (fresh layer queries)).waiting =
      .stopped (.error overlong) := by
  have filled : (fresh layer queries).isEmpty = false := by simpa [fresh] using some
  exact run_of_start (by simp [start,filled,unspent,overlarge,finish])

end Spent

section Expired

/-- The layer leaves each query without an end or answers it in the rounds that a timer leaves. -/
def Served (timer : Timer) (layer : Layer) (queries : List Query) : Prop :=
  ∀ q ∈ queries, (layer q).ending = .silence ∨
    (∃ rows, (layer q).ending = .answer rows) ∧ timer.covers (layer q).rounds = true

private theorem Served.reply (served : Served timer layer queries)
    (steady : Steady (queries.map fun q => (q,layer q)) pending d) {f : Fetch}
    (member : f ∈ d.fetches) : f.reply.ending = .silence ∨
      (∃ rows, f.reply.ending = .answer rows) ∧ timer.covers f.reply.rounds = true := by
  have errand : f.errand ∈ queries.map fun q => (q,layer q) :=
    steady.errands ▸ List.mem_map_of_mem member
  obtain ⟨q,asked,same⟩ := List.mem_map.mp errand
  obtain ⟨_,reply⟩ := Prod.mk.inj same
  exact reply ▸ served q asked

private theorem perform_isThrough (through : ∀ f ∈ d.fetches, f.IsThrough) (job : Job) :
    ∀ f ∈ (d.perform job).fetches, f.IsThrough := by
  refine perform_forall (fun f before => ?_) (fun _ before => before) (fun f before => ?_) job through
  · rcases before with silence | finished
    · exact .inl (f.turn_passage.errand.2.1.symm ▸ silence)
    · rw [Fetch.turn_of_ended (Fetch.isEnded_of_isFinished finished)]
      exact .inr finished
  · rwa [Fetch.IsThrough,f.cut_reply,f.cut_isFinished]

/-- What a request comes to whose queries are answered or left without an end. -/
inductive Overdue (timer : Timer) (pending : List Job) (d : Dispatch) : Prop
  | yet (k : Nat) (regular : Regular timer k pending d)
  | lapsing (armed : timer ≠ .off) (lapsing : Lapsing d) (through : ∀ f ∈ d.fetches, f.IsThrough)

private theorem unfinished_of_silence {f : Fetch} (agrees : f.Agrees)
    (silence : f.reply.ending = .silence) : f.isFinished = false := by
  cases finished : f.isFinished with
  | false => rfl
  | true => simp [Fetch.Agrees,Fetch.stage_of_isFinished finished,silence] at agrees

private theorem Served.unfailed (served : Served timer layer queries)
    (steady : Steady (queries.map fun q => (q,layer q)) pending d) {f : Fetch}
    (member : f ∈ d.fetches) (failure : Failure) : f.stage ≠ .ended (.failed failure) := by
  intro stage
  have agrees := steady.agrees f member
  rw [Fetch.Agrees,stage] at agrees
  rcases served.reply steady member with silence | ⟨⟨rows,answer⟩,_⟩
  · cases silence.symm.trans agrees
  · cases answer.symm.trans agrees

private theorem Served.isFinished (served : Served timer layer queries)
    (steady : Steady (queries.map fun q => (q,layer q)) pending d) {f : Fetch}
    (member : f ∈ d.fetches) (replied : f.hasReplied = true) : f.isFinished = true := by
  cases stage : f.stage with
  | ended fate =>
    cases fate with
    | finished rows => simp [Fetch.isFinished,stage]
    | failed failure => exact absurd stage (served.unfailed steady member failure)
    | givenUp => simp [Fetch.hasReplied,stage] at replied
    | dropped => simp [Fetch.hasReplied,stage] at replied
  | unsent => simp [Fetch.hasReplied,stage] at replied
  | waiting rounds => simp [Fetch.hasReplied,stage] at replied
  | stalled => simp [Fetch.hasReplied,stage] at replied

private theorem windUp_lapsing (regular : Regular timer k (job :: pending) d)
    (served : Served timer layer queries)
    (steady : Steady (queries.map fun q => (q,layer q)) (job :: pending) d) {g : Fetch}
    (silent : g ∈ d.fetches) (silence : g.reply.ending = .silence)
    (known : ∀ f ∈ d.fetches, timer.covers f.reply.rounds = true →
      (f.hasReplied = true ∧ f.isKnown = true) ∨ f.isResting = true) :
    Lapsing (d.windUp .expiring) ∧ ∀ f ∈ (d.windUp .expiring).fetches, f.IsThrough := by
  have harmless {f : Fetch} (member : f ∈ d.fetches) : f.cut.Harmless :=
    Fetch.cut_harmless (served.unfailed steady member)
  have missing : g.cut.isFinished = false :=
    g.cut_isFinished.trans (unfinished_of_silence (steady.agrees g silent) silence)
  refine ⟨.waits ⟨rfl,?_,?_,?_⟩,?_⟩
  · exact fun answers gathered => by cases regular.fresh.symm.trans gathered
  · intro f member
    obtain ⟨f,inside,rfl⟩ := List.mem_map.mp member
    exact harmless inside
  · exact ⟨g.cut,List.mem_map_of_mem silent,harmless silent,missing⟩
  · intro f member
    obtain ⟨f,inside,rfl⟩ := List.mem_map.mp member
    rw [Fetch.IsThrough,f.cut_reply,f.cut_isFinished]
    rcases served.reply steady inside with silence | ⟨⟨rows,answer⟩,covered⟩
    · exact .inl silence
    · refine .inr (served.isFinished steady inside ?_)
      rcases known f inside covered with ⟨replied,_⟩ | resting
      · exact replied
      · rcases Fetch.endless_of_isResting (steady.agrees f inside) resting with endless | endless <;>
          cases answer.symm.trans endless

private theorem Overdue.perform (overdue : Overdue timer (job :: pending) d)
    (served : Served timer layer queries) (silent : ∃ q ∈ queries, (layer q).ending = .silence)
    (steady : Steady (queries.map fun q => (q,layer q)) (job :: pending) d)
    (peaceful : Peaceful (job :: pending) d) : Overdue timer pending (d.perform job) := by
  cases overdue with
  | lapsing armed lapsing through =>
    exact .lapsing armed (lapsing.perform steady.informed peaceful.unstruck)
      (perform_isThrough through job)
  | yet k regular =>
    obtain ⟨g,inside,silence⟩ : ∃ g ∈ d.fetches, g.reply.ending = .silence := by
      obtain ⟨q,asked,silence⟩ := silent
      have errand : (q,layer q) ∈ d.fetches.map Fetch.errand := by
        rw [steady.errands]
        exact List.mem_map_of_mem asked
      obtain ⟨g,inside,same⟩ := List.mem_map.mp errand
      obtain ⟨_,reply⟩ := Prod.mk.inj same
      exact ⟨g,inside,reply ▸ silence⟩
    rcases regular.perform steady peaceful with
      regular | ⟨place,f,answers,rfl,held,news,_⟩ | ⟨rfl,timed,armed,known⟩
    · exact .yet k regular
    · have ended := steady.informed.told place f List.mem_cons_self held
      have finished := served.isFinished steady (List.mem_of_getElem? held)
        (regular.replied ended held).1
      have missing := unfinished_of_silence (steady.agrees g inside) silence
      rw [steady.informed.news?_of_missing regular.fresh held finished inside missing] at news
      cases news
    · have turn : d.perform .request = d.windUp .expiring := by
        simp [Dispatch.perform,resume,timed,regular.fresh,peaceful.unstruck]
      obtain ⟨lapsing,through⟩ := windUp_lapsing regular served steady inside silence known
      rw [turn]
      exact .lapsing armed lapsing through

private theorem Overdue.opened (overdue : Overdue timer [] d) (peaceful : Peaceful [] d) :
    Overdue timer d.opened.queue { d.opened with queue := [] } := by
  cases overdue with
  | yet k regular => exact .yet (k + 1) (regular.opened peaceful)
  | lapsing armed lapsing through =>
    exact .lapsing armed lapsing.opened (by simpa only [opened_fetches] using through)

private theorem run_overdue (ahead : isAhead deadline = true)
    (served : Served (timerFor passing deadline) layer queries)
    (silent : ∃ q ∈ queries, (layer q).ending = .silence) :
    Steady (queries.map fun q => (q,layer q)) []
        (run deadline ⟨none,passing⟩ (fresh layer queries)) ∧
      Peaceful [] (run deadline ⟨none,passing⟩ (fresh layer queries)) ∧
      Overdue (timerFor passing deadline) []
        (run deadline ⟨none,passing⟩ (fresh layer queries)) := by
  have some : queries ≠ [] := by
    rintro rfl
    obtain ⟨q,asked,_⟩ := silent
    cases asked
  have unsignalled : ∀ q ∈ queries, (layer q).ending ≠ .signal := by
    intro q asked signal
    rcases served q asked with silence | ⟨⟨rows,answer⟩,_⟩
    · cases silence.symm.trans signal
    · cases answer.symm.trans signal
  exact run_peaceful (P := Overdue (timerFor passing deadline)) ahead some unsignalled
    (fun _ _ _ steady peaceful overdue => overdue.perform served silent steady peaceful)
    (fun _ peaceful overdue => overdue.opened peaceful)
    (.yet 0 (launched_regular layer queries deadline passing))

/-- A request some of whose queries the layer leaves without an end, and answers all others in time,
fails as late once its deadline passes. It gives up exactly the queries that have no end, and the
answers of the others are counted. -/
theorem run_expired (ahead : isAhead deadline = true)
    (served : Served (timerFor passing deadline) layer queries)
    (silent : ∃ q ∈ queries, (layer q).ending = .silence)
    (armed : timerFor passing deadline ≠ .off) :
    (run deadline ⟨none,passing⟩ (fresh layer queries)).waiting = .stopped (.error lateness) ∧
      (run deadline ⟨none,passing⟩ (fresh layer queries)).seen.givenUp.Perm
        ((endlessOf layer queries).map (·.resource)) ∧
      (run deadline ⟨none,passing⟩ (fresh layer queries)).seen.measurements.Perm
        ((answersOf layer queries).map fun entry =>
          (Fetch.fresh layer entry.1).measurement entry.2) := by
  obtain ⟨steady,peaceful,overdue⟩ := run_overdue ahead served silent
  have quiet : (run deadline ⟨none,passing⟩ (fresh layer queries)).isQuiet = true :=
    rounds_isQuiet (Nat.le_refl _)
  generalize run deadline ⟨none,passing⟩ (fresh layer queries) = d at steady peaceful overdue quiet
  cases overdue with
  | yet k regular => exact absurd (regular.of_isQuiet peaceful quiet).1 armed
  | lapsing _ lapsing through =>
    have stopped := lapsing.stopped steady.informed steady.lively steady.attended steady.wound quiet
    have winding : d.isWinding = true := by simp [isWinding,stopped]
    have marks (f : Fetch) (member : f ∈ d.fetches) := (through f member).marks
      (steady.agrees f member) (Fetch.settled (steady.agrees f member)
        (steady.underway.sent.all f member)
        (steady.wound.isEnded winding steady.attended quiet f member))
    refine ⟨stopped,steady.givenUp.trans (.of_eq ?_),steady.counted.trans (.of_eq ?_)⟩
    · calc d.fetches.filterMap Fetch.givenUp?
          = queries.filterMap fun q => if (layer q).ending.isSilence then some q.resource else none := by
            refine steady.filterMap_eq fun f member _ reply => ?_
            rw [(marks f member).2,reply]
        _ = (endlessOf layer queries).map (·.resource) := by
            rw [endlessOf,← List.filterMap_eq_filter,List.map_filterMap]
            congr 1
            funext q
            cases silence : (layer q).ending.isSilence <;> simp [Option.guard,silence]
    · calc d.fetches.filterMap Fetch.counted?
          = queries.filterMap fun q =>
              (layer q).ending.answer?.map (Fetch.fresh layer q).measurement := by
            refine steady.filterMap_eq fun f member _ reply => ?_
            rw [(marks f member).1,reply]
            congr 1
            funext rows
            simp [Fetch.measurement,Fetch.fresh,reply]
        _ = (answersOf layer queries).map fun entry =>
              (Fetch.fresh layer entry.1).measurement entry.2 := by
            rw [answersOf,List.map_filterMap]
            simp [Function.comp_def]

/-- A request whose deadline never passes waits for ever for a query that is left without an end. -/
theorem run_endless (ahead : isAhead deadline = true)
    (served : Served (timerFor passing deadline) layer queries)
    (silent : ∃ q ∈ queries, (layer q).ending = .silence)
    (unarmed : timerFor passing deadline = .off) :
    (run deadline ⟨none,passing⟩ (fresh layer queries)).isOver = false := by
  obtain ⟨_,_,overdue⟩ := run_overdue ahead served silent
  cases overdue with
  | yet k regular => rcases regular.waits with waiting | waiting <;> simp [isOver,waiting]
  | lapsing armed => exact absurd unarmed armed

end Expired

end Dispatch
end ScopedAnalytics
