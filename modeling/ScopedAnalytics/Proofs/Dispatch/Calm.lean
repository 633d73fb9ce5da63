import ScopedAnalytics.Proofs.Dispatch.Outcome

/-! A dispatch that nothing disturbs: every query has an answer, the caller stays, and the deadline
does not pass before the answers are in. Job by job it comes nearer to its end with all answers. -/
namespace ScopedAnalytics

namespace Fetch

/-- The rounds before the end of a query that is on its way. -/
def left? (f : Fetch) : Option Nat :=
  match f.stage with
  | .unsent => some f.reply.rounds
  | .waiting rounds => some rounds
  | _ => none

/-- A query that is on its way to its answer or has it. -/
structure Calm (f : Fetch) : Prop where
  uncut : f.isCut = false
  answers : ∃ rows, f.reply.ending = .answer rows
  onWay : f.left?.isSome = true ∨ f.isFinished = true

theorem Bound.left?_eq {f : Fetch} {rounds : Nat} {seen : Trace} (bound : f.Bound rounds seen) :
    f.left? = some rounds := by
  cases bound with
  | unsent stage => simp [left?,stage]
  | waiting _ stage => simp [left?,stage]

theorem isLive_of_left? {f : Fetch} {rounds : Nat} (left : f.left? = some rounds) :
    f.isLive = true := by
  cases stage : f.stage with
  | unsent => simp [isLive,isEnded,isResting,stage]
  | waiting rounds => simp [isLive,isEnded,isResting,stage]
  | stalled => simp [left?,stage] at left
  | ended fate => simp [left?,stage] at left

theorem left?_of_isFinished {f : Fetch} (finished : f.isFinished = true) : f.left? = none := by
  cases stage : f.stage with
  | unsent => simp [isFinished,stage] at finished
  | waiting rounds => simp [isFinished,stage] at finished
  | stalled => simp [left?,stage]
  | ended fate => simp [left?,stage]

theorem Calm.isFinished_of_isEnded {f : Fetch} (calm : f.Calm) (ended : f.isEnded = true) :
    f.isFinished = true := by
  rcases calm.onWay with left | finished
  · obtain ⟨rounds,left⟩ := Option.isSome_iff_exists.mp left
    have live := isLive_of_left? left
    simp [isLive,ended] at live
  · exact finished

theorem Calm.isResting {f : Fetch} (calm : f.Calm) : f.isResting = false := by
  rcases calm.onWay with left | finished
  · obtain ⟨rounds,left⟩ := Option.isSome_iff_exists.mp left
    have live := isLive_of_left? left
    cases resting : f.isResting with
    | false => rfl
    | true => simp [isLive,resting] at live
  · cases stage : f.stage with
    | stalled => simp [isFinished,stage] at finished
    | _ => simp [Fetch.isResting,stage]

/-- A query that is on its way and has its turn waits one round less or has its answer. -/
theorem Calm.turn_cases {f : Fetch} (calm : f.Calm) :
    (∃ rounds, f.left? = some (rounds + 1) ∧ f.turn.fetch.left? = some rounds ∧
      f.turn.call = .again) ∨
    (f.left? = some 0 ∧ f.turn.fetch.isFinished = true ∧ f.turn.call = .news) ∨
    (f.isFinished = true ∧ f.turn.fetch = f ∧ f.turn.call = .nothing) := by
  have passage := f.turn_passage
  obtain ⟨rows,answer⟩ := calm.answers
  have uncut := calm.uncut
  generalize f.turn.fetch = g at passage ⊢
  generalize f.turn.trace = seen at passage
  generalize f.turn.call = call at passage ⊢
  cases passage with
  | still rest =>
    rcases calm.onWay with left | finished
    · obtain ⟨rounds,left⟩ := Option.isSome_iff_exists.mp left
      simp [isLive_of_left? left] at rest
    · exact .inr (.inr ⟨finished,rfl,rfl⟩)
  | dropped _ cut => simp [uncut] at cut
  | givenUp _ _ cut => simp [uncut] at cut
  | waits rounds _ bound => exact .inl ⟨rounds,bound.left?_eq,rfl,rfl⟩
  | finished _ _ bound => exact .inr (.inl ⟨bound.left?_eq,rfl,rfl⟩)
  | failed _ _ _ _ ending => simp [answer] at ending
  | silent _ _ _ ending => simp [answer] at ending
  | signalled _ _ _ ending => simp [answer] at ending

theorem Passage.isCut {f g : Fetch} {seen : Trace} {call : Call}
    (passage : f.Passage g seen call) : g.isCut = f.isCut := by
  cases passage <;> rfl

theorem Calm.turn {f : Fetch} (calm : f.Calm) : f.turn.fetch.Calm where
  uncut := f.turn_passage.isCut.trans calm.uncut
  answers := by
    rw [f.turn_passage.errand.2.1]
    exact calm.answers
  onWay := by
    rcases calm.turn_cases with ⟨rounds,_,left,_⟩ | ⟨_,finished,_⟩ | ⟨finished,same,_⟩
    · exact .inl (by simp [left])
    · exact .inr finished
    · exact .inr (same.symm ▸ finished)

end Fetch

/-- Whether a job is one of a dispatch that nothing disturbs. -/
def Job.isCalm : Job → Bool
  | fetch _ | news _ | release | deadline | request => true
  | signal | leave | caller _ => false

namespace Dispatch

variable {pending : List Job} {d e : Dispatch} {job : Job}
  {errands : List (Query × Reply (List Row))}

/-- The rounds after which the deadline passes, none if it passes in no particular one. -/
def roundsToGo (pending : List Job) (timer : Timer) : Option Nat :=
  if .deadline ∈ pending then some 0
  else
    match timer with
    | .after rounds => some (rounds + 1)
    | .off | .idle => none

/-- All queries have their answers, and the news of each is known or comes with the given jobs. -/
def Awaited (before : List Job) (d : Dispatch) : Prop :=
  ∀ place f, d.fetches[place]? = some f →
    f.isFinished = true ∧ (f.isKnown = true ∨ .news place ∈ before)

/-- No query has its answer later than the deadline, its turn in the same round coming first. -/
def Timely (pending : List Job) (d : Dispatch) : Prop :=
  ∀ place f left rounds, d.fetches[place]? = some f → f.left? = some left →
    roundsToGo pending d.timer = some rounds →
      (left ≤ rounds ∧ .fetch place ∈ pending) ∨ left + 1 ≤ rounds

/-- What holds of a dispatch that nothing disturbs, as long as its request waits. The request has its
turn after the news of all answers, and the deadline passes last in its round and not before any
query has its answer. -/
structure Calm (pending : List Job) (d : Dispatch) : Prop where
  waits : d.waiting = .plain ∨ d.waiting = .timed
  fetches : ∀ f ∈ d.fetches, f.Calm
  unstruck : d.isStruck = false
  answered : ∀ failure, d.gathered ≠ some (.error failure)
  late : d.late = []
  jobs : ∀ job ∈ pending ++ d.queue, job.isCalm = true
  release : .release ∈ pending ++ d.queue → d.gathered.isSome = true
  request : ∀ before after, pending ++ d.queue = before ++ .request :: after →
    d.gathered.isSome = true ∨ Awaited before d
  last : ∀ before after, pending = before ++ .deadline :: after → after = []
  undated : .deadline ∉ d.queue
  timely : Timely pending d

section Lists

theorem split_append {α : Type} {first second before after : List α} {a : α}
    (same : first ++ second = before ++ a :: after) :
    (∃ more, first = before ++ a :: more) ∨ (a ∈ second ∧ first <+: before) := by
  rcases List.append_eq_append_iff.mp same with ⟨more,longer,rest⟩ | ⟨more,shorter,rest⟩
  · exact .inr ⟨by simp [rest],longer ▸ List.prefix_append _ _⟩
  · cases more with
    | nil =>
      have tail : second = a :: after := by simpa using rest.symm
      exact .inr ⟨by simp [tail],by simp [shorter]⟩
    | cons b more =>
      obtain ⟨rfl,_⟩ := List.cons.inj rest
      exact .inl ⟨more,shorter⟩

private theorem Calm.last_of_cons (calm : Calm (job :: pending) d) (before after : List Job)
    (same : pending = before ++ .deadline :: after) : after = [] :=
  calm.last (job :: before) after (by rw [same,List.cons_append])

private theorem roundsToGo_cons (other : job ≠ .deadline) (timer : Timer) :
    roundsToGo (job :: pending) timer = roundsToGo pending timer := by
  simp [roundsToGo,Ne.symm other]

private theorem Calm.timely_of_cons (calm : Calm (job :: pending) d) (other : job ≠ .deadline)
    {place : Nat} {f : Fetch} {left rounds : Nat} (unfetched : job ≠ .fetch place)
    (held : d.fetches[place]? = some f) (toGo : f.left? = some left)
    (due : roundsToGo pending d.timer = some rounds) :
    (left ≤ rounds ∧ .fetch place ∈ pending) ∨ left + 1 ≤ rounds := by
  rw [← roundsToGo_cons other] at due
  refine (calm.timely place f left rounds held toGo due).imp_left ?_
  rintro ⟨bound,member⟩
  exact ⟨bound,(List.mem_cons.mp member).resolve_left (Ne.symm unfetched)⟩

end Lists

section Jobs

/-- After a job that brings in no others than such a dispatch has. -/
private theorem Calm.step (calm : Calm (job :: pending) d) (new : List Job)
    (waiting : e.waiting = d.waiting) (struck : e.isStruck = d.isStruck) (late : e.late = d.late)
    (queue : e.queue = d.queue ++ new)
    (own : ∀ other ∈ new, other.isCalm = true ∧ other ≠ .deadline ∧
      (other = .release → e.gathered.isSome = true) ∧
      (other = .request → e.gathered.isSome = true ∨ Awaited (pending ++ d.queue) e))
    (fetches : ∀ f ∈ e.fetches, f.Calm)
    (kept : d.gathered.isSome = true → e.gathered.isSome = true)
    (answered : ∀ failure, e.gathered ≠ some (.error failure))
    (awaited : ∀ before, Awaited (job :: before) d → Awaited before e)
    (timely : Timely pending e) : Calm pending e := by
  have origin : ∀ other ∈ pending ++ e.queue, other ∈ job :: (pending ++ d.queue) ∨ other ∈ new := by
    intro other member
    rw [queue,← List.append_assoc] at member
    exact (List.mem_append.mp member).imp_left (List.mem_cons_of_mem _)
  constructor
  case waits => exact waiting.symm ▸ calm.waits
  case fetches => exact fetches
  case unstruck => exact struck.trans calm.unstruck
  case answered => exact answered
  case late => exact late.trans calm.late
  case last => exact calm.last_of_cons
  case timely => exact timely
  case jobs =>
    intro other member
    rcases origin other member with before | inside
    · exact calm.jobs other before
    · exact (own other inside).1
  case release =>
    intro member
    rcases origin _ member with before | inside
    · exact kept (calm.release before)
    · exact (own _ inside).2.2.1 rfl
  case undated =>
    intro member
    rw [queue] at member
    rcases List.mem_append.mp member with before | inside
    · exact calm.undated before
    · exact (own _ inside).2.1 rfl
  case request =>
    intro before after same
    -- In front of a request that was there already, only this job is gone.
    rw [queue,← List.append_assoc] at same
    rcases split_append same with ⟨more,inside⟩ | ⟨inside,whole⟩
    · have ready := calm.request (job :: before) more (by simp [inside])
      exact ready.imp kept (awaited before)
    · refine ((own _ inside).2.2.2 rfl).imp_right ?_
      intro awaited place f held
      obtain ⟨finished,news⟩ := awaited place f held
      exact ⟨finished,news.imp_right fun member => whole.subset member⟩

/-- After a job that moves its own query along, which is then as near to its answer as it should be. -/
private theorem Calm.move {place : Nat} {f g : Fetch} (calm : Calm (job :: pending) d)
    (own : job = .fetch place ∨ job = .news place) (found : d.fetches[place]? = some f)
    (new : List Job) (waiting : e.waiting = d.waiting) (struck : e.isStruck = d.isStruck)
    (late : e.late = d.late) (timer : e.timer = d.timer) (queue : e.queue = d.queue ++ new)
    (jobs : ∀ other ∈ new, other.isCalm = true ∧ other ≠ .deadline ∧
      (other = .release → e.gathered.isSome = true) ∧
      (other = .request → e.gathered.isSome = true ∨ Awaited (pending ++ d.queue) e))
    (fetches : e.fetches = d.fetches.set place g) (sound : g.Calm)
    (kept : d.gathered.isSome = true → e.gathered.isSome = true)
    (answered : ∀ failure, e.gathered ≠ some (.error failure))
    (awaited : f.isFinished = true → g.isFinished = true ∧
      (g.isKnown = true ∨ f.isKnown = false ∧ job ≠ .news place))
    (timely : ∀ left rounds, g.left? = some left → roundsToGo pending d.timer = some rounds →
      (left ≤ rounds ∧ .fetch place ∈ pending) ∨ left + 1 ≤ rounds) : Calm pending e := by
  have apart {there : Nat} (other : there ≠ place) : job ≠ .fetch there ∧ job ≠ .news there := by
    rcases own with rfl | rfl <;> simpa using Ne.symm other
  apply calm.step new waiting struck late queue jobs
  case kept => exact kept
  case answered => exact answered
  case fetches =>
    intro h member
    rw [fetches] at member
    rcases List.mem_or_eq_of_mem_set member with inside | rfl
    · exact calm.fetches h inside
    · exact sound
  case awaited =>
    intro before ready there h held
    rw [fetches] at held
    rcases getElem?_set_cases held with ⟨rfl,rfl⟩ | ⟨other,held⟩
    · obtain ⟨finished,news⟩ := ready there f found
      obtain ⟨finished,known | ⟨unknown,unsaid⟩⟩ := awaited finished
      · exact ⟨finished,.inl known⟩
      · have news := news.resolve_left (by simp [unknown])
        exact ⟨finished,.inr ((List.mem_cons.mp news).resolve_left (Ne.symm unsaid))⟩
    · obtain ⟨finished,news⟩ := ready there h held
      refine ⟨finished,news.imp_right fun member => ?_⟩
      exact (List.mem_cons.mp member).resolve_left (Ne.symm (apart other).2)
  case timely =>
    intro there h left rounds held toGo due
    rw [timer] at due
    rw [fetches] at held
    rcases getElem?_set_cases held with ⟨rfl,rfl⟩ | ⟨other,held⟩
    · exact timely left rounds toGo due
    · have undated : job ≠ .deadline := by rcases own with rfl | rfl <;> simp
      exact calm.timely_of_cons undated (apart other).1 held toGo due

private theorem Calm.turn {place : Nat} {f : Fetch} (calm : Calm (.fetch place :: pending) d)
    (found : d.fetches[place]? = some f) : Calm pending (d.turn place) := by
  have own := calm.fetches f (List.mem_of_getElem? found)
  apply calm.move (.inl rfl) found (f.turn.call.jobs place)
  case waiting => exact turn_waiting d place
  case struck => exact turn_isStruck d place
  case timer => exact turn_timer d place
  case queue => exact turn_queue found
  case fetches => exact turn_fetches found
  case sound => exact own.turn
  case kept => exact fun answered => (turn_gathered d place).symm ▸ answered
  case answered => exact (turn_gathered d place).symm ▸ calm.answered
  case late =>
    have quiet : f.turn.call ≠ .signal := by
      rcases own.turn_cases with ⟨_,_,_,call⟩ | ⟨_,_,call⟩ | ⟨_,_,call⟩ <;> simp [call]
    rw [turn_late found,Fetch.Call.lateJobs_eq_nil quiet,List.append_nil]
  case jobs =>
    intro other member
    rcases Fetch.Call.mem_jobs.mp member with ⟨_,rfl⟩ | ⟨_,rfl⟩
    · exact ⟨rfl,by simp,by simp,by simp⟩
    · exact ⟨rfl,by simp,by simp,by simp⟩
  case awaited =>
    intro finished
    rw [Fetch.turn_of_ended (Fetch.isEnded_of_isFinished finished)]
    refine ⟨finished,?_⟩
    cases f.isKnown <;> simp
  case timely =>
    intro left rounds toGo due
    right
    rcases own.turn_cases with ⟨more,first,then',_⟩ | ⟨_,finished,_⟩ | ⟨finished,still,_⟩
    · obtain rfl : more = left := by simpa [then'] using toGo
      rw [← roundsToGo_cons (by simp : Job.fetch place ≠ .deadline)] at due
      rcases calm.timely place f (more + 1) rounds found first due with ⟨bound,_⟩ | bound
      · exact bound
      · omega
    · simp [Fetch.left?_of_isFinished finished] at toGo
    · rw [still] at toGo
      simp [Fetch.left?_of_isFinished finished] at toGo

private theorem news?_of_isFinished {f : Fetch} {fetches : List Fetch}
    (finished : f.isFinished = true) (failure : Failure) : news? fetches f ≠ some (.error failure) := by
  cases stage : f.stage with
  | unsent => simp [Fetch.isFinished,stage] at finished
  | waiting rounds => simp [Fetch.isFinished,stage] at finished
  | stalled => simp [Fetch.isFinished,stage] at finished
  | ended fate =>
    cases fate with
    | finished rows => simp [news?,stage]
    | failed failure => simp [Fetch.isFinished,stage] at finished
    | givenUp => simp [Fetch.isFinished,stage] at finished
    | dropped => simp [Fetch.isFinished,stage] at finished

private theorem gather_queue (d : Dispatch) (answers : Except Failure (List (List Row))) :
    ∃ new, (d.gather answers).queue = d.queue ++ new ∧
      ∀ job ∈ new, job = .request ∨ job = .release := by
  rcases gather_cases d answers with ⟨_,same⟩ | ⟨_,same⟩ | ⟨_,same⟩
  · rcases call_cases (d.receive answers) with ⟨_,called⟩ | ⟨_,called⟩
    · exact ⟨[],by rw [same,called,receive,List.append_nil],by simp⟩
    · exact ⟨[.request],by rw [same,called,push,receive],by simp⟩
  · exact ⟨[.release],by rw [same,push,receive],by simp⟩
  · exact ⟨[],by rw [same,receive,List.append_nil],by simp⟩

/-- As the news of an end is known, jobs come in only if the answers are gathered. -/
theorem learn_fields {place : Nat} {f : Fetch} (found : d.fetches[place]? = some f) :
    (d.learn place).isStruck = d.isStruck ∧ (d.learn place).timer = d.timer ∧
      ∃ new, (d.learn place).queue = d.queue ++ new ∧
        ∀ job ∈ new, (job = .request ∨ job = .release) ∧ (d.learn place).gathered.isSome = true := by
  rcases learn_cases found with ⟨answers,_,_,same⟩ | ⟨_,same⟩
  · obtain ⟨new,queue,own⟩ := gather_queue (d.mark place f) answers
    have answered : ((d.mark place f).gather answers).gathered.isSome = true := by
      rw [gather_gathered,Option.isSome_some]
    rw [same]
    exact ⟨by rw [gather_eq,mark],by rw [gather_eq,mark],new,queue,
      fun job member => ⟨own job member,answered⟩⟩
  · rw [same]
    exact ⟨rfl,rfl,[],(List.append_nil _).symm,by simp⟩

private theorem Calm.learn {place : Nat} {f : Fetch} (calm : Calm (.news place :: pending) d)
    (informed : Informed (.news place :: pending) d) (found : d.fetches[place]? = some f) :
    Calm pending (d.learn place) := by
  have own := calm.fetches f (List.mem_of_getElem? found)
  have finished := own.isFinished_of_isEnded (informed.told place f List.mem_cons_self found)
  obtain ⟨struck,timer,new,queue,brought⟩ := learn_fields found
  apply calm.move (.inr rfl) found new
  case waiting => exact learn_waiting d place
  case struck => exact struck
  case late => exact (learn_unseen d place).late
  case timer => exact timer
  case queue => exact queue
  case fetches => exact learn_fetches found
  case sound => exact ⟨own.uncut,own.answers,own.onWay⟩
  case awaited => exact fun finished => ⟨finished,.inl rfl⟩
  case kept =>
    intro answered
    rw [learn_gathered found,Option.isSome_or,answered,Bool.true_or]
  case jobs =>
    intro other member
    obtain ⟨kind,answered⟩ := brought other member
    refine ⟨?_,?_,fun _ => answered,fun _ => .inl answered⟩
    · rcases kind with rfl | rfl <;> rfl
    · rcases kind with rfl | rfl <;> simp
  case answered =>
    intro failure impossible
    rw [learn_gathered found,Option.or_eq_some_iff] at impossible
    rcases impossible with before | ⟨_,news⟩
    · exact calm.answered failure before
    · exact news?_of_isFinished finished failure news
  case timely =>
    intro left rounds toGo
    have none : f.left? = some left := toGo
    simp [Fetch.left?_of_isFinished finished] at none

private theorem Calm.called (calm : Calm (job :: pending) d)
    (called : e = d ∨ e = d.call ∧ (d.gathered.isSome = true ∨ Awaited (pending ++ d.queue) d))
    (unsaid : ∀ place f, d.fetches[place]? = some f → job ≠ .news place)
    (timely : Timely pending d) : Calm pending e := by
  have same : ∃ new, e = { d with queue := d.queue ++ new, isCalled := e.isCalled } ∧
      ∀ other ∈ new, other = .request ∧
        (d.gathered.isSome = true ∨ Awaited (pending ++ d.queue) d) := by
    rcases called with rfl | ⟨rfl,ready⟩
    · exact ⟨[],by rw [List.append_nil],by simp⟩
    · rcases call_cases d with ⟨_,same⟩ | ⟨_,same⟩
      · exact ⟨[],by rw [same,List.append_nil],by simp⟩
      · exact ⟨[.request],by rw [same,push],by simpa using ready⟩
  obtain ⟨new,same,own⟩ := same
  rw [same]
  apply calm.step new
  case waiting => rfl
  case struck => rfl
  case late => rfl
  case queue => rfl
  case kept => exact id
  case fetches => exact calm.fetches
  case answered => exact calm.answered
  case timely => exact timely
  case own =>
    intro other member
    obtain ⟨rfl,ready⟩ := own other member
    exact ⟨rfl,by simp,by simp,fun _ => ready⟩
  case awaited =>
    intro before awaited place f held
    obtain ⟨finished,news⟩ := awaited place f held
    refine ⟨finished,news.imp_right fun member => ?_⟩
    exact (List.mem_cons.mp member).resolve_left (Ne.symm (unsaid place f held))

private theorem Calm.release_job (calm : Calm (.release :: pending) d) :
    Calm pending d.release := by
  have ready := calm.release List.mem_cons_self
  have called : d.release = d ∨ d.release = d.call :=
    (release_cases d).symm.imp And.right And.right
  exact calm.called (called.imp_right fun same => ⟨same,.inl ready⟩) (by simp)
    fun _ _ _ _ => calm.timely_of_cons (by simp) (by simp)

/-- After the deadline, which passes when every query has its answer. -/
private theorem Calm.deadline_job (calm : Calm (.deadline :: pending) d)
    (reported : Reported (.deadline :: pending) d) : Calm pending d.expire := by
  have called : d.expire = d ∨ d.expire = d.call := (expire_cases d).symm.imp_right And.right
  obtain rfl : pending = [] := calm.last [] pending rfl
  have finished (place : Nat) (f : Fetch) (held : d.fetches[place]? = some f) :
      f.isFinished = true := by
    rcases (calm.fetches f (List.mem_of_getElem? held)).onWay with left | finished
    · obtain ⟨left,toGo⟩ := Option.isSome_iff_exists.mp left
      rcases calm.timely place f left 0 held toGo (by simp [roundsToGo]) with ⟨_,member⟩ | bound
      · simp at member
      · omega
    · exact finished
  have awaited : Awaited ([] ++ d.queue) d := by
    intro place f held
    have ended := Fetch.isEnded_of_isFinished (finished place f held)
    refine ⟨finished place f held,?_⟩
    cases known : f.isKnown with
    | true => exact .inl rfl
    | false =>
      have news := reported place f held ended known
      exact .inr (by simpa [ahead,calm.late] using news)
  refine calm.called (called.imp_right fun same => ⟨same,.inr awaited⟩) (by simp) ?_
  intro place f left rounds held toGo
  simp [Fetch.left?_of_isFinished (finished place f held)] at toGo

private theorem Calm.resume (calm : Calm (.request :: pending) d) (expecting : Expecting d) :
    ∃ rows, d.resume.waiting = .stopped (.ok rows) := by
  have waits : d.isOver = false := by
    rcases calm.waits with waiting | waiting <;> simp [isOver,waiting]
  have answered : d.gathered.isSome = true := by
    rcases calm.request [] _ rfl with answered | awaited
    · exact answered
    · cases gathered : d.gathered with
      | some answers => rfl
      | none =>
        obtain ⟨f,member,unknown⟩ := expecting waits gathered
        obtain ⟨place,held⟩ := List.getElem?_of_mem member
        rcases (awaited place f held).2 with known | news
        · simp [unknown] at known
        · simp at news
  obtain ⟨answers,gathered⟩ := Option.isSome_iff_exists.mp answered
  cases answers with
  | error failure => exact absurd gathered (calm.answered failure)
  | ok rows =>
    refine ⟨rows,?_⟩
    rcases calm.waits with waiting | waiting
    · simp [Dispatch.resume,waiting,gathered,finish,calm.unstruck]
    · simp [Dispatch.resume,waiting,gathered,finish]

end Jobs

section Run

/-- A dispatch that nothing disturbs, which may have ended with its answers. -/
def Undisturbed (pending : List Job) (d : Dispatch) : Prop :=
  (∃ rows, d.waiting = .stopped (.ok rows)) ∨ Calm pending d

theorem Undisturbed.perform (undisturbed : Undisturbed (job :: pending) d)
    (steady : Steady errands (job :: pending) d) : Undisturbed pending (d.perform job) := by
  rcases undisturbed with ⟨rows,stopped⟩ | calm
  · have stays : d.isOver = true := by simp [isOver,stopped]
    exact .inl ⟨rows,(perform_waiting_of_isOver stays job).trans stopped⟩
  · have kind := calm.jobs job (by simp)
    cases job with
    | signal => cases kind
    | leave => cases kind
    | caller turns => cases kind
    | release => exact .inr calm.release_job
    | deadline => exact .inr (calm.deadline_job steady.lively.reported)
    | request => exact .inl (calm.resume steady.lively.expecting)
    | fetch place =>
      cases found : d.fetches[place]? with
      | some f => exact .inr (calm.turn found)
      | none =>
        have unfetched : ∀ other f, d.fetches[other]? = some f → Job.fetch place ≠ .fetch other := by
          rintro other f held ⟨⟩
          simp [found] at held
        rw [Dispatch.perform,turn_absent found]
        exact .inr (calm.called (.inl rfl) (by simp) fun other f _ _ held =>
          calm.timely_of_cons (by simp) (unfetched other f held) held)
    | news place =>
      cases found : d.fetches[place]? with
      | some f => exact .inr (calm.learn steady.informed found)
      | none =>
        have unsaid : ∀ other f, d.fetches[other]? = some f → Job.news place ≠ .news other := by
          rintro other f held ⟨⟩
          simp [found] at held
        rw [Dispatch.perform,learn_absent found]
        exact .inr (calm.called (.inl rfl) unsaid fun _ _ _ _ =>
          calm.timely_of_cons (by simp) (by simp))

/-- As a round begins, every query is as near to its answer as the deadline is to passing. -/
private theorem Calm.left_le (calm : Calm [] d) (attended : Attended [] d) {place : Nat} {f : Fetch}
    {left rounds : Nat} (held : d.fetches[place]? = some f) (toGo : f.left? = some left)
    (due : roundsToGo d.opened.queue d.opened.timer = some rounds) : left ≤ rounds := by
  -- A deadline that is so many rounds away now leaves the query one round less.
  have near : ∀ more, d.timer = .after more → left ≤ more := by
    intro more timer
    rcases calm.timely place f left (more + 1) held toGo (by simp [roundsToGo,timer]) with
      ⟨_,member⟩ | bound
    · simp at member
    · omega
  rcases opened_cases d with ⟨passes,timer,queue⟩ | ⟨stays,timer,queue⟩
  · rw [queue,timer] at due
    obtain rfl : 0 = rounds := by simpa [roundsToGo] using due
    have queued := attended place f held (Fetch.isLive_of_left? toGo)
    have busy : (d.queue ++ d.late).isEmpty = false :=
      List.isEmpty_eq_false_iff.mpr (List.ne_nil_of_mem queued)
    rw [busy] at passes
    rcases Timer.isDue_iff.mp passes with soon | ⟨_,impossible⟩
    · exact near 0 soon
    · cases impossible
  · rw [queue,timer,calm.late,List.append_nil] at due
    unfold roundsToGo at due
    rw [if_neg calm.undated] at due
    cases later : d.timer.elapsed with
    | off => simp [later] at due
    | idle => simp [later] at due
    | after more =>
      obtain rfl : more + 1 = rounds := by simpa [later] using due
      exact near (more + 1) ((Timer.elapsed_eq_after stays).mp later)

private theorem Calm.opened (calm : Calm [] d) (attended : Attended [] d) :
    Calm d.opened.queue { d.opened with queue := [] } := by
  obtain ⟨tail,queue,kind⟩ := opened_queue d
  rw [calm.late,List.append_nil] at queue
  have last : ∀ job ∈ tail, job = .deadline := by rcases kind with rfl | rfl <;> simp
  constructor
  case waits => exact (opened_waiting d).symm ▸ calm.waits
  case unstruck => exact (opened_isStruck d).trans calm.unstruck
  case late => exact opened_late d
  case fetches => exact (opened_fetches d).symm ▸ calm.fetches
  case answered => exact (opened_gathered d).symm ▸ calm.answered
  case undated => simp
  case jobs =>
    intro job member
    rw [queue,List.append_nil] at member
    rcases List.mem_append.mp member with inside | due
    · exact calm.jobs job inside
    · exact last job due ▸ rfl
  case release =>
    intro member
    rw [queue,List.append_nil] at member
    rw [opened_gathered]
    rcases List.mem_append.mp member with inside | due
    · exact calm.release inside
    · cases last _ due
  case request =>
    intro before after same
    rw [opened_gathered]
    rw [queue,List.append_nil] at same
    rcases split_append same with ⟨more,inside⟩ | ⟨due,_⟩
    · simpa only [Awaited,opened_fetches] using calm.request before more inside
    · cases last _ due
  case last =>
    intro before after same
    -- Only the opening of a round brings in a deadline, and it brings in one job at most.
    rw [queue] at same
    rcases split_append same with ⟨more,inside⟩ | ⟨_,whole⟩
    · exact absurd (by simp [inside]) calm.undated
    · have short := whole.length_le
      have lengths := congrArg List.length same
      have one : tail.length ≤ 1 := by rcases kind with rfl | rfl <;> simp
      simp only [List.length_append,List.length_cons] at lengths
      exact List.length_eq_zero_iff.mp (by omega)
  case timely =>
    intro place f left rounds held toGo due
    rw [opened_fetches] at held
    refine .inl ⟨calm.left_le attended held toGo due,?_⟩
    have queued : .fetch place ∈ d.queue := by
      simpa [ahead,calm.late] using attended place f held (Fetch.isLive_of_left? toGo)
    rw [queue]
    exact List.mem_append_left _ queued

theorem Undisturbed.opened (undisturbed : Undisturbed [] d) (attended : Attended [] d) :
    Undisturbed d.opened.queue { d.opened with queue := [] } := by
  rcases undisturbed with ⟨rows,stopped⟩ | calm
  · exact .inl ⟨rows,(opened_waiting d).trans stopped⟩
  · exact .inr (calm.opened attended)

/-- When nothing is left to happen, a dispatch that nothing disturbed has its answers. -/
theorem Undisturbed.stopped (undisturbed : Undisturbed [] d) (steady : Steady errands [] d)
    (quiet : d.isQuiet = true) : ∃ rows, d.waiting = .stopped (.ok rows) := by
  rcases undisturbed with stopped | calm
  · exact stopped
  · rcases steady.lively.isOver_or_resting steady.attended quiet with stopped | ⟨f,member,resting⟩
    · rcases calm.waits with waiting | waiting <;> simp [isOver,waiting] at stopped
    · exact absurd resting (by simp [(calm.fetches f member).isResting])

end Run

end Dispatch
end ScopedAnalytics
