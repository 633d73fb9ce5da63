import ScopedAnalytics.Proofs.Dispatch.Answers

/-! When each query has its turns in a dispatch that nobody interrupts. As long as nothing is
gathered, a query ends in the round that its reply names and the request learns of the end in the
round after, the queries of each round come in their order, and a deadline that passes has the
request take its turn after the news of all that it left the rounds for. -/
namespace ScopedAnalytics

def Job.place? : Job → Option Nat
  | fetch place | news place => some place
  | _ => none

namespace Fetch
variable {f : Fetch}

/-- Whether a query has ended as its reply says. -/
def hasReplied (f : Fetch) : Bool :=
  match f.stage with
  | .ended (.finished _) | .ended (.failed _) => true
  | _ => false

theorem isEnded_of_hasReplied (replied : f.hasReplied = true) : f.isEnded = true := by
  cases stage : f.stage <;> simp [hasReplied,isEnded,stage] at replied ⊢

theorem turn_of_not_isLive (rest : f.isLive = false) :
    f.turn.fetch = f ∧ f.turn.call = .nothing := by
  have passage := f.turn_passage
  have bound {rounds : Nat} {seen : Trace} (bound : f.Bound rounds seen) : False := by
    simp [isLive_of_left? bound.left?_eq] at rest
  generalize f.turn.fetch = g at passage ⊢
  generalize f.turn.trace = seen at passage
  generalize f.turn.call = call at passage ⊢
  cases passage with
  | still => exact ⟨rfl,rfl⟩
  | dropped stage => simp [isLive,isEnded,isResting,stage] at rest
  | givenUp ended _ cut =>
    cases stage : f.stage <;> simp [isLive,isEnded,isResting,stage,cut] at rest ended
  | waits _ _ within => exact (bound within).elim
  | finished _ _ within => exact (bound within).elim
  | failed _ _ within => exact (bound within).elim
  | silent _ within => exact (bound within).elim
  | signalled _ within => exact (bound within).elim

theorem turn_of_left? (uncut : f.isCut = false) (unsignalled : f.reply.ending ≠ .signal)
    {left : Nat} (toGo : f.left? = some left) :
    (∃ rounds, left = rounds + 1 ∧ f.turn.fetch.left? = some rounds ∧ f.turn.call = .again) ∨
    (left = 0 ∧ f.turn.fetch.hasReplied = true ∧ f.turn.call = .news) ∨
    (left = 0 ∧ f.turn.fetch.isResting = true ∧ f.turn.call = .nothing) := by
  have passage := f.turn_passage
  have same {rounds : Nat} {seen : Trace} (bound : f.Bound rounds seen) : left = rounds :=
    Option.some.inj (toGo.symm.trans bound.left?_eq)
  generalize f.turn.fetch = g at passage ⊢
  generalize f.turn.trace = seen at passage
  generalize f.turn.call = call at passage ⊢
  cases passage with
  | still rest => simp [isLive_of_left? toGo] at rest
  | dropped _ cut => simp [uncut] at cut
  | givenUp _ _ cut => simp [uncut] at cut
  | waits rounds _ bound => exact .inl ⟨rounds,same bound,rfl,rfl⟩
  | finished _ _ bound => exact .inr (.inl ⟨same bound,rfl,rfl⟩)
  | failed _ _ bound => exact .inr (.inl ⟨same bound,rfl,rfl⟩)
  | silent _ bound => exact .inr (.inr ⟨same bound,by simp [isResting,uncut],rfl⟩)
  | signalled _ _ _ ending => exact absurd ending unsignalled

end Fetch

namespace Dispatch

variable {pending : List Job} {d e : Dispatch} {job : Job} {timer : Timer} {k : Nat}
  {errands : List (Query × Reply (List Row))}

section Peace

/-- A dispatch that nobody interrupts: no caller leaves, and no query is left with a signal. -/
structure Peaceful (pending : List Job) (d : Dispatch) : Prop where
  jobs : ∀ job ∈ pending ++ d.queue, job.isCalm = true
  replies : ∀ f ∈ d.fetches, f.reply.ending ≠ .signal ∨ f.isCut = true ∨ f.isEnded = true
  unstruck : d.isStruck = false
  late : d.late = []

private theorem call_queue_calm (d : Dispatch) :
    ∀ other ∈ d.call.queue, other ∈ d.queue ∨ other.isCalm = true := by
  intro other member
  rcases call_cases d with ⟨_,same⟩ | ⟨_,same⟩
  · exact .inl (same ▸ member)
  · rw [same,push] at member
    refine (List.mem_append.mp member).imp_right fun new => ?_
    rw [List.mem_singleton.mp new]
    rfl

private theorem cutAll_queue_calm (d : Dispatch) :
    ∀ other ∈ d.queue ++ wakings d.fetches, other ∈ d.queue ∨ other.isCalm = true := by
  intro other member
  refine (List.mem_append.mp member).imp_right fun woken => ?_
  obtain ⟨place,rfl⟩ := wakings_fetch woken
  rfl

private theorem perform_queue_calm (calm : job.isCalm = true) :
    ∀ other ∈ (d.perform job).queue, other ∈ d.queue ∨ other.isCalm = true := by
  intro other member
  cases job with
  | signal => cases calm
  | leave => cases calm
  | caller turns => cases calm
  | fetch place =>
    rw [perform] at member
    cases found : d.fetches[place]? with
    | none => exact .inl (turn_absent found ▸ member)
    | some f =>
      rw [turn_queue found] at member
      refine (List.mem_append.mp member).imp_right fun new => ?_
      rcases Fetch.Call.mem_jobs.mp new with ⟨_,rfl⟩ | ⟨_,rfl⟩ <;> rfl
  | news place =>
    rw [perform] at member
    cases found : d.fetches[place]? with
    | none => exact .inl (learn_absent found ▸ member)
    | some f =>
      obtain ⟨_,_,new,queue,own⟩ := learn_fields found
      rw [queue] at member
      refine (List.mem_append.mp member).imp_right fun inside => ?_
      rcases (own other inside).1 with rfl | rfl <;> rfl
  | release =>
    rcases release_cases d with ⟨_,same⟩ | ⟨_,same⟩
    · exact call_queue_calm d other (same ▸ member)
    · exact .inl (same ▸ member)
  | deadline =>
    rcases expire_cases d with ⟨_,same⟩ | same
    · exact call_queue_calm d other (same ▸ member)
    · exact .inl (same ▸ member)
  | request =>
    rw [perform] at member
    rcases resume_cases d with ⟨_,same⟩ | ⟨_,⟨_,same⟩ | ⟨_,same⟩⟩ | ⟨outcome,same,_⟩
    · exact .inl (same ▸ member)
    all_goals
      rw [same] at member
      exact cutAll_queue_calm d other member

private theorem perform_unstruck (calm : job.isCalm = true) (unstruck : d.isStruck = false) :
    (d.perform job).isStruck = false := by
  have called : d.call.isStruck = false := by
    rw [call_eq]
    exact unstruck
  cases job with
  | signal => cases calm
  | leave => cases calm
  | caller turns => cases calm
  | fetch place =>
    rwa [perform,turn_isStruck]
  | news place =>
    rw [perform]
    cases found : d.fetches[place]? with
    | none => rwa [learn_absent found]
    | some f => exact (learn_fields found).1.trans unstruck
  | release =>
    rcases release_cases d with ⟨_,same⟩ | ⟨_,same⟩
    · exact (congrArg isStruck same).trans called
    · exact (congrArg isStruck same).trans unstruck
  | deadline =>
    rcases expire_cases d with ⟨_,same⟩ | same
    · exact (congrArg isStruck same).trans called
    · exact (congrArg isStruck same).trans unstruck
  | request =>
    rw [perform]
    rcases resume_cases d with ⟨_,same⟩ | ⟨_,⟨_,same⟩ | ⟨_,same⟩⟩ | ⟨outcome,same,_⟩
    · rwa [same]
    · rw [same,windUp]
    · rw [same,windUp]
    · rwa [same,finish,cutAll]

private theorem perform_late
    (replies : ∀ f ∈ d.fetches, f.reply.ending ≠ .signal ∨ f.isCut = true ∨ f.isEnded = true)
    (late : d.late = []) : (d.perform job).late = [] := by
  by_cases own : ∃ place, job = .fetch place
  · obtain ⟨place,rfl⟩ := own
    rw [perform]
    cases found : d.fetches[place]? with
    | none => rwa [turn_absent found]
    | some f =>
      have quiet : f.turn.call.lateJobs = [] := by
        have reply := replies f (List.mem_of_getElem? found)
        have passage := f.turn_passage
        generalize f.turn.fetch = g at passage
        generalize f.turn.trace = seen at passage
        generalize f.turn.call = call at passage ⊢
        cases passage with
        | signalled _ bound uncut ending =>
          simp [ending,uncut,bound.isEnded_eq_false] at reply
        | _ => rfl
      rw [turn_late found,late,quiet,List.append_nil]
  · exact (perform_unseen d job fun place same => own ⟨place,same⟩).late.trans late

theorem Peaceful.perform (peaceful : Peaceful (job :: pending) d) :
    Peaceful pending (d.perform job) where
  jobs := by
    intro other member
    have known : other ∈ pending ∨ other ∈ d.queue ∨ other.isCalm = true := by
      refine (List.mem_append.mp member).imp_right fun queued => ?_
      exact perform_queue_calm (peaceful.jobs job List.mem_cons_self) other queued
    rcases known with inside | queued | calm
    · exact peaceful.jobs other (by simp [inside])
    · exact peaceful.jobs other (by simp [queued])
    · exact calm
  replies := by
    refine perform_forall (fun f reply => ?_) (fun _ reply => reply) (fun f _ => ?_) job
      peaceful.replies
    · rw [f.turn_passage.errand.2.1]
      exact reply.imp_right Fetch.turn_isCut_or_isEnded
    · exact .inr f.cut_isCut_or_isEnded
  unstruck := perform_unstruck (peaceful.jobs job List.mem_cons_self) peaceful.unstruck
  late := perform_late peaceful.replies peaceful.late

theorem Peaceful.opened (peaceful : Peaceful [] d) :
    Peaceful d.opened.queue { d.opened with queue := [] } where
  jobs := by
    intro other member
    rw [List.append_nil] at member
    rcases of_mem_ahead_opened (List.mem_append_left _ member) with inside | rfl
    · exact peaceful.jobs other (by simpa [ahead,peaceful.late] using inside)
    · rfl
  replies := by simpa only [opened_fetches] using peaceful.replies
  unstruck := (opened_isStruck d).trans peaceful.unstruck
  late := opened_late d

end Peace

section Places
variable {place : Nat} {f : Fetch} {queue : List Job}

/-- Where a query stands in a round: before its turn, before the news of its end, with an end that is
known, or without an end. -/
inductive Stands (k : Nat) (pending queue : List Job) (place : Nat) (f : Fetch) : Prop
  | turn (left : Nat) (toGo : f.left? = some left) (rounds : left + k = f.reply.rounds)
      (ahead : .fetch place ∈ pending)
  | next (left : Nat) (toGo : f.left? = some left) (rounds : left + (k + 1) = f.reply.rounds)
      (ahead : .fetch place ∈ queue)
  | news (replied : f.hasReplied = true) (rounds : f.reply.rounds + 1 = k)
      (ahead : .news place ∈ pending)
  | nextNews (replied : f.hasReplied = true) (rounds : f.reply.rounds + 1 = k + 1)
      (ahead : .news place ∈ queue)
  | known (replied : f.hasReplied = true) (known : f.isKnown = true) (rounds : f.reply.rounds + 1 ≤ k)
  | stalled (resting : f.isResting = true) (rounds : f.reply.rounds ≤ k)

theorem Stands.of_other (stands : Stands k (job :: pending) queue place f)
    (other : job.place? ≠ some place) (more : List Job) :
    Stands k pending (queue ++ more) place f := by
  have kept {next : Job} (member : next ∈ job :: pending) (about : next.place? = some place) :
      next ∈ pending := by
    rcases List.mem_cons.mp member with rfl | inside
    · exact absurd about other
    · exact inside
  cases stands with
  | turn left toGo rounds ahead => exact .turn left toGo rounds (kept ahead rfl)
  | next left toGo rounds ahead => exact .next left toGo rounds (List.mem_append_left _ ahead)
  | news replied rounds ahead => exact .news replied rounds (kept ahead rfl)
  | nextNews replied rounds ahead => exact .nextNews replied rounds (List.mem_append_left _ ahead)
  | known replied known rounds => exact .known replied known rounds
  | stalled resting rounds => exact .stalled resting rounds

theorem Stands.opened (stands : Stands k [] queue place f) (more : List Job) :
    Stands (k + 1) (queue ++ more) [] place f := by
  cases stands with
  | turn _ _ _ ahead => cases ahead
  | news _ _ ahead => cases ahead
  | next left toGo rounds ahead => exact .turn left toGo rounds (List.mem_append_left _ ahead)
  | nextNews replied rounds ahead => exact .news replied rounds (List.mem_append_left _ ahead)
  | known replied known rounds => exact .known replied known (Nat.le_succ_of_le rounds)
  | stalled resting rounds => exact .stalled resting (Nat.le_succ_of_le rounds)

theorem Stands.of_idle (stands : Stands k [] [] place f) :
    ((f.hasReplied = true ∧ f.isKnown = true) ∨ f.isResting = true) ∧ f.reply.rounds ≤ k := by
  cases stands with
  | turn _ _ _ ahead => cases ahead
  | next _ _ _ ahead => cases ahead
  | news _ _ ahead => cases ahead
  | nextNews _ _ ahead => cases ahead
  | known replied known rounds => exact ⟨.inl ⟨replied,known⟩,by omega⟩
  | stalled resting rounds => exact ⟨.inr resting,rounds⟩

end Places

section Deadline

/-- Whether the queries that a timer leaves their rounds take so many at most. -/
def Within (timer : Timer) (rounds : Nat) (d : Dispatch) : Prop :=
  ∀ f ∈ d.fetches, timer.covers f.reply.rounds = true → f.reply.rounds ≤ rounds

theorem Within.perform {rounds : Nat} (within : Within timer rounds d) (job : Job) :
    Within timer rounds (d.perform job) := by
  refine perform_forall (fun f before => ?_) (fun _ before => before) (fun f before => ?_) job
    within
  · rwa [f.turn_passage.errand.2.1]
  · rwa [f.cut_reply]

/-- How near the deadline is that a request waits for: it runs, it passes at the end of the round, or
it passed and the request has its turn at the end of the next round or of this one. All other jobs
are about queries. -/
inductive Countdown (timer : Timer) (k : Nat) (pending : List Job) (d : Dispatch) : Prop
  | running (placed : ∀ job ∈ pending ++ d.queue, job.place?.isSome = true)
      (near : ∀ more, d.timer = .after more → Within timer (more + 1 + k) d)
      (timed : d.timer ≠ .off → d.waiting = .timed) (off : d.timer = .off ↔ timer = .off)
  | passing (front : List Job) (last : pending = front ++ [.deadline])
      (placed : ∀ job ∈ front ++ d.queue, job.place?.isSome = true) (off : d.timer = .off)
      (timed : d.waiting = .timed) (armed : timer ≠ .off) (near : Within timer k d)
  | called (front : List Job) (done : pending = []) (last : d.queue = front ++ [.request])
      (placed : ∀ job ∈ front, job.place?.isSome = true) (off : d.timer = .off)
      (timed : d.waiting = .timed) (armed : timer ≠ .off) (near : Within timer k d)
  | turn (front : List Job) (last : pending = front ++ [.request])
      (placed : ∀ job ∈ front ++ d.queue, job.place?.isSome = true) (off : d.timer = .off)
      (timed : d.waiting = .timed) (armed : timer ≠ .off) (rounds : Nat) (past : rounds + 1 = k)
      (near : Within timer rounds d)

end Deadline

/-- What holds in a round of a dispatch that nobody interrupts as long as nothing is gathered. -/
structure Regular (timer : Timer) (k : Nat) (pending : List Job) (d : Dispatch) : Prop where
  waits : d.waiting = .plain ∨ d.waiting = .timed
  fresh : d.gathered = none
  uncut : ∀ f ∈ d.fetches, f.isCut = false
  stands : ∀ place f, d.fetches[place]? = some f → Stands k pending d.queue place f
  order : ((d.queue ++ pending).filterMap Job.place?).Pairwise (· < ·)
  countdown : Countdown timer k pending d

section Order
variable {place : Nat}

/-- Jobs that are called for already are about earlier queries, and those that are left of the round
about later ones. -/
theorem Regular.order_cons (regular : Regular timer k (job :: pending) d)
    (own : job.place? = some place) :
    (∀ other ∈ d.queue, ∀ there, other.place? = some there → there < place) ∧
      ∀ other ∈ pending, ∀ there, other.place? = some there → place < there := by
  have order := regular.order
  rw [List.filterMap_append,List.filterMap_cons_some own,List.pairwise_append] at order
  obtain ⟨_,rest,across⟩ := order
  refine ⟨fun other member there about => ?_,fun other member there about => ?_⟩
  · exact across there (List.mem_filterMap.mpr ⟨other,member,about⟩) place List.mem_cons_self
  · exact (List.pairwise_cons.mp rest).1 there (List.mem_filterMap.mpr ⟨other,member,about⟩)

private theorem Regular.not_queued (regular : Regular timer k (job :: pending) d)
    (own : job.place? = some place) {other : Job} (about : other.place? = some place) :
    other ∉ d.queue := fun member =>
  absurd ((regular.order_cons own).1 other member place about) (Nat.lt_irrefl place)

end Order

section Queries
variable {place : Nat} {f g : Fetch}

private theorem placed_append {front queue new : List Job}
    (placed : ∀ job ∈ front ++ queue, job.place?.isSome = true)
    (placed' : ∀ job ∈ new, job.place?.isSome = true) :
    ∀ job ∈ front ++ (queue ++ new), job.place?.isSome = true := by
  intro job member
  rw [← List.append_assoc] at member
  rcases List.mem_append.mp member with before | inside
  · exact placed job before
  · exact placed' job inside

private theorem Countdown.step (countdown : Countdown timer k (job :: pending) d)
    (own : job.place?.isSome = true) (new : List Job) (waiting : e.waiting = d.waiting)
    (timer' : e.timer = d.timer) (queue : e.queue = d.queue ++ new)
    (placed' : ∀ other ∈ new, other.place?.isSome = true)
    (within : ∀ rounds, Within timer rounds d → Within timer rounds e) :
    Countdown timer k pending e := by
  -- The job at the end is about no query, so it is not this one.
  have tail {front : List Job} {last : Job} (same : job :: pending = front ++ [last])
      (other : last.place? = none) : ∃ rest, front = job :: rest ∧ pending = rest ++ [last] := by
    cases front with
    | nil =>
      obtain ⟨rfl,_⟩ := List.cons.inj same
      simp [other] at own
    | cons first rest =>
      obtain ⟨rfl,behind⟩ := List.cons.inj same
      exact ⟨rest,rfl,behind⟩
  cases countdown with
  | running placed near timed off =>
    refine .running ?_ ?_ ?_ ?_
    · rw [queue]
      exact placed_append (fun other member => placed other (List.mem_cons_of_mem _ member)) placed'
    · exact fun more same => within _ (near more (timer'.symm.trans same))
    · rw [timer',waiting]
      exact timed
    · rw [timer']
      exact off
  | passing front last placed off timed armed near =>
    obtain ⟨rest,rfl,behind⟩ := tail last rfl
    refine .passing rest behind ?_ (timer'.trans off) (waiting.trans timed) armed (within k near)
    rw [queue]
    exact placed_append (fun other member => placed other (List.mem_cons_of_mem _ member)) placed'
  | called _ done => cases done
  | turn front last placed off timed armed rounds past near =>
    obtain ⟨rest,rfl,behind⟩ := tail last rfl
    refine .turn rest behind ?_ (timer'.trans off) (waiting.trans timed) armed rounds past
      (within _ near)
    rw [queue]
    exact placed_append (fun other member => placed other (List.mem_cons_of_mem _ member)) placed'

/-- A job about a query after which that stands where it should leaves everything regular. -/
private theorem Regular.step (regular : Regular timer k (job :: pending) d)
    (own : job.place? = some place) (new : List Job) (waiting : e.waiting = d.waiting)
    (timer' : e.timer = d.timer) (fresh : e.gathered = none) (queue : e.queue = d.queue ++ new)
    (about : ∀ other ∈ new, other.place? = some place) (single : new.length ≤ 1)
    (within : ∀ rounds, Within timer rounds d → Within timer rounds e)
    (uncut : ∀ f ∈ e.fetches, f.isCut = false)
    (others : ∀ there g, there ≠ place → e.fetches[there]? = some g → d.fetches[there]? = some g)
    (stands : ∀ g, e.fetches[place]? = some g → Stands k pending (d.queue ++ new) place g) :
    Regular timer k pending e where
  waits := waiting.symm ▸ regular.waits
  fresh := fresh
  uncut := uncut
  stands := by
    intro there g held
    rw [queue]
    by_cases here : there = place
    · subst here
      exact stands g held
    · refine (regular.stands there g (others there g here held)).of_other ?_ new
      rw [own]
      exact fun same => here (Option.some.inj same).symm
  order := by
    have sub : (new.filterMap Job.place?).Sublist [place] := by
      match new,single,about with
      | [],_,_ => exact List.nil_sublist _
      | [other],_,about => simp [about other List.mem_cons_self]
    have order := regular.order
    rw [List.filterMap_append,List.filterMap_cons_some own] at order
    rw [queue,List.append_assoc,List.filterMap_append,List.filterMap_append]
    refine order.sublist (List.Sublist.append_left ?_ _)
    exact List.Sublist.append_right sub _
  countdown := by
    refine regular.countdown.step (by rw [own,Option.isSome_some]) new waiting timer' queue ?_ within
    exact fun other member => by rw [about other member,Option.isSome_some]

private theorem Regular.skip (regular : Regular timer k (job :: pending) d)
    (own : job.place? = some place) (absent : d.fetches[place]? = none) :
    Regular timer k pending d := by
  refine regular.step own [] rfl rfl regular.fresh (List.append_nil _).symm (by simp) (by simp)
    (fun _ => id) regular.uncut (fun _ _ _ held => held) fun g held => ?_
  cases absent.symm.trans held

/-- A job that moves its own query along leaves everything regular if that stands where it should
then. -/
private theorem Regular.move (regular : Regular timer k (job :: pending) d)
    (own : job.place? = some place) (found : d.fetches[place]? = some f) (new : List Job)
    (waiting : e.waiting = d.waiting) (timer' : e.timer = d.timer) (fresh : e.gathered = none)
    (queue : e.queue = d.queue ++ new) (about : ∀ other ∈ new, other.place? = some place)
    (single : new.length ≤ 1) (within : ∀ rounds, Within timer rounds d → Within timer rounds e)
    (fetches : e.fetches = d.fetches.set place g) (cut : g.isCut = f.isCut)
    (stands : Stands k pending (d.queue ++ new) place g) : Regular timer k pending e := by
  apply regular.step own new waiting timer' fresh queue about single within
  case uncut =>
    intro h member
    rw [fetches] at member
    rcases List.mem_or_eq_of_mem_set member with inside | rfl
    · exact regular.uncut h inside
    · exact cut.trans (regular.uncut f (List.mem_of_getElem? found))
  case others =>
    intro there h other held
    rw [fetches,List.getElem?_set_ne (Ne.symm other)] at held
    exact held
  case stands =>
    intro h held
    rw [fetches] at held
    obtain ⟨_,rfl⟩ | ⟨other,_⟩ := getElem?_set_cases held
    · exact stands
    · exact absurd rfl other

/-- After its turn, a query has the next one or the news of its end in the round that follows, or it
is left without an end. -/
private theorem Regular.stands_turn (regular : Regular timer k (.fetch place :: pending) d)
    (peaceful : Peaceful (.fetch place :: pending) d) (found : d.fetches[place]? = some f) :
    Stands k pending (d.queue ++ f.turn.call.jobs place) place f.turn.fetch := by
  have uncut := regular.uncut f (List.mem_of_getElem? found)
  have reply : f.turn.fetch.reply = f.reply := f.turn_passage.errand.2.1
  have still (rest : f.isLive = false) : f.turn.fetch = f := (Fetch.turn_of_not_isLive rest).1
  have next {next : Job} (member : next ∈ f.turn.call.jobs place) :
      next ∈ d.queue ++ f.turn.call.jobs place := List.mem_append_right _ member
  cases regular.stands place f found with
  | turn left toGo rounds =>
    have live := Fetch.isLive_of_left? toGo
    have unsignalled : f.reply.ending ≠ .signal := by
      refine (peaceful.replies f (List.mem_of_getElem? found)).resolve_right ?_
      rintro (cut | ended)
      · simp [uncut] at cut
      · simp [Fetch.isLive,ended] at live
    rcases Fetch.turn_of_left? uncut unsignalled toGo with
      ⟨more,rfl,toGo,call⟩ | ⟨rfl,replied,call⟩ | ⟨rfl,resting,_⟩
    · exact .next more toGo (by rw [reply]; omega) (next (Fetch.Call.mem_jobs.mpr (.inl ⟨call,rfl⟩)))
    · exact .nextNews replied (by rw [reply]; omega)
        (next (Fetch.Call.mem_jobs.mpr (.inr ⟨call,rfl⟩)))
    · exact .stalled resting (by rw [reply]; omega)
  -- The order of the round has no other job about the query before or after its turn.
  | next _ _ _ ahead => exact absurd ahead (regular.not_queued rfl rfl)
  | nextNews _ _ ahead => exact absurd ahead (regular.not_queued rfl rfl)
  | news _ _ ahead =>
    have later := (regular.order_cons rfl).2 _ (by simpa using ahead) place rfl
    exact absurd later (Nat.lt_irrefl place)
  | known replied known rounds =>
    rw [still (by simp [Fetch.isLive,Fetch.isEnded_of_hasReplied replied])]
    exact .known replied known rounds
  | stalled resting rounds =>
    rw [still (by simp [Fetch.isLive,resting])]
    exact .stalled resting rounds

private theorem Regular.turn (regular : Regular timer k (.fetch place :: pending) d)
    (peaceful : Peaceful (.fetch place :: pending) d) :
    Regular timer k pending (d.turn place) := by
  cases found : d.fetches[place]? with
  | none =>
    rw [turn_absent found]
    exact regular.skip rfl found
  | some f =>
    apply regular.move rfl found (f.turn.call.jobs place)
    case waiting => exact turn_waiting d place
    case timer' => exact turn_timer d place
    case fresh => exact (turn_gathered d place).trans regular.fresh
    case queue => exact turn_queue found
    case about =>
      intro other member
      rcases Fetch.Call.mem_jobs.mp member with ⟨_,rfl⟩ | ⟨_,rfl⟩ <;> rfl
    case single => exact Fetch.Call.length_jobs_le _ place
    case within => exact fun rounds before => before.perform (.fetch place)
    case fetches => exact turn_fetches found
    case cut => exact f.turn_passage.isCut
    case stands => exact regular.stands_turn peaceful found

/-- The query whose news comes has ended as its reply says, in the round before or, if that is known
already, earlier. -/
theorem Regular.replied (regular : Regular timer k (.news place :: pending) d)
    (ended : f.isEnded = true) (held : d.fetches[place]? = some f) :
    f.hasReplied = true ∧ f.reply.rounds + 1 ≤ k ∧ (f.isKnown = true ∨ f.reply.rounds + 1 = k) := by
  cases regular.stands place f held with
  | turn _ toGo =>
    have live := Fetch.isLive_of_left? toGo
    simp [Fetch.isLive,ended] at live
  | next _ toGo =>
    have live := Fetch.isLive_of_left? toGo
    simp [Fetch.isLive,ended] at live
  | news replied rounds => exact ⟨replied,Nat.le_of_eq rounds,.inr rounds⟩
  | nextNews _ _ ahead => exact absurd ahead (regular.not_queued rfl rfl)
  | known replied known rounds => exact ⟨replied,rounds,.inl known⟩
  | stalled resting =>
    cases stage : f.stage <;> simp [Fetch.isResting,Fetch.isEnded,stage] at resting ended

private theorem Regular.learn (regular : Regular timer k (.news place :: pending) d)
    (steady : Steady errands (.news place :: pending) d) (found : d.fetches[place]? = some f)
    (nothing : news? (d.mark place f).fetches f = none) : Regular timer k pending (d.learn place) := by
  have ended := steady.informed.told place f List.mem_cons_self found
  obtain ⟨replied,rounds,_⟩ := regular.replied ended found
  have same : d.learn place = d.mark place f := by
    rcases learn_cases found with ⟨_,_,news,_⟩ | ⟨_,same⟩
    · cases nothing.symm.trans news
    · exact same
  apply regular.move rfl found []
  case waiting => exact learn_waiting d place
  case timer' => exact (learn_fields found).2.1
  case fresh => rw [learn_gathered found,regular.fresh,nothing,Option.none_or]
  case queue => rw [same,mark,List.append_nil]
  case about => simp
  case single => simp
  case within => exact fun rounds before => before.perform (.news place)
  case fetches => exact learn_fetches found
  case cut => rfl
  case stands => exact .known replied rfl rounds

end Queries

section Request

/-- A job that is about no query is the passing of the deadline or the turn of the request, and the
last one of its round. -/
private theorem Countdown.cons_cases (countdown : Countdown timer k (job :: pending) d) :
    job.place?.isSome = true ∨
      (pending = [] ∧ (∀ job ∈ d.queue, job.place?.isSome = true) ∧ d.timer = .off ∧
        d.waiting = .timed ∧ timer ≠ .off) ∧
      (job = .deadline ∧ Within timer k d ∨
        job = .request ∧ ∃ rounds, rounds + 1 = k ∧ Within timer rounds d) := by
  have tail {front : List Job} {last : Job} (same : job :: pending = front ++ [last])
      (placed : ∀ job ∈ front ++ d.queue, job.place?.isSome = true) :
      job.place?.isSome = true ∨
        job = last ∧ pending = [] ∧ ∀ job ∈ d.queue, job.place?.isSome = true := by
    cases front with
    | nil =>
      obtain ⟨rfl,rfl⟩ := List.cons.inj same
      exact .inr ⟨rfl,rfl,placed⟩
    | cons first rest =>
      obtain ⟨rfl,_⟩ := List.cons.inj same
      exact .inl (placed job (by simp))
  cases countdown with
  | running placed => exact .inl (placed job (by simp))
  | passing front last placed off timed armed near =>
    rcases tail last placed with own | ⟨same,done,queued⟩
    · exact .inl own
    · exact .inr ⟨⟨done,queued,off,timed,armed⟩,.inl ⟨same,near⟩⟩
  | called _ done => cases done
  | turn front last placed off timed armed rounds past near =>
    rcases tail last placed with own | ⟨same,done,queued⟩
    · exact .inl own
    · exact .inr ⟨⟨done,queued,off,timed,armed⟩,.inr ⟨same,rounds,past,near⟩⟩

private theorem Regular.expire (regular : Regular timer k [.deadline] d)
    (steady : Steady errands [.deadline] d) (peaceful : Peaceful [.deadline] d)
    (placed : ∀ job ∈ d.queue, job.place?.isSome = true) (off : d.timer = .off)
    (timed : d.waiting = .timed) (armed : timer ≠ .off) (near : Within timer k d) :
    Regular timer k [] d.expire := by
  have uncalled : d.isCalled = false := by
    cases called : d.isCalled with
    | false => rfl
    | true =>
      have waits : d.isOver = false := by simp [isOver,timed]
      have next := steady.lively.prompted.called waits called
      have queued : .request ∈ d.queue := by simpa [ahead,peaceful.late] using next
      cases placed _ queued
  have same : d.expire = { d with isCalled := true }.push .request := by
    have called : d.expire = d.call := by simp only [Dispatch.expire,timed]
    rw [called,call,uncalled,if_neg Bool.false_ne_true]
  rw [same]
  constructor
  case waits => exact regular.waits
  case fresh => exact regular.fresh
  case uncut => exact regular.uncut
  case stands =>
    exact fun place f held => (regular.stands place f held).of_other (by simp [Job.place?]) _
  case order =>
    have order := regular.order
    rw [List.filterMap_append] at order
    rw [List.append_nil,push,List.filterMap_append]
    exact order
  case countdown => exact .called d.queue rfl rfl placed off timed armed near

/-- What a job can do in a dispatch that nobody interrupts, as long as nothing is gathered. It leaves
everything regular, it brings something to gather, or the request has its turn after its deadline
passed, and then it knows the end of every query that had the rounds for one. -/
theorem Regular.perform (regular : Regular timer k (job :: pending) d)
    (steady : Steady errands (job :: pending) d) (peaceful : Peaceful (job :: pending) d) :
    Regular timer k pending (d.perform job) ∨
    (∃ place f answers, job = .news place ∧ d.fetches[place]? = some f ∧
      news? (d.mark place f).fetches f = some answers ∧
      d.perform job = (d.mark place f).gather answers) ∨
    (job = .request ∧ d.waiting = .timed ∧ timer ≠ .off ∧
      ∀ f ∈ d.fetches, timer.covers f.reply.rounds = true →
      (f.hasReplied = true ∧ f.isKnown = true) ∨ f.isResting = true) := by
  rcases regular.countdown.cons_cases with
    own | ⟨⟨rfl,placed,off,timed,armed⟩,⟨rfl,near⟩ | ⟨rfl,rounds,past,near⟩⟩
  · cases job with
    | fetch place => exact .inl (regular.turn peaceful)
    | news place =>
      rw [Dispatch.perform]
      cases found : d.fetches[place]? with
      | none =>
        rw [learn_absent found]
        exact .inl (regular.skip rfl found)
      | some f =>
        rcases learn_cases found with ⟨answers,_,news,same⟩ | ⟨nothing | nothing,same⟩
        · exact .inr (.inl ⟨place,f,answers,rfl,found,news,same⟩)
        · simp [regular.fresh] at nothing
        · exact .inl (regular.learn steady found nothing)
    | _ => cases own
  · exact .inl (regular.expire steady peaceful placed off timed armed near)
  · refine .inr (.inr ⟨rfl,timed,armed,fun f member covered => ?_⟩)
    obtain ⟨place,held⟩ := List.getElem?_of_mem member
    have bound := near f member covered
    cases regular.stands place f held with
    | turn left _ ends => omega
    | next left _ ends => omega
    | news _ _ ahead => simp at ahead
    | nextNews _ ends => omega
    | known replied known => exact .inl ⟨replied,known⟩
    | stalled resting => exact .inr resting

end Request

section Rounds

private theorem Regular.within_of_idle (regular : Regular timer k [] d) (idle : d.queue = []) :
    Within timer (k + 1) d := by
  intro f member _
  obtain ⟨place,held⟩ := List.getElem?_of_mem member
  have stands := regular.stands place f held
  rw [idle] at stands
  exact Nat.le_succ_of_le stands.of_idle.2

private theorem Regular.countdown_opened (regular : Regular timer k [] d)
    (peaceful : Peaceful [] d) :
    Countdown timer (k + 1) d.opened.queue { d.opened with queue := [] } := by
  have within {rounds : Nat} (before : Within timer rounds d) :
      Within timer rounds { d.opened with queue := [] } := by
    simpa only [Within,opened_fetches] using before
  cases regular.countdown with
  | passing front last => simp at last
  | turn front last => simp at last
  | called front _ last placed off timed armed near =>
    rcases opened_cases d with ⟨due,_,_⟩ | ⟨_,timer',queue⟩
    · simp [off,Timer.isDue_iff] at due
    · refine .turn front ?_ (by simpa using placed) ?_ ((opened_waiting d).trans timed) armed k
        rfl (within near)
      · rw [queue,peaceful.late,List.append_nil,last]
      · exact timer'.trans (by rw [off]; rfl)
  | running placed near timed off =>
    rcases opened_cases d with ⟨due,timer',queue⟩ | ⟨undue,timer',queue⟩
    · have armed : d.timer ≠ .off := by
        intro off
        simp [off,Timer.isDue_iff] at due
      refine .passing d.queue ?_ (by simpa using placed) timer' ((opened_waiting d).trans (timed armed))
        (mt off.mpr armed) (within ?_)
      · rw [queue,peaceful.late,List.append_nil]
      · rcases Timer.isDue_iff.mp due with soon | ⟨_,idle⟩
        · have bound := near 0 soon
          rwa [Nat.zero_add,Nat.add_comm] at bound
        · apply regular.within_of_idle
          simpa [peaceful.late] using idle
    · refine .running ?_ ?_ ?_ ?_
      · rw [queue,peaceful.late,List.append_nil]
        simpa using placed
      · intro more same
        have bound := near (more + 1) ((Timer.elapsed_eq_after undue).mp (timer'.symm.trans same))
        rw [show more + 1 + 1 + k = more + 1 + (k + 1) by omega] at bound
        exact within bound
      · intro armed
        refine (opened_waiting d).trans (timed fun off => armed ?_)
        exact timer'.trans (by rw [off]; rfl)
      · rw [← off]
        change d.opened.timer = .off ↔ d.timer = .off
        rw [timer',Timer.elapsed_eq_off]

theorem Regular.opened (regular : Regular timer k [] d) (peaceful : Peaceful [] d) :
    Regular timer (k + 1) d.opened.queue { d.opened with queue := [] } := by
  obtain ⟨more,queue,due⟩ := opened_queue d
  have placeless : more.filterMap Job.place? = [] := by rcases due with rfl | rfl <;> rfl
  rw [peaceful.late,List.append_nil] at queue
  constructor
  case waits => exact (opened_waiting d).symm ▸ regular.waits
  case fresh => exact (opened_gathered d).trans regular.fresh
  case uncut => simpa only [opened_fetches] using regular.uncut
  case stands =>
    intro place f held
    rw [opened_fetches] at held
    rw [queue]
    exact (regular.stands place f held).opened more
  case order =>
    have order := regular.order
    rw [List.append_nil] at order
    rw [queue,List.nil_append,List.filterMap_append,placeless,List.append_nil]
    exact order
  case countdown => exact regular.countdown_opened peaceful

/-- When nothing is left to happen and nothing is gathered, no deadline was ever to pass, and every
query has an end that is known or has none. -/
theorem Regular.of_isQuiet (regular : Regular timer k [] d) (peaceful : Peaceful [] d)
    (quiet : d.isQuiet = true) : timer = .off ∧
      ∀ f ∈ d.fetches, (f.hasReplied = true ∧ f.isKnown = true) ∨ f.isResting = true := by
  have void : d.opened.queue = [] := List.isEmpty_iff.mp quiet
  rcases opened_cases d with ⟨_,_,queue⟩ | ⟨undue,_,queue⟩
  · simp [queue] at void
  · rw [queue,peaceful.late,List.append_nil] at void
    refine ⟨?_,fun f member => ?_⟩
    · cases regular.countdown with
      | running _ _ _ off =>
        apply off.mp
        by_contra armed
        rw [void,peaceful.late] at undue
        cases undue.symm.trans (Timer.isDue_iff.mpr (.inr ⟨armed,rfl⟩))
      | passing front last => simp at last
      | called front _ last => simp [void] at last
      | turn front last => simp at last
    · obtain ⟨place,held⟩ := List.getElem?_of_mem member
      have stands := regular.stands place f held
      rw [void] at stands
      exact stands.of_idle.1

end Rounds

section Launch
variable {layer : Layer} {queries : List Query}

private theorem closing_none (timer : Timer) :
    closing none timer = if timer = .after 0 then [.deadline] else [] := rfl

private theorem turns_placed (fetches : List Fetch) :
    ∀ job ∈ (List.range fetches.length).map Job.fetch, job.place?.isSome = true := by
  intro job member
  obtain ⟨place,_,rfl⟩ := List.mem_map.mp member
  rfl

theorem launched_peaceful (unsignalled : ∀ q ∈ queries, (layer q).ending ≠ .signal)
    (waiting : Waiting) (timer : Timer) :
    Peaceful ((List.range (fresh layer queries).length).map .fetch ++ closing none timer)
      (launched (fresh layer queries) waiting timer) where
  jobs := by
    intro job member
    rw [launched,List.append_nil,closing_none] at member
    rcases List.mem_append.mp member with turn | last
    · obtain ⟨place,_,rfl⟩ := List.mem_map.mp turn
      rfl
    · split at last
      · rw [List.mem_singleton.mp last]
        rfl
      · cases last
  replies := by
    intro f member
    obtain ⟨q,inside,rfl⟩ := List.mem_map.mp member
    exact .inl (unsignalled q inside)
  unstruck := rfl
  late := rfl

private theorem launched_countdown (layer : Layer) (queries : List Query)
    (deadline : Option Quantity) (passing : Option Nat) :
    Countdown (timerFor passing deadline) 0
      ((List.range (fresh layer queries).length).map .fetch ++
        closing none (timerFor passing deadline))
      (launched (fresh layer queries) (waitingFor deadline) (timerFor passing deadline)) := by
  have timed : timerFor passing deadline ≠ .off → waitingFor deadline = .timed := by
    cases deadline with
    | none => exact fun armed => absurd rfl armed
    | some seconds => exact fun _ => rfl
  generalize timerFor passing deadline = timer at timed ⊢
  have placed := turns_placed (fresh layer queries)
  rw [closing_none,launched]
  by_cases soon : timer = .after 0
  · subst soon
    refine .passing _ rfl (by simpa using placed) rfl (timed (by simp)) (by simp)
      fun f _ covered => ?_
    simpa [Timer.covers] using covered
  · rw [if_neg soon,if_neg soon,List.append_nil]
    cases timer with
    | off =>
      exact .running (by simpa using placed) (fun _ same => by cases same)
        (fun armed => absurd rfl armed) (iff_of_true rfl rfl)
    | idle =>
      exact .running (by simpa using placed) (fun _ same => by cases same) (fun _ => timed (by simp))
        (iff_of_false (by simp [ready,Timer.elapsed]) (by simp))
    | after rounds =>
      cases rounds with
      | zero => exact absurd rfl soon
      | succ rounds =>
        refine .running (by simpa using placed) (fun more same f _ covered => ?_)
          (fun _ => timed (by simp)) (iff_of_false (by simp [ready,Timer.elapsed]) (by simp))
        obtain rfl : rounds = more := Timer.after.inj same
        simpa [Timer.covers] using covered

/-- As its first round begins, a dispatch whose caller stays has the turns of all queries ahead. -/
theorem launched_regular (layer : Layer) (queries : List Query) (deadline : Option Quantity)
    (passing : Option Nat) :
    Regular (timerFor passing deadline) 0
      ((List.range (fresh layer queries).length).map .fetch ++
        closing none (timerFor passing deadline))
      (launched (fresh layer queries) (waitingFor deadline) (timerFor passing deadline)) := by
  constructor
  case waits => exact waitingFor_eq deadline
  case fresh => rfl
  case uncut => exact fun f member => (mem_fresh member).2.1
  case countdown => exact launched_countdown layer queries deadline passing
  case stands =>
    intro place f held
    have stage := (mem_fresh (List.mem_of_getElem? held)).1
    obtain ⟨inside,_⟩ := List.getElem?_eq_some_iff.mp held
    refine .turn f.reply.rounds (by simp [Fetch.left?,stage]) rfl ?_
    exact List.mem_append_left _ (List.mem_map_of_mem (List.mem_range.mpr inside))
  case order =>
    have last : (closing none (timerFor passing deadline)).filterMap Job.place? = [] := by
      rw [closing_none]
      split <;> rfl
    have turns : ((List.range (fresh layer queries).length).map Job.fetch).filterMap Job.place? =
        List.range (fresh layer queries).length := by
      rw [List.filterMap_map]
      exact List.filterMap_some
    rw [launched,List.nil_append,List.filterMap_append,last,turns,List.append_nil]
    exact List.pairwise_lt_range

/-- What holds as the first round of a request begins whose caller stays, and after each job and each
round if before it, holds at the end of its run. -/
theorem run_peaceful {P : List Job → Dispatch → Prop} {deadline : Option Quantity}
    {passing : Option Nat} (ahead : isAhead deadline = true) (some : queries ≠ [])
    (unsignalled : ∀ q ∈ queries, (layer q).ending ≠ .signal)
    (step : ∀ job rest d, Steady (queries.map fun q => (q,layer q)) (job :: rest) d →
      Peaceful (job :: rest) d → P (job :: rest) d → P rest (d.perform job))
    (next : ∀ d, Peaceful [] d → P [] d → P d.opened.queue { d.opened with queue := [] })
    (base : P ((List.range (fresh layer queries).length).map .fetch ++
        closing none (timerFor passing deadline))
      (launched (fresh layer queries) (waitingFor deadline) (timerFor passing deadline))) :
    Steady (queries.map fun q => (q,layer q)) []
        (run deadline ⟨none,passing⟩ (fresh layer queries)) ∧
      Peaceful [] (run deadline ⟨none,passing⟩ (fresh layer queries)) ∧
      P [] (run deadline ⟨none,passing⟩ (fresh layer queries)) := by
  refine run_of_launched
    (P := fun pending d => Steady (queries.map fun q => (q,layer q)) pending d ∧
      Peaceful pending d ∧ P pending d)
    (fun job rest d ⟨steady,peaceful,held⟩ =>
      ⟨steady.perform,peaceful.perform,step job rest d steady peaceful held⟩)
    (fun d ⟨steady,peaceful,held⟩ => ⟨steady.opened,peaceful.opened,next d peaceful held⟩)
    ahead (by simp) (by simpa [fresh] using some) ⟨?_,?_,base⟩
  · exact launched_steady layer some deadline _ _
  · exact launched_peaceful unsignalled _ _

end Launch

end Dispatch
end ScopedAnalytics
