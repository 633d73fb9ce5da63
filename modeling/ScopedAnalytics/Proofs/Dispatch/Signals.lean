import ScopedAnalytics.Proofs.Dispatch.Traffic

/-! Why a run whose caller stays is cancelled: the layer left a query that reached it with a
signal. -/
namespace ScopedAnalytics

/-- Whether a job takes a signal to the request, or its caller away. -/
def Job.isFarewell : Job → Bool
  | signal | leave | caller _ => true
  | _ => false

namespace Fetch
variable {f g : Fetch} {seen : Trace} {call : Call}

/-- Whether nothing but its reply can have ended a query. -/
def Untouched (f : Fetch) : Prop :=
  f.isCut = false ∧ f.stage ≠ .ended .givenUp ∧ f.stage ≠ .ended .dropped

/-- Whether no failure that a query is left with passes for a cancellation. -/
def FailsPlainly (f : Fetch) : Prop :=
  ∀ failure, f.reply.ending = .failure failure → failure.kind ≠ .cancelled

theorem FailsPlainly.of_reply (plain : f.FailsPlainly) (reply : g.reply = f.reply) :
    g.FailsPlainly := by
  intro failure failed
  exact plain failure (reply ▸ failed)

theorem Passage.untouched (passage : f.Passage g seen call) (untouched : f.Untouched) :
    g.Untouched := by
  have uncut := untouched.1
  cases passage with
  | still => exact untouched
  | dropped _ cut => exact absurd cut (by simp [uncut])
  | givenUp _ _ cut => exact absurd cut (by simp [uncut])
  | waits => exact ⟨uncut,by simp,by simp⟩
  | finished => exact ⟨uncut,by simp,by simp⟩
  | failed => exact ⟨uncut,by simp,by simp⟩
  | silent => exact ⟨uncut,by simp,by simp⟩
  | signalled => exact ⟨uncut,by simp,by simp⟩

theorem Passage.of_signal (passage : f.Passage g seen .signal) :
    g.stage = .stalled ∧ g.reply.ending = .signal := by
  cases passage with
  | signalled _ _ _ ending => exact ⟨rfl,ending⟩

end Fetch

namespace Dispatch

variable {pending : List Job} {d e : Dispatch} {job : Job}

section Signal

/-- Whether a query that was sent is left with a signal. -/
def HasSignal (d : Dispatch) : Prop := ∃ f ∈ d.fetches, f.isSent = true ∧ f.reply.ending = .signal

theorem HasSignal.perform (signalled : d.HasSignal) (job : Job) : (d.perform job).HasSignal := by
  refine perform_exists (fun f sent => ?_) (fun _ sent => sent) (fun f sent => ?_) job signalled
  · obtain ⟨_,reply,_⟩ := f.turn_passage.errand
    exact ⟨f.turn_passage.isSent sent.1,reply ▸ sent.2⟩
  · exact ⟨f.cut_isSent.trans sent.1,f.cut_reply ▸ sent.2⟩

theorem HasSignal.opened (signalled : d.HasSignal) :
    ({ d.opened with queue := [] } : Dispatch).HasSignal := by
  simpa only [HasSignal,opened_fetches] using signalled

end Signal

section Jobs

/-- What holds as long as no signal came: the request is neither struck nor about to be, it cuts
its queries only when it stops waiting for their answers, and no failure of theirs passes for a
cancellation. -/
structure Unbidden (pending : List Job) (d : Dispatch) : Prop where
  jobs : ∀ job ∈ ahead pending d, job.isFarewell = false
  unstruck : d.isStruck = false
  stays : d.waiting ≠ .leaving
  agrees : ∀ f ∈ d.fetches, f.Agrees
  own : ∀ f ∈ d.fetches, f.FailsPlainly
  untouched : d.isWinding = false → ∀ f ∈ d.fetches, f.Untouched
  gathered : d.isWinding = false → ∀ failure, d.gathered = some (.error failure) →
    failure.kind ≠ .cancelled
  stopped : ∀ failure, d.waiting = .stopped (.error failure) → failure.kind ≠ .cancelled

theorem Unbidden.tail (unbidden : Unbidden (job :: pending) d) : Unbidden pending d :=
  { unbidden with jobs := fun other member => unbidden.jobs other (List.mem_cons_of_mem _ member) }

private theorem Unbidden.of_same {rest : List Job} (unbidden : Unbidden pending d)
    (fetches : e.fetches = d.fetches) (waiting : e.waiting = d.waiting)
    (gathered : e.gathered = d.gathered) (struck : e.isStruck = d.isStruck)
    (jobs : ∀ job ∈ ahead rest e, job ∈ ahead pending d ∨ job.isFarewell = false) :
    Unbidden rest e where
  jobs other member := (jobs other member).elim (unbidden.jobs other) id
  unstruck := struck.trans unbidden.unstruck
  stays := waiting ▸ unbidden.stays
  agrees := fetches ▸ unbidden.agrees
  own := fetches ▸ unbidden.own
  untouched := by
    rw [isWinding,waiting,fetches]
    exact unbidden.untouched
  gathered := by
    rw [isWinding,waiting,gathered]
    exact unbidden.gathered
  stopped := by
    rw [waiting]
    exact unbidden.stopped

private theorem Unbidden.push (unbidden : Unbidden pending d) (mild : job.isFarewell = false) :
    Unbidden pending (d.push job) := by
  refine unbidden.of_same rfl rfl rfl rfl fun other member => ?_
  simp only [ahead,Dispatch.push,List.mem_append,List.mem_singleton] at member ⊢
  rcases member with before | (queued | rfl) | late
  · exact .inl (.inl before)
  · exact .inl (.inr (.inl queued))
  · exact .inr mild
  · exact .inl (.inr (.inr late))

private theorem Unbidden.call (unbidden : Unbidden pending d) : Unbidden pending d.call := by
  rcases call_cases d with ⟨_,same⟩ | ⟨_,same⟩
  · exact same.symm ▸ unbidden
  · have called : Unbidden pending { d with isCalled := true } :=
      unbidden.of_same rfl rfl rfl rfl fun _ member => .inl member
    exact same ▸ called.push rfl

private theorem Unbidden.of_called (unbidden : Unbidden pending d) (called : e = d.call ∨ e = d) :
    Unbidden pending e := by
  rcases called with rfl | rfl
  · exact unbidden.call
  · exact unbidden

private theorem Unbidden.turn {place : Nat} (unbidden : Unbidden (.fetch place :: pending) d) :
    (d.turn place).HasSignal ∨ Unbidden pending (d.turn place) := by
  cases found : d.fetches[place]? with
  | none => exact .inr ((turn_absent found).symm ▸ unbidden.tail)
  | some f =>
    have fetches := turn_fetches found
    -- No other step can bring a signal in.
    by_cases signal : f.turn.call = .signal
    · obtain ⟨stage,ending⟩ := Fetch.Passage.of_signal (signal ▸ f.turn_passage)
      obtain ⟨inside,_⟩ := List.getElem?_eq_some_iff.mp found
      refine .inl ⟨f.turn.fetch,?_,by simp [Fetch.isSent,stage],ending⟩
      rw [fetches]
      exact List.mem_set inside _
    · right
      constructor
      case jobs =>
        intro job member
        rcases of_mem_ahead_turn found member with before | new | late
        · exact unbidden.tail.jobs job before
        · rcases Fetch.Call.mem_jobs.mp new with ⟨_,rfl⟩ | ⟨_,rfl⟩ <;> rfl
        · exact absurd (Fetch.Call.mem_lateJobs.mp late).1 signal
      case unstruck =>
        rw [turn_isStruck]
        exact unbidden.unstruck
      case stays => exact (turn_waiting d place).symm ▸ unbidden.stays
      case agrees => exact perform_agrees (.fetch place) unbidden.agrees
      case own =>
        refine perform_forall (fun f plain => ?_) (fun _ plain => plain) (fun f plain => ?_)
          (.fetch place) unbidden.own
        · exact plain.of_reply f.turn_passage.errand.2.1
        · exact plain.of_reply f.cut_reply
      case untouched =>
        intro waits g member
        rw [isWinding,turn_waiting] at waits
        rw [fetches] at member
        rcases List.mem_or_eq_of_mem_set member with inside | rfl
        · exact unbidden.untouched waits g inside
        · exact f.turn_passage.untouched (unbidden.untouched waits f (List.mem_of_getElem? found))
      case gathered =>
        rw [isWinding,turn_waiting,turn_gathered]
        exact unbidden.gathered
      case stopped =>
        rw [turn_waiting]
        exact unbidden.stopped

private theorem news?_reply {fetches : List Fetch} {f : Fetch} {failure : Failure}
    (agrees : f.Agrees) (untouched : f.Untouched)
    (news : news? fetches f = some (.error failure)) : f.reply.ending = .failure failure := by
  obtain ⟨_,kept,sent⟩ := untouched
  rcases news?_error news with stage | ⟨_,stage | stage⟩
  · rw [Fetch.Agrees,stage] at agrees
    exact agrees
  · exact absurd stage kept
  · exact absurd stage sent

private theorem Unbidden.mark {place : Nat} {f : Fetch} (unbidden : Unbidden pending d)
    (found : d.fetches[place]? = some f) : Unbidden pending (d.mark place f) := by
  have member := List.mem_of_getElem? found
  have all {P : Fetch → Prop} (known : P f → P { f with isKnown := true })
      (before : ∀ g ∈ d.fetches, P g) : ∀ g ∈ (d.mark place f).fetches, P g := by
    intro g inside
    rcases List.mem_or_eq_of_mem_set inside with inside | rfl
    · exact before g inside
    · exact known (before f member)
  exact { unbidden with
    agrees := all id unbidden.agrees
    own := all id unbidden.own
    untouched := fun waits => all id (unbidden.untouched waits) }

private theorem Unbidden.receive (unbidden : Unbidden pending d)
    {answers : Except Failure (List (List Row))}
    (kind : d.isWinding = false → ∀ failure, answers = .error failure →
      failure.kind ≠ .cancelled) :
    Unbidden pending (d.receive answers) :=
  { unbidden with
    gathered := fun waits failure same => kind waits failure (Option.some.inj same) }

private theorem Unbidden.learn {place : Nat} (unbidden : Unbidden (.news place :: pending) d) :
    Unbidden pending (d.learn place) := by
  cases found : d.fetches[place]? with
  | none => exact (learn_absent found).symm ▸ unbidden.tail
  | some f =>
    have member := List.mem_of_getElem? found
    have marked := unbidden.tail.mark found
    rcases learn_cases found with ⟨answers,_,news,same⟩ | ⟨_,same⟩
    · have received : Unbidden pending ((d.mark place f).receive answers) := by
        refine marked.receive fun waits failure failed => ?_
        have reply := news?_reply (unbidden.agrees f member) (unbidden.untouched waits f member)
          (failed ▸ news)
        exact unbidden.own f member failure reply
      rw [same]
      rcases gather_cases (d.mark place f) answers with ⟨_,same⟩ | ⟨_,same⟩ | ⟨_,same⟩
      · exact same ▸ received.call
      · exact same ▸ received.push rfl
      · exact same ▸ received
    · exact same ▸ marked

private theorem Unbidden.of_cut (unbidden : Unbidden pending d)
    (fetches : e.fetches = d.fetches.map Fetch.cut)
    (queue : e.queue = d.queue ++ wakings d.fetches) (late : e.late = d.late)
    (struck : e.isStruck = false) (stays : e.waiting ≠ .leaving) (winding : e.isWinding = true)
    (stopped : ∀ failure, e.waiting = .stopped (.error failure) → failure.kind ≠ .cancelled) :
    Unbidden pending e where
  jobs := by
    intro job member
    simp only [ahead,queue,late,List.mem_append] at member
    rcases member with before | (queued | woken) | last
    · exact unbidden.jobs job (by simp [ahead,before])
    · exact unbidden.jobs job (by simp [ahead,queued])
    · obtain ⟨place,rfl⟩ := wakings_fetch woken
      rfl
    · exact unbidden.jobs job (by simp [ahead,last])
  unstruck := struck
  stays := stays
  agrees := by
    rw [fetches]
    intro g member
    obtain ⟨f,inside,rfl⟩ := List.mem_map.mp member
    exact Fetch.cut_agrees (unbidden.agrees f inside)
  own := by
    rw [fetches]
    intro g member
    obtain ⟨f,inside,rfl⟩ := List.mem_map.mp member
    exact (unbidden.own f inside).of_reply f.cut_reply
  untouched waits := absurd winding (by simp [waits])
  gathered waits := absurd winding (by simp [waits])
  stopped := stopped

private theorem Unbidden.resume (unbidden : Unbidden (.request :: pending) d) :
    Unbidden pending d.resume := by
  rcases resume_cases d with
    ⟨_,same⟩ | ⟨_,⟨struck,_⟩ | ⟨_,same⟩⟩ | ⟨outcome,same,_,ending⟩
  · exact same.symm ▸ unbidden.tail
  · exact absurd unbidden.unstruck (by simp [struck])
  · rw [same]
    exact unbidden.tail.of_cut rfl rfl rfl rfl (by simp [windUp]) rfl (by simp [windUp])
  · rw [same]
    refine unbidden.tail.of_cut rfl rfl rfl unbidden.unstruck (by simp [finish]) rfl ?_
    intro failure stopped cancelled
    rcases ending failure (Waiting.stopped.inj stopped) with
      ⟨_,struck | leaving⟩ | ⟨rfl,_⟩ | ⟨gathered,waits⟩
    · exact absurd unbidden.unstruck (by simp [struck])
    · exact unbidden.stays leaving
    · cases cancelled
    · rcases waits with waits | waits | ⟨_,kind⟩
      · exact unbidden.gathered (by simp [isWinding,waits]) failure gathered cancelled
      · exact unbidden.gathered (by simp [isWinding,waits]) failure gathered cancelled
      · exact kind cancelled

theorem Unbidden.perform (unbidden : Unbidden (job :: pending) d) :
    (d.perform job).HasSignal ∨ Unbidden pending (d.perform job) := by
  have mild := unbidden.jobs job (by simp [ahead])
  cases job with
  | fetch place => exact unbidden.turn
  | news place => exact .inr unbidden.learn
  | request => exact .inr unbidden.resume
  | release => exact .inr (unbidden.tail.of_called ((release_cases d).imp And.right And.right))
  | deadline => exact .inr (unbidden.tail.of_called ((expire_cases d).imp_left And.right))
  | signal => cases mild
  | leave => cases mild
  | caller turns => cases mild

theorem Unbidden.opened (unbidden : Unbidden [] d) :
    Unbidden d.opened.queue { d.opened with queue := [] } := by
  refine unbidden.of_same (opened_fetches d) (opened_waiting d) (opened_gathered d)
    (opened_isStruck d) fun job member => ?_
  rcases of_mem_ahead_opened member with before | rfl
  · exact .inl before
  · exact .inr rfl

end Jobs

section Run

private theorem ready_unbidden {fetches : List Fetch} {waiting : Waiting} (timer : Timer)
    (fresh : ∀ f ∈ fetches, f.stage = .unsent ∧ f.isCut = false)
    (own : ∀ f ∈ fetches, f.FailsPlainly)
    (stays : waiting ≠ .leaving) (stopped : ∀ failure, waiting ≠ .stopped (.error failure)) :
    Unbidden [] (ready fetches waiting timer) where
  jobs := by
    intro job member
    simp only [ahead,ready,List.nil_append,List.append_nil,List.mem_map] at member
    obtain ⟨place,_,rfl⟩ := member
    rfl
  unstruck := rfl
  stays := stays
  agrees f member := by simp [Fetch.Agrees,(fresh f member).1]
  own := own
  untouched _ f member := by
    obtain ⟨stage,uncut⟩ := fresh f member
    exact ⟨uncut,by simp [stage],by simp [stage]⟩
  gathered _ _ := by simp [ready]
  stopped failure same := absurd same (stopped failure)

private theorem start_unbidden (deadline : Option Quantity) (passing : Option Nat)
    {fetches : List Fetch} (fresh : ∀ f ∈ fetches, f.stage = .unsent ∧ f.isCut = false)
    (own : ∀ f ∈ fetches, f.FailsPlainly) : Unbidden [] (start deadline passing fetches) := by
  have plain : Unbidden [] (ready fetches .plain .off) :=
    ready_unbidden .off fresh own (by simp) (by simp)
  rcases start_cases deadline passing fetches with ⟨_,same⟩ | ⟨_,same⟩ | ⟨_,same | same⟩
  · rw [same]
    exact ready_unbidden _ (by simp) (by simp) (by simp) (by simp)
  · rw [same]
    apply ready_unbidden _ fresh own
    · rcases waitingFor_eq deadline with waits | waits <;> simp [waits]
    · exact fun _ => waitingFor_ne_stopped deadline _
  · rw [same]
    exact plain.of_cut rfl rfl rfl rfl (by simp [windUp]) rfl (by simp [windUp])
  · rw [same]
    refine plain.of_cut rfl rfl rfl rfl (by simp [finish]) rfl ?_
    rintro failure ⟨⟩
    simp [overlong]

/-- A request whose caller stays is cancelled only if the layer left a query that reached it with a
signal, unless it fails one as if it were cancelled. -/
theorem signal_of_cancelled {layer : Layer} {queries : List Query}
    (own : ∀ q ∈ queries, ∀ failure, (layer q).ending = .failure failure →
      failure.kind ≠ .cancelled) (deadline : Option Quantity) (passing : Option Nat)
    {failure : Failure} (cancelled : failure.kind = .cancelled)
    (stopped : (run deadline ⟨none,passing⟩ (fresh layer queries)).waiting =
      .stopped (.error failure)) :
    ∃ q ∈ (run deadline ⟨none,passing⟩ (fresh layer queries)).seen.queries,
      (layer q).ending = .signal := by
  have base : Unbidden [] (start deadline passing (fresh layer queries)) := by
    apply start_unbidden
    · exact fun f member => ⟨(mem_fresh member).1,(mem_fresh member).2.1⟩
    · intro f member
      obtain ⟨q,inside,rfl⟩ := List.mem_map.mp member
      exact own q inside
  have recorded := run_recorded deadline ⟨none,passing⟩ layer queries
  -- The invariant holds until a query is left with a signal, which it stays with from then on.
  have kept : (run deadline ⟨none,passing⟩ (fresh layer queries)).HasSignal ∨
      Unbidden [] (run deadline ⟨none,passing⟩ (fresh layer queries)) := by
    refine rounds_induction (P := fun pending d => d.HasSignal ∨ Unbidden pending d) ?_ ?_
      (.inr base) _
    · intro job rest d before
      rcases before with signalled | unbidden
      · exact .inl (signalled.perform job)
      · exact unbidden.perform
    · exact fun d before => before.imp HasSignal.opened Unbidden.opened
  rcases kept with ⟨f,member,sent,ending⟩ | unbidden
  · refine ⟨f.query,?_,(recorded.reply_eq member).2 ▸ ending⟩
    exact recorded.sent.mem_iff.mpr (List.mem_filterMap.mpr ⟨f,member,by simp [Fetch.sent?,sent]⟩)
  · exact absurd cancelled (unbidden.stopped failure stopped)

end Run

end Dispatch
end ScopedAnalytics
