import Mathlib.Data.List.Forall2
import ScopedAnalytics.Proofs.Dispatch.Traffic

/-! What a run comes to, by what the layer makes of its queries. It ends well only with the answers of
all, each at the place of its query. One that the layer leaves with a failure or a signal has it end
with a failure. No query reaches the layer once the deadline is over. -/
namespace ScopedAnalytics.Dispatch

variable {pending : List Job} {d : Dispatch} {job : Job} {layer : Layer} {queries : List Query}

section Success

private theorem Informed.of_unknown (unknown : ∀ f ∈ d.fetches, f.isKnown = false)
    (turns : ∀ job ∈ ahead [] d, ∃ place, job = .fetch place) (fresh : d.gathered = none)
    (stopped : ∀ rows, d.waiting = .stopped (.ok rows) → Complete d rows) : Informed [] d where
  told := by
    intro place f member
    obtain ⟨turn,impossible⟩ := turns _ member
    cases impossible
  known _ f member known := absurd known (by simp [unknown f member])
  gathered rows gathered := absurd gathered (by simp [fresh])
  stopped := stopped

theorem start_turns {deadline : Option Quantity} {passing : Option Nat} {fetches : List Fetch}
    (member : job ∈ ahead [] (start deadline passing fetches)) : ∃ place, job = .fetch place := by
  have turn {count : Nat} (first : job ∈ (List.range count).map Job.fetch) :
      ∃ place, job = .fetch place := by
    obtain ⟨place,_,rfl⟩ := List.mem_map.mp first
    exact ⟨place,rfl⟩
  have cut (queued : job ∈ (List.range fetches.length).map Job.fetch ++ wakings fetches) :
      ∃ place, job = .fetch place := (List.mem_append.mp queued).elim turn wakings_fetch
  rcases start_cases deadline passing fetches with ⟨_,same⟩ | ⟨_,same⟩ | ⟨_,same | same⟩
  · simp [same,ahead,ready] at member
  · exact turn (by simpa [same,ahead,ready] using member)
  · exact cut (by simpa [same,ahead,ready,windUp,cutAll] using member)
  · exact cut (by simpa [same,ahead,ready,finish,cutAll] using member)

theorem start_informed (deadline : Option Quantity) (passing : Option Nat) (layer : Layer)
    (queries : List Query) : Informed [] (start deadline passing (fresh layer queries)) := by
  have unknown : ∀ f ∈ fresh layer queries, f.isKnown = false :=
    fun f member => (mem_fresh member).2.2
  have cutUnknown : ∀ f ∈ (fresh layer queries).map Fetch.cut, f.isKnown = false := by
    intro g member
    obtain ⟨f,inside,rfl⟩ := List.mem_map.mp member
    exact f.cut_isKnown.trans (unknown f inside)
  have turns := fun job => @start_turns job deadline passing (fresh layer queries)
  rcases start_cases deadline passing (fresh layer queries) with
    ⟨_,same⟩ | ⟨_,same⟩ | ⟨_,same | same⟩
  · rw [same] at turns ⊢
    refine .of_unknown (by simp [ready]) turns rfl fun rows stopped => ?_
    obtain rfl : [] = rows := Except.ok.inj (Waiting.stopped.inj stopped)
    exact ⟨by simp [ready],rfl⟩
  · rw [same] at turns ⊢
    refine .of_unknown unknown turns rfl fun rows stopped => ?_
    exact absurd stopped (waitingFor_ne_stopped deadline _)
  · rw [same] at turns ⊢
    exact .of_unknown cutUnknown turns rfl (by simp [windUp])
  · rw [same] at turns ⊢
    exact .of_unknown cutUnknown turns rfl (by simp [finish])

private theorem Complete.answers {rows : List (List Row)} (complete : Complete d rows)
    (recorded : Recorded (queries.map fun q => (q,layer q)) d) :
    List.Forall₂ (fun q rows => (layer q).ending = .answer rows) queries rows := by
  have held : List.Forall₂ (fun (errand : Query × Reply (List Row)) rows =>
      errand.2.ending = .answer rows) (d.fetches.map Fetch.errand) (d.fetches.map Fetch.rows) := by
    rw [List.forall₂_map_left_iff,List.forall₂_map_right_iff,List.forall₂_same]
    intro f member
    have agrees := recorded.agrees f member
    rw [Fetch.Agrees,Fetch.stage_of_isFinished (complete.1 f member)] at agrees
    exact agrees
  rw [recorded.errands,← complete.2,List.forall₂_map_left_iff] at held
  exact held

private theorem Informed.of_departure (informed : Informed [] d)
    (leaving : ∀ job ∈ pending, job.isDeparture = true) : Informed pending d where
  told := by
    intro place f member found
    rw [ahead] at member
    rcases List.mem_append.mp member with departs | later
    · exact absurd (leaving _ departs) (by simp [Job.isDeparture])
    · exact informed.told place f later found
  known := informed.known
  gathered := informed.gathered
  stopped := informed.stopped

/-- A request ends well only with an answer of the layer to each of its queries. -/
theorem run_ok (deadline : Option Quantity) (interruption : Interruption) {rows : List (List Row)}
    (stopped : (run deadline interruption (fresh layer queries)).waiting = .stopped (.ok rows)) :
    List.Forall₂ (fun q rows => (layer q).ending = .answer rows) queries rows := by
  have informed : Informed [] (run deadline interruption (fresh layer queries)) :=
    run_jobs_invariant (fun _ _ _ informed => informed.perform) (fun _ informed => informed.opened)
      deadline interruption fun _ leaving =>
        (start_informed deadline interruption.passing layer queries).of_departure leaving
  exact (informed.stopped rows stopped).answers (run_recorded deadline interruption layer queries)

end Success

section Lateness

/-- All queries are cut or ended, none has reached the layer, and nothing was seen of them. -/
private structure Withheld (d : Dispatch) : Prop where
  unsent : ∀ f ∈ d.fetches, f.isSent = false ∧ (f.isCut = true ∨ f.isEnded = true)
  unseen : d.seen = []

private theorem turn_withheld {f : Fetch} (unsent : f.isSent = false)
    (done : f.isCut = true ∨ f.isEnded = true) :
    f.turn.fetch.isSent = false ∧ f.turn.trace = [] := by
  rcases done with cut | ended
  · cases stage : f.stage with
    | unsent => simp [Fetch.turn,Fetch.ending,Fetch.isSent,stage,cut]
    | ended fate =>
      rw [Fetch.turn_of_ended (by simp [Fetch.isEnded,stage])]
      exact ⟨unsent,rfl⟩
    | waiting rounds => simp [Fetch.isSent,stage] at unsent
    | stalled => simp [Fetch.isSent,stage] at unsent
  · rw [Fetch.turn_of_ended ended]
    exact ⟨unsent,rfl⟩

private theorem Withheld.perform (withheld : Withheld d) (job : Job) :
    Withheld (d.perform job) where
  unsent := by
    refine perform_forall (fun f before => ?_) (fun _ before => before) (fun f before => ?_) job
      withheld.unsent
    · exact ⟨(turn_withheld before.1 before.2).1,Fetch.turn_isCut_or_isEnded before.2⟩
    · exact ⟨f.cut_isSent.trans before.1,f.cut_isCut_or_isEnded⟩
  unseen := by
    by_cases own : ∃ place, job = .fetch place
    · obtain ⟨place,rfl⟩ := own
      rw [Dispatch.perform]
      cases found : d.fetches[place]? with
      | none => rw [turn_absent found,withheld.unseen]
      | some f =>
        obtain ⟨unsent,done⟩ := withheld.unsent f (List.mem_of_getElem? found)
        rw [turn_found found,(turn_withheld unsent done).2]
        have seen := note_seen { d with
          fetches := d.fetches.set place f.turn.fetch
          queue := d.queue ++ f.turn.call.jobs place
          late := d.late ++ f.turn.call.lateJobs } []
        exact (seen.trans (.of_eq (by rw [List.append_nil]; exact withheld.unseen))).eq_nil
    · rw [(perform_unseen d job fun place same => own ⟨place,same⟩).seen_eq,withheld.unseen]

/-- Nothing is seen of any query once the deadline is over. -/
theorem run_late_unseen {deadline : Option Quantity} (passed : isAhead deadline = false)
    (interruption : Interruption) :
    (run deadline interruption (fresh layer queries)).seen = [] := by
  have cut : ∀ f ∈ (fresh layer queries).map Fetch.cut,
      f.isSent = false ∧ (f.isCut = true ∨ f.isEnded = true) := by
    intro g member
    obtain ⟨f,inside,rfl⟩ := List.mem_map.mp member
    have unsent : f.isSent = false := by simp [Fetch.isSent,(mem_fresh inside).1]
    exact ⟨f.cut_isSent.trans unsent,f.cut_isCut_or_isEnded⟩
  have base : Withheld (start deadline interruption.passing (fresh layer queries)) := by
    rcases start_cases deadline interruption.passing (fresh layer queries) with
      ⟨_,same⟩ | ⟨ahead,_⟩ | ⟨_,same | same⟩
    · rw [same]
      exact ⟨by simp [ready],rfl⟩
    · exact absurd ahead (by simp [passed])
    · rw [same]
      exact ⟨cut,rfl⟩
    · rw [same]
      exact ⟨cut,rfl⟩
  have withheld : Withheld (run deadline interruption (fresh layer queries)) :=
    run_invariant (fun _ job before => before.perform job)
      (fun d before => ⟨by simpa only [opened_fetches] using before.unsent,
        (opened_seen d).trans before.unseen⟩) deadline interruption base
  exact withheld.unseen

/-- No query reaches the layer once the deadline is over. -/
theorem run_late {deadline : Option Quantity} (passed : isAhead deadline = false)
    (interruption : Interruption) :
    (run deadline interruption (fresh layer queries)).seen.queries = [] := by
  rw [run_late_unseen passed]
  rfl

end Lateness

section Failing

/-- Whether a signal has come as far as the request: it is over, the signal or the leaving that it
brings is ahead, the request is called, or its queries are cut. -/
inductive Noticed (pending : List Job) (d : Dispatch) : Prop
  | past (stopped : d.isOver = true)
  | signal (next : .signal ∈ ahead pending d)
  | leave (next : .leave ∈ ahead pending d)
  | called (called : d.isCalled = true)
  | cut (cut : ∀ f ∈ d.fetches, f.isCut = true ∨ f.isEnded = true)

private theorem leave_noticed (prompted : Prompted (.leave :: pending) d) :
    Noticed pending d.leave := by
  cases waiting : d.waiting with
  | stopped outcome =>
    refine .past ?_
    rw [Dispatch.leave,waiting]
    simp [isOver,waiting]
  | timed => exact .called (by simp [Dispatch.leave,waiting,call_isCalled])
  | expiring => exact .called (by simp [Dispatch.leave,waiting,call_isCalled])
  | leaving => exact .called (by simp [Dispatch.leave,waiting,call_isCalled])
  | plain =>
    cases answered : d.gathered.isSome with
    | true =>
      have called : d.isCalled = true := (prompted.plain waiting).trans answered
      exact .called (by simpa [Dispatch.leave,waiting,answered,strike] using called)
    | false =>
      cases ended : d.fetches.all Fetch.isEnded with
      | true =>
        refine .cut fun f member => .inr ?_
        simp only [Dispatch.leave,waiting,answered,ended,Bool.or_true,if_true,strike] at member
        exact List.all_eq_true.mp ended f member
      | false =>
        refine .cut fun g member => ?_
        simp only [Dispatch.leave,waiting,answered,ended,Bool.or_false,Bool.false_eq_true,if_false,
          cutAll] at member
        obtain ⟨f,_,rfl⟩ := List.mem_map.mp member
        exact f.cut_isCut_or_isEnded

private theorem perform_isCalled (other : job ≠ .request) (called : d.isCalled = true) :
    (d.perform job).isCalled = true := by
  have left : d.leave.isCalled = true := by
    rcases leave_cases d with ⟨_,same⟩ | ⟨_,same | same⟩ | ⟨_,same⟩
    · exact same.symm ▸ called
    · exact same ▸ called
    · exact same ▸ called
    · exact same ▸ call_isCalled _
  have asked {e : Dispatch} (kind : e = d.call ∨ e = d) : e.isCalled = true := by
    rcases kind with rfl | rfl
    · exact call_isCalled d
    · exact called
  cases job with
  | request => exact absurd rfl other
  | fetch place => exact (turn_isCalled d place).trans called
  | release => exact asked ((release_cases d).imp And.right And.right)
  | deadline => exact asked ((expire_cases d).imp_left And.right)
  | signal => exact called
  | leave => exact left
  | caller turns =>
    cases turns with
    | zero => exact left
    | succ turns => exact called
  | news place =>
    rw [Dispatch.perform]
    cases found : d.fetches[place]? with
    | none => rw [learn_absent found,called]
    | some f =>
      rcases learn_cases found with ⟨answers,_,_,same⟩ | ⟨_,same⟩
      · rw [same]
        rcases gather_cases (d.mark place f) answers with ⟨_,same⟩ | ⟨_,same⟩ | ⟨_,same⟩
        · exact same ▸ call_isCalled _
        · exact same ▸ called
        · exact same ▸ called
      · exact same ▸ called

/-- Once it has come as far, a signal is not lost: each stage lasts until the job that brings the next
one. -/
theorem Noticed.perform (noticed : Noticed (job :: pending) d)
    (prompted : Prompted (job :: pending) d) : Noticed pending (d.perform job) := by
  cases noticed with
  | past stopped =>
    refine .past ?_
    rw [isOver,perform_waiting_of_isOver stopped job]
    exact stopped
  | signal next =>
    by_cases own : job = .signal
    · subst own
      exact .leave (by simp [ahead,Dispatch.perform,push])
    · exact .signal (mem_ahead_perform next (Ne.symm own))
  | leave next =>
    by_cases own : job = .leave
    · subst own
      exact leave_noticed prompted
    · exact .leave (mem_ahead_perform next (Ne.symm own))
  | called called =>
    by_cases own : job = .request
    · subst own
      rcases resume_cuts d with same | ⟨_,cut⟩
      · exact .called (by rw [Dispatch.perform,same,called])
      · refine .cut fun g member => ?_
        rw [Dispatch.perform,cut] at member
        obtain ⟨f,_,rfl⟩ := List.mem_map.mp member
        exact f.cut_isCut_or_isEnded
    · exact .called (perform_isCalled own called)
  | cut cut =>
    exact .cut (perform_forall (fun _ => Fetch.turn_isCut_or_isEnded) (fun _ done => done)
      (fun f _ => f.cut_isCut_or_isEnded) job cut)

theorem Noticed.opened (noticed : Noticed [] d) :
    Noticed d.opened.queue { d.opened with queue := [] } := by
  cases noticed with
  | past stopped =>
    refine .past ?_
    rw [isOver,opened_waiting]
    exact stopped
  | signal next => exact .signal (mem_ahead_opened next)
  | leave next => exact .leave (mem_ahead_opened next)
  | called called => exact .called ((opened_isCalled d).trans called)
  | cut cut => exact .cut (by simpa only [opened_fetches] using cut)

theorem Noticed.isOver (noticed : Noticed [] d) (lively : Lively [] d) (attended : Attended [] d)
    (quiet : d.isQuiet = true) : d.isOver = true := by
  cases noticed with
  | past stopped => exact stopped
  | signal next => exact absurd next (not_mem_ahead_of_isQuiet quiet _)
  | leave next => exact absurd next (not_mem_ahead_of_isQuiet quiet _)
  | called called =>
    cases waits : d.isOver with
    | true => rfl
    | false =>
      exact absurd (lively.prompted.called waits called) (not_mem_ahead_of_isQuiet quiet _)
  | cut cut =>
    rcases lively.isOver_or_resting attended quiet with stopped | ⟨f,member,resting⟩
    · exact stopped
    · rcases cut f member with cut | ended
      · cases stage : f.stage <;> simp [Fetch.isResting,stage,cut] at resting
      · cases stage : f.stage <;> simp [Fetch.isResting,Fetch.isEnded,stage] at resting ended

/-- Every query that is left with a signal has it noticed. -/
def Heeded (pending : List Job) (d : Dispatch) : Prop :=
  ∀ f ∈ d.fetches, f.stage = .stalled → f.reply.ending = .signal → Noticed pending d

private theorem Heeded.turn {place : Nat} {f : Fetch} (heeded : Heeded (.fetch place :: pending) d)
    (prompted : Prompted (.fetch place :: pending) d) (found : d.fetches[place]? = some f)
    (stalled : f.turn.fetch.stage = .stalled) (ending : f.turn.fetch.reply.ending = .signal) :
    Noticed pending (d.turn place) := by
  have passage := f.turn_passage
  have late : (d.turn place).late = d.late ++ f.turn.call.lateJobs := turn_late found
  generalize f.turn.fetch = g at passage stalled ending
  generalize f.turn.trace = seen at passage
  generalize f.turn.call = call at passage late
  cases passage with
  | still =>
    have noticed := heeded f (List.mem_of_getElem? found) stalled ending
    exact noticed.perform prompted
  | signalled => exact .signal (by simp [ahead,late,Fetch.Call.lateJobs])
  | silent _ _ _ silence => cases silence.symm.trans ending
  | _ => cases stalled

theorem Heeded.perform (heeded : Heeded (job :: pending) d)
    (prompted : Prompted (job :: pending) d) : Heeded pending (d.perform job) := by
  intro g member stalled ending
  obtain ⟨place,found⟩ := List.getElem?_of_mem member
  obtain ⟨f,held,passes⟩ := perform_place found
  have old (stage : f.stage = .stalled) (reply : f.reply.ending = .signal) :
      Noticed pending (d.perform job) :=
    (heeded f (List.mem_of_getElem? held) stage reply).perform prompted
  cases passes with
  | same => exact old stalled ending
  | learnt => exact old stalled ending
  | cut => exact old (f.cut_stage ▸ stalled) (f.cut_reply ▸ ending)
  | turned own =>
    subst own
    exact heeded.turn prompted held stalled ending

theorem Heeded.opened (heeded : Heeded [] d) :
    Heeded d.opened.queue { d.opened with queue := [] } := by
  intro f member stalled ending
  rw [opened_fetches] at member
  exact (heeded f member stalled ending).opened

private theorem isOver_of_bad {errands : List (Query × Reply (List Row))}
    (steady : Steady errands [] d) (heeded : Heeded [] d) (quiet : d.isQuiet = true) {f : Fetch}
    (member : f ∈ d.fetches) (unfinished : f.isFinished = false)
    (spoken : f.reply.ending ≠ .silence) : d.isOver = true := by
  rcases steady.attended.of_isQuiet quiet f member with ended | resting
  -- The end is known but no answer, so the request has something gathered.
  · refine steady.lively.prompted.isOver_of_isSome quiet ?_
    cases gathered : d.gathered with
    | some answers => rfl
    | none =>
      have known := steady.lively.reported.isKnown quiet member ended
      have finished := steady.informed.known gathered f member known
      exact absurd finished (by simp [unfinished])
  -- The query still waits for an answer, so the signal it was left with was noticed.
  · have stage : f.stage = .stalled := by
      cases stage : f.stage <;> simp [Fetch.isResting,stage] at resting ⊢
    have signal : f.reply.ending = .signal :=
      (Fetch.endless_of_isResting (steady.agrees f member) resting).resolve_left spoken
    exact (heeded f member stage signal).isOver steady.lively steady.attended quiet

/-- A request whose caller stays fails if a query that reached the layer was left with a failure or
a signal. -/
theorem run_error (deadline : Option Quantity) {interruption : Interruption}
    (stays : interruption.leaving ≠ some 1) {q : Query}
    (sent : q ∈ (run deadline interruption (fresh layer queries)).seen.queries)
    (unanswered : ∀ rows, (layer q).ending ≠ .answer rows) (spoken : (layer q).ending ≠ .silence) :
    ∃ failure, (run deadline interruption (fresh layer queries)).waiting =
      .stopped (.error failure) := by
  cases ahead : isAhead deadline with
  | false =>
    rw [run_late ahead] at sent
    cases sent
  | true =>
    obtain ⟨steady,quiet⟩ := run_steady layer queries ahead stays
    have recorded := run_recorded deadline interruption layer queries
    have asked : queries ≠ [] := by
      rintro rfl
      have none := recorded.sent_subperm.length_le
      rw [List.eq_nil_of_length_eq_zero (Nat.le_zero.mp none)] at sent
      cases sent
    have some : fresh layer queries ≠ [] := by simpa [fresh] using asked
    have heeded : Heeded [] (run deadline interruption (fresh layer queries)) := by
      have both := run_of_launched
        (P := fun pending d => Steady (queries.map fun q => (q,layer q)) pending d ∧
          Heeded pending d)
        (fun _ _ _ held => ⟨held.1.perform,held.2.perform held.1.lively.prompted⟩)
        (fun _ held => ⟨held.1.opened,held.2.opened⟩) ahead stays
        some ⟨launched_steady layer asked deadline _ _,?_⟩
      · exact both.2
      · intro f member stalled
        cases (mem_fresh member).1.symm.trans stalled
    generalize run deadline interruption (fresh layer queries) = d at *
    rw [steady.underway.sent.queries] at sent
    obtain ⟨f,member,rfl⟩ := List.mem_map.mp sent
    have reply := (recorded.reply_eq member).2
    have unfinished : f.isFinished = false := by
      cases finished : f.isFinished with
      | false => rfl
      | true =>
        have agrees := steady.agrees f member
        rw [Fetch.Agrees,Fetch.stage_of_isFinished finished,reply] at agrees
        exact absurd agrees (unanswered _)
    obtain ⟨outcome,waiting⟩ :=
      isOver_iff.mp (isOver_of_bad steady heeded quiet member unfinished (reply ▸ spoken))
    cases outcome with
    | error failure => exact ⟨failure,waiting⟩
    | ok rows =>
      have finished := (steady.informed.stopped rows waiting).1 f member
      exact absurd finished (by simp [unfinished])

end Failing

end ScopedAnalytics.Dispatch
