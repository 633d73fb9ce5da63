import ScopedAnalytics.Proofs.Dispatch.Settling

/-! Why a dispatch does not stop early. The end of a query is known or its news is ahead, a request
that has its answers is called or about to be, and one that is called has its turn ahead. So a
request that never ends waits for a query that has no end. -/
namespace ScopedAnalytics.Dispatch

variable {pending : List Job} {d e : Dispatch} {job : Job}

section News

/-- The news of every end that is not known yet is ahead. -/
def Reported (pending : List Job) (d : Dispatch) : Prop :=
  ∀ place f, d.fetches[place]? = some f → f.isEnded = true → f.isKnown = false →
    .news place ∈ ahead pending d

private theorem isEnded_or_news {f g : Fetch} {seen : Trace} {call : Fetch.Call}
    (passage : f.Passage g seen call) (ended : g.isEnded = true) :
    f.isEnded = true ∨ call = .news := by
  cases passage with
  | still => exact .inl ended
  | dropped => exact .inr rfl
  | givenUp => exact .inr rfl
  | waits => simp [Fetch.isEnded] at ended
  | finished => exact .inr rfl
  | failed => exact .inr rfl
  | silent => simp [Fetch.isEnded] at ended
  | signalled => simp [Fetch.isEnded] at ended

theorem Reported.perform (reported : Reported (job :: pending) d) :
    Reported pending (d.perform job) := by
  intro place g found ended unknown
  obtain ⟨f,held,passes⟩ := perform_place found
  cases passes with
  | same other => exact mem_ahead_perform (reported place g held ended unknown) (Ne.symm other.2)
  | turned own queue =>
    rcases isEnded_or_news f.turn_passage ended with before | news
    · rw [f.turn_passage.errand.2.2] at unknown
      exact mem_ahead_perform (reported place f held before unknown) (by simp [own])
    · simp [ahead,queue,news,Fetch.Call.jobs]
  | learnt => cases unknown
  | cut other =>
    rw [f.cut_isEnded] at ended
    rw [f.cut_isKnown] at unknown
    exact mem_ahead_perform (reported place f held ended unknown) (Ne.symm other.2)

theorem Reported.opened (reported : Reported [] d) :
    Reported d.opened.queue { d.opened with queue := [] } := by
  intro place f found ended unknown
  rw [opened_fetches] at found
  exact mem_ahead_opened (reported place f found ended unknown)

/-- As long as a request waits and has nothing gathered, there is an end that it does not know. -/
def Expecting (d : Dispatch) : Prop :=
  d.isOver = false → d.gathered = none → ∃ f ∈ d.fetches, f.isKnown = false

private theorem perform_isOver (waits : (d.perform job).isOver = false) : d.isOver = false := by
  cases stopped : d.isOver with
  | false => rfl
  | true =>
    have same := perform_waiting_of_isOver stopped job
    rw [isOver,same] at waits
    exact absurd stopped (by rw [isOver,waits]; exact Bool.false_ne_true)

theorem Expecting.perform (expecting : Expecting d) (informed : Informed (job :: pending) d) :
    Expecting (d.perform job) := by
  intro waits fresh
  by_cases own : ∃ told, job = .news told ∧ told < d.fetches.length
  · obtain ⟨told,rfl,inside⟩ := own
    have found : d.fetches[told]? = some d.fetches[told] := List.getElem?_eq_getElem inside
    have ended := informed.told told _ List.mem_cons_self found
    rw [Dispatch.perform,learn_gathered found,Option.or_eq_none_iff] at fresh
    have same : (d.perform (.news told)).fetches = (d.mark told d.fetches[told]).fetches := by
      rw [Dispatch.perform,learn_fetches found,mark]
    have unknown : (d.mark told d.fetches[told]).fetches.all Fetch.isKnown = false := by
      cases known : (d.mark told d.fetches[told]).fetches.all Fetch.isKnown with
      | false => rfl
      | true =>
        have nothing := fresh.2
        cases stage : d.fetches[told].stage with
        | unsent => simp [Fetch.isEnded,stage] at ended
        | waiting rounds => simp [Fetch.isEnded,stage] at ended
        | stalled => simp [Fetch.isEnded,stage] at ended
        | ended fate => cases fate <;> simp [news?,stage,known] at nothing
    rw [List.all_eq_false] at unknown
    obtain ⟨f,member,unknown⟩ := unknown
    exact ⟨f,same ▸ member,by simpa using unknown⟩
  · have before := gathered_of_perform fresh
    obtain ⟨f,member,unknown⟩ := expecting (perform_isOver waits) before
    obtain ⟨place,found⟩ := List.getElem?_of_mem member
    obtain ⟨inside,_⟩ := List.getElem?_eq_some_iff.mp found
    obtain ⟨g,after,passes⟩ := perform_held found job
    refine ⟨g,List.mem_of_getElem? after,?_⟩
    cases passes with
    | same => exact unknown
    | turned => exact f.turn_passage.errand.2.2.trans unknown
    | learnt same => exact absurd ⟨place,same,inside⟩ own
    | cut => exact f.cut_isKnown.trans unknown

theorem Expecting.opened (expecting : Expecting d) : Expecting { d.opened with queue := [] } := by
  intro waits fresh
  simp only [isOver,opened_waiting,opened_gathered] at waits fresh
  simpa only [opened_fetches] using expecting waits fresh

end News

section Calls

/-- A request is called as soon as it has its answers, or it is to be released by them, and one that
is called has its turn ahead. -/
structure Prompted (pending : List Job) (d : Dispatch) : Prop where
  plain : d.waiting = .plain → d.isCalled = d.gathered.isSome
  guarded : d.isGuarded = true → d.gathered.isSome = true →
    d.isCalled = true ∨ .release ∈ ahead pending d
  called : d.isOver = false → d.isCalled = true → .request ∈ ahead pending d

private theorem Prompted.of_same (prompted : Prompted (job :: pending) d)
    (waiting : e.waiting = d.waiting) (gathered : e.gathered = d.gathered)
    (called : e.isCalled = d.isCalled)
    (release : .release ∈ ahead (job :: pending) d → .release ∈ ahead pending e)
    (request : .request ∈ ahead (job :: pending) d → .request ∈ ahead pending e) :
    Prompted pending e where
  plain := by
    rw [waiting,gathered,called]
    exact prompted.plain
  guarded := by
    rw [isGuarded,waiting,gathered,called]
    intro guarded answered
    exact (prompted.guarded guarded answered).imp_right release
  called := by
    rw [isOver,waiting,called]
    intro waits turn
    exact request (prompted.called waits turn)

theorem call_isCalled (d : Dispatch) : d.call.isCalled = true := by rw [call_eq]

/-- A request that is called has its turn ahead, because it had it already or because it is
queued for it. -/
private theorem request_mem_call (before : d.isCalled = true → .request ∈ ahead pending d) :
    .request ∈ ahead pending d.call := by
  rcases call_cases d with ⟨called,same⟩ | ⟨_,same⟩
  · exact same.symm ▸ before called
  · simp [same,ahead,push]

private theorem Prompted.of_call (guarded : d.isGuarded = true)
    (before : d.isCalled = true → .request ∈ ahead pending d) : Prompted pending d.call where
  plain := by
    intro plain
    rw [call_waiting] at plain
    simp [isGuarded,plain] at guarded
  guarded _ _ := .inl d.call_isCalled
  called _ _ := request_mem_call before

private theorem mem_ahead_of_unseen {other : Job} (unseen : Unseen d e)
    (member : other ∈ ahead pending d) : other ∈ ahead pending e := by
  simp only [ahead,List.mem_append] at member ⊢
  rcases member with inside | queued | late
  · exact .inl inside
  · exact .inr (.inl (unseen.queue.subset queued))
  · exact .inr (.inr (unseen.late ▸ late))

private theorem mem_ahead_unseen {other : Job} (unseen : Unseen d e) (different : other ≠ job)
    (member : other ∈ ahead (job :: pending) d) : other ∈ ahead pending e := by
  refine mem_ahead_of_unseen unseen ?_
  rw [ahead,List.cons_append] at member
  exact (List.mem_cons.mp member).resolve_left different

private theorem Prompted.call (prompted : Prompted (job :: pending) d) (guarded : d.isGuarded = true)
    (other : job ≠ .request) : Prompted pending d.call := by
  apply Prompted.of_call guarded
  intro called
  exact mem_ahead_unseen (.refl d) (Ne.symm other)
    (prompted.called (isOver_of_isGuarded guarded) called)

private theorem Prompted.keep (prompted : Prompted (job :: pending) d)
    (release : job ≠ .release) (request : job ≠ .request) : Prompted pending d :=
  prompted.of_same rfl rfl rfl (mem_ahead_unseen (.refl d) (Ne.symm release))
    (mem_ahead_unseen (.refl d) (Ne.symm request))

theorem Prompted.of_isOver (stopped : d.isOver = true) : Prompted pending d := by
  obtain ⟨outcome,waiting⟩ := isOver_iff.mp stopped
  exact ⟨by simp [waiting],by simp [isGuarded,waiting],by simp [stopped]⟩

private theorem Prompted.gather {place : Nat} (prompted : Prompted (.news place :: pending) d)
    (answers : Except Failure (List (List Row))) :
    Prompted pending (d.gather answers) := by
  have received := receive_unseen d answers
  have request : d.isOver = false → d.isCalled = true →
      .request ∈ ahead pending (d.receive answers) := fun waits called =>
    mem_ahead_unseen received (by simp) (prompted.called waits called)
  rcases gather_cases d answers with ⟨plain,same⟩ | ⟨guarded,same⟩ | ⟨stopped,same⟩
  · have waits : d.isOver = false := by simp [isOver,plain]
    rw [same]
    constructor
    case plain =>
      intro _
      rw [call_isCalled,call_gathered]
      rfl
    case guarded => exact fun _ _ => .inl (call_isCalled _)
    case called => exact fun _ _ => request_mem_call (request waits)
  · rw [same]
    constructor
    case plain =>
      intro plain
      have waiting : d.waiting = .plain := plain
      simp [isGuarded,waiting] at guarded
    case guarded => exact fun _ _ => .inr (by simp [ahead,push])
    case called =>
      exact fun waits called => mem_ahead_of_unseen (push_unseen _ rfl) (request waits called)
  · rw [same]
    exact .of_isOver stopped

private theorem Prompted.learn {place : Nat} (prompted : Prompted (.news place :: pending) d) :
    Prompted pending (d.learn place) := by
  cases found : d.fetches[place]? with
  | none => exact (learn_absent found).symm ▸ prompted.keep (by simp) (by simp)
  | some f =>
    have marked : Prompted (.news place :: pending) (d.mark place f) :=
      ⟨prompted.plain,prompted.guarded,prompted.called⟩
    rcases learn_cases found with ⟨answers,_,_,same⟩ | ⟨_,same⟩
    · exact same ▸ marked.gather answers
    · exact same ▸ marked.keep (by simp) (by simp)

private theorem Prompted.release (prompted : Prompted (.release :: pending) d) :
    Prompted pending d.release := by
  rcases release_cases d with ⟨guarded,same⟩ | ⟨unguarded,same⟩
  · exact same ▸ prompted.call guarded (by simp)
  · rw [same]
    refine ⟨prompted.plain,by simp [unguarded],fun waits called => ?_⟩
    exact mem_ahead_unseen (.refl d) (by simp) (prompted.called waits called)

private theorem Prompted.expire (prompted : Prompted (.deadline :: pending) d) :
    Prompted pending d.expire := by
  rcases expire_cases d with ⟨guarded,same⟩ | same
  · exact same ▸ prompted.call guarded (by simp)
  · exact same.symm ▸ prompted.keep (by simp) (by simp)

private theorem Prompted.leave (prompted : Prompted (job :: pending) d) (release : job ≠ .release)
    (request : job ≠ .request) : Prompted pending d.leave := by
  have struck : Prompted (job :: pending) d.strike :=
    ⟨prompted.plain,prompted.guarded,prompted.called⟩
  rcases leave_cases d with ⟨_,same⟩ | ⟨_,same | same⟩ | ⟨guarded,same⟩
  · exact same.symm ▸ prompted.keep release request
  · exact same ▸ struck.keep release request
  · rw [same]
    exact prompted.of_same rfl rfl rfl (mem_ahead_unseen (cutAll_unseen d) (Ne.symm release))
      (mem_ahead_unseen (cutAll_unseen d) (Ne.symm request))
  · exact same ▸ struck.call guarded request

private theorem Prompted.resume (prompted : Prompted (.request :: pending) d) :
    Prompted pending d.resume := by
  have wound (waiting : Waiting) (fresh : d.gathered = none) (guarded : waiting ≠ .plain) :
      Prompted pending (d.windUp waiting) := by
    refine ⟨fun plain => absurd plain guarded,fun _ answered => ?_,fun _ called => ?_⟩
    · exact absurd answered (by simp [windUp,cutAll,fresh])
    · exact absurd called (by simp [windUp])
  rcases resume_cases d with ⟨stopped | ⟨plain,fresh⟩,same⟩ | ⟨⟨_,fresh⟩,⟨_,same⟩ | ⟨_,same⟩⟩ |
      ⟨_,same,_⟩
  · exact same.symm ▸ .of_isOver stopped
  · have uncalled : d.isCalled = false := by simpa [fresh] using prompted.plain plain
    rw [same]
    exact ⟨prompted.plain,by simp [isGuarded,plain],by simp [uncalled]⟩
  · exact same ▸ wound _ fresh (by simp)
  · exact same ▸ wound _ fresh (by simp)
  · exact same ▸ .of_isOver rfl

theorem Prompted.perform (prompted : Prompted (job :: pending) d) :
    Prompted pending (d.perform job) := by
  cases job with
  | fetch place =>
    exact prompted.of_same (turn_waiting d place) (turn_gathered d place) (turn_isCalled d place)
      (fun member => mem_ahead_perform member (by simp))
      (fun member => mem_ahead_perform member (by simp))
  | news place => exact prompted.learn
  | release => exact prompted.release
  | deadline => exact prompted.expire
  | request => exact prompted.resume
  | signal =>
    exact prompted.of_same rfl rfl rfl (mem_ahead_unseen (push_unseen d rfl) (by simp))
      (mem_ahead_unseen (push_unseen d rfl) (by simp))
  | leave => exact prompted.leave (by simp) (by simp)
  | caller turns =>
    cases turns with
    | zero => exact prompted.leave (by simp) (by simp)
    | succ turns =>
      exact prompted.of_same rfl rfl rfl (mem_ahead_unseen (push_unseen d rfl) (by simp))
        (mem_ahead_unseen (push_unseen d rfl) (by simp))

theorem Prompted.opened (prompted : Prompted [] d) :
    Prompted d.opened.queue { d.opened with queue := [] } := by
  refine ⟨?_,?_,?_⟩
  · rw [opened_waiting,opened_gathered,opened_isCalled]
    exact prompted.plain
  · rw [isGuarded,opened_waiting,opened_gathered,opened_isCalled]
    exact fun guarded answered => (prompted.guarded guarded answered).imp_right mem_ahead_opened
  · rw [isOver,opened_waiting,opened_isCalled]
    exact fun waits turn => mem_ahead_opened (prompted.called waits turn)

end Calls

section Liveness

/-- What makes a dispatch go on until it is over or waits for a query that has no end. -/
structure Lively (pending : List Job) (d : Dispatch) : Prop where
  reported : Reported pending d
  expecting : Expecting d
  prompted : Prompted pending d

theorem Lively.perform (lively : Lively (job :: pending) d)
    (informed : Informed (job :: pending) d) : Lively pending (d.perform job) :=
  ⟨lively.reported.perform,lively.expecting.perform informed,lively.prompted.perform⟩

theorem Lively.opened (lively : Lively [] d) : Lively d.opened.queue { d.opened with queue := [] } :=
  ⟨lively.reported.opened,lively.expecting.opened,lively.prompted.opened⟩

theorem Prompted.isOver_of_isSome (prompted : Prompted [] d) (quiet : d.isQuiet = true)
    (answered : d.gathered.isSome = true) : d.isOver = true := by
  cases waits : d.isOver with
  | true => rfl
  | false =>
    have called : d.isCalled = true := by
      cases guarded : d.isGuarded with
      | true =>
        have release := prompted.guarded guarded answered
        exact release.resolve_right (not_mem_ahead_of_isQuiet quiet _)
      | false =>
        have plain : d.waiting = .plain := by
          cases waiting : d.waiting <;> simp [isGuarded,isOver,waiting] at guarded waits ⊢
        rw [prompted.plain plain]
        exact answered
    exact absurd (prompted.called waits called) (not_mem_ahead_of_isQuiet quiet _)

theorem Reported.isKnown (reported : Reported [] d) (quiet : d.isQuiet = true) {f : Fetch}
    (member : f ∈ d.fetches) (ended : f.isEnded = true) : f.isKnown = true := by
  obtain ⟨place,found⟩ := List.getElem?_of_mem member
  cases known : f.isKnown with
  | true => rfl
  | false => exact absurd (reported place f found ended known) (not_mem_ahead_of_isQuiet quiet _)

/-- When nothing is left to happen, the request has stopped waiting or it waits for a query that
has no end. -/
theorem Lively.isOver_or_resting (lively : Lively [] d) (attended : Attended [] d)
    (quiet : d.isQuiet = true) : d.isOver = true ∨ ∃ f ∈ d.fetches, f.isResting = true := by
  by_cases resting : ∃ f ∈ d.fetches, f.isResting = true
  · exact .inr resting
  · refine .inl ?_
    cases waits : d.isOver with
    | true => rfl
    | false =>
      have answered : d.gathered.isSome = true := by
        cases gathered : d.gathered with
        | some answers => rfl
        | none =>
          obtain ⟨f,member,unknown⟩ := lively.expecting waits gathered
          rcases attended.of_isQuiet quiet f member with ended | rests
          · have known := lively.reported.isKnown quiet member ended
            exact absurd known (by simp [unknown])
          · exact absurd ⟨f,member,rests⟩ resting
      exact waits.symm.trans (lively.prompted.isOver_of_isSome quiet answered)

end Liveness

end ScopedAnalytics.Dispatch
