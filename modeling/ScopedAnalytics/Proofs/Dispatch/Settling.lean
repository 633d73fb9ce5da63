import ScopedAnalytics.Proofs.Dispatch.Steps
import ScopedAnalytics.Proofs.Fetch.Fates

/-! What holds of a dispatch at all times, and what that leaves when nothing is left to happen. A
query that has a turn ahead is queued for it, one that has not ended as the request stops waiting
is cut, and what was counted and given up is what the queries came to. -/
namespace ScopedAnalytics.Dispatch

variable {pending : List Job} {d : Dispatch} {job : Job}

section Record

private theorem filterMap_cons_toList {α β : Type} (mark : α → Option β) (a : α) (items : List α) :
    (a :: items).filterMap mark = (mark a).toList ++ items.filterMap mark := by
  cases marked : mark a <;> simp [marked]

private theorem filterMap_set_perm {α β : Type} {items : List α} {place : Nat} {a b : α}
    (mark : α → Option β) (found : items[place]? = some a) :
    ((items.set place b).filterMap mark ++ (mark a).toList).Perm
      (items.filterMap mark ++ (mark b).toList) := by
  induction items generalizing place with
  | nil => simp at found
  | cons item items ih =>
    cases place with
    | zero =>
      obtain rfl : item = a := by simpa using found
      simp only [List.set_cons_zero,filterMap_cons_toList,List.append_assoc]
      refine (List.perm_append_comm_assoc _ _ _).trans ?_
      refine (List.Perm.append_left _ List.perm_append_comm).trans ?_
      exact List.perm_append_comm_assoc _ _ _
    | succ place =>
      have rest := ih (by simpa using found)
      simp only [List.set_cons_succ,filterMap_cons_toList,List.append_assoc]
      exact rest.append_left _

theorem note_seen (d : Dispatch) (events : Trace) : (d.note events).seen.Perm (d.seen ++ events) := by
  unfold note seen
  split
  · exact List.Perm.of_eq (List.append_assoc _ _ _).symm
  · simp only [List.append_assoc]
    exact List.Perm.append_left _ List.perm_append_comm

theorem Unseen.seen_eq {e : Dispatch} (unseen : Unseen d e) : e.seen = d.seen := by
  rw [seen,seen,unseen.trace,unseen.aftermath]

/-- A view of the queries that the news of their ends and their cut leave as it is changes in no other
job than their turns. -/
theorem perform_map_of_other {α : Type} {view : Fetch → α} (other : ∀ place, job ≠ .fetch place)
    (known : ∀ f : Fetch, view { f with isKnown := true } = view f)
    (cut : ∀ f : Fetch, view f.cut = view f) :
    (d.perform job).fetches.map view = d.fetches.map view := by
  have touch := perform_touch d job
  generalize d.perform job = e at touch ⊢
  cases touch with
  | turned place same => exact absurd same (other place)
  | learnt place =>
    cases found : d.fetches[place]? with
    | none => rw [learn_absent found]
    | some f => rw [learn_fetches found,map_set_of_eq found (known f)]
  | cut _ _ fetches =>
    rw [fetches,List.map_map]
    exact List.map_congr_left fun f _ => cut f
  | none _ _ fetches => rw [fetches]

/-- What is seen of the queries stays what they have come to, if each of their turns shows what it
changes. -/
theorem perform_record {α : Type} {event : Event → Option α} {mark : Fetch → Option α}
    (turn : ∀ f : Fetch,
      (mark f).toList ++ f.turn.trace.filterMap event = (mark f.turn.fetch).toList)
    (known : ∀ f, mark { f with isKnown := true } = mark f) (cut : ∀ f : Fetch, mark f.cut = mark f)
    (job : Job) (recorded : (d.seen.filterMap event).Perm (d.fetches.filterMap mark)) :
    ((d.perform job).seen.filterMap event).Perm ((d.perform job).fetches.filterMap mark) := by
  by_cases own : ∃ place, job = .fetch place
  · obtain ⟨place,rfl⟩ := own
    rw [perform]
    cases found : d.fetches[place]? with
    | none => rwa [turn_absent found]
    | some f =>
      have swap := filterMap_set_perm (b := f.turn.fetch) mark found
      rw [turn_fetches found,turn_found found]
      refine ((note_seen _ _).filterMap event).trans ?_
      rw [List.filterMap_append]
      refine (List.Perm.append_right _ recorded).trans ?_
      refine (List.perm_append_right_iff (mark f).toList).mp ?_
      refine List.Perm.trans ?_ swap.symm
      rw [List.append_assoc,← turn f]
      exact List.Perm.append_left _ List.perm_append_comm
  · have unseen := perform_unseen d job fun place same => own ⟨place,same⟩
    have kept : (d.perform job).fetches.map mark = d.fetches.map mark :=
      perform_map_of_other (fun place same => own ⟨place,same⟩) known cut
    have same : (d.perform job).fetches.filterMap mark = d.fetches.filterMap mark := by
      have joined := congrArg (List.filterMap id) kept
      simpa only [List.filterMap_map,Function.id_comp] using joined
    rw [unseen.seen_eq,same]
    exact recorded

end Record

section Attended

def Attended (pending : List Job) (d : Dispatch) : Prop :=
  ∀ place f, d.fetches[place]? = some f → f.isLive = true → .fetch place ∈ ahead pending d

theorem Attended.perform (attended : Attended (job :: pending) d) :
    Attended pending (d.perform job) := by
  intro place g found live
  obtain ⟨f,held,passes⟩ := perform_place found
  cases passes with
  | same other => exact mem_ahead_perform (attended place g held live) (Ne.symm other.1)
  | turned own queue =>
    have again : f.turn.call = .again := f.turn_passage.again_of_isLive live
    simp [ahead,queue,again,Fetch.Call.jobs]
  | learnt own => exact mem_ahead_perform (attended place f held live) (by simp [own])
  | cut other woken =>
    cases resting : f.isResting with
    | true => simp [ahead,woken resting]
    | false =>
      have unended : f.isEnded = false := by
        cases ended : f.isEnded with
        | false => rfl
        | true => simp [Fetch.isLive,ended] at live
      have before : f.isLive = true := by simp [Fetch.isLive,unended,resting]
      exact mem_ahead_perform (attended place f held before) (Ne.symm other.1)

theorem Attended.opened (attended : Attended [] d) :
    Attended d.opened.queue { d.opened with queue := [] } := by
  intro place f found live
  rw [opened_fetches] at found
  exact mem_ahead_opened (attended place f found live)

theorem Attended.of_isQuiet (attended : Attended [] d) (quiet : d.isQuiet = true) :
    ∀ f ∈ d.fetches, f.isEnded = true ∨ f.isResting = true := by
  intro f member
  obtain ⟨place,found⟩ := List.getElem?_of_mem member
  cases live : f.isLive with
  | false =>
    cases ended : f.isEnded with
    | true => exact .inl rfl
    | false =>
      cases resting : f.isResting with
      | true => exact .inr rfl
      | false => simp [Fetch.isLive,ended,resting] at live
  | true => exact absurd (attended place f found live) (not_mem_ahead_of_isQuiet quiet _)

end Attended

section Wound

/-- Once the request no longer waits for answers, every query has ended or is cut. -/
def Wound (d : Dispatch) : Prop :=
  d.isWinding = true → ∀ f ∈ d.fetches, f.isCut = true ∨ f.isEnded = true

theorem Wound.waits {f : Fetch} (wound : Wound d) (member : f ∈ d.fetches)
    (alive : ¬(f.isCut = true ∨ f.isEnded = true)) : d.isOver = false := by
  refine Bool.eq_false_iff.mpr fun ended => alive (wound ?_ f member)
  obtain ⟨outcome,stopped⟩ := isOver_iff.mp ended
  rw [isWinding,stopped]

theorem Wound.perform (wound : Wound d) (job : Job) : Wound (d.perform job) := by
  intro winding
  by_cases before : d.isWinding = true
  · exact perform_forall (fun _ => Fetch.turn_isCut_or_isEnded) (fun _ done => done)
      (fun f _ => f.cut_isCut_or_isEnded) job (wound before)
  · by_cases own : job = .request
    · subst own
      rcases resume_cuts d with same | ⟨_,cut⟩
      · exact absurd (by rwa [Dispatch.perform,same] at winding) before
      · intro g member
        rw [Dispatch.perform,cut] at member
        obtain ⟨f,_,rfl⟩ := List.mem_map.mp member
        exact f.cut_isCut_or_isEnded
    · rw [isWinding,perform_waiting d own] at winding
      exact absurd winding before

theorem Wound.opened (wound : Wound d) : Wound { d.opened with queue := [] } := by
  intro winding
  rw [isWinding] at winding
  simp only [opened_waiting] at winding
  simpa only [opened_fetches] using wound winding

theorem Wound.isEnded (wound : Wound d) (winding : d.isWinding = true) (attended : Attended [] d)
    (quiet : d.isQuiet = true) : ∀ f ∈ d.fetches, f.isEnded = true := by
  intro f member
  rcases attended.of_isQuiet quiet f member with ended | resting
  · exact ended
  · rcases wound winding f member with cut | ended
    · cases stage : f.stage <;> simp [Fetch.isResting,stage,cut] at resting
    · exact ended

end Wound

section Informed

/-- All queries have their answers, and these are the rows. -/
def Complete (d : Dispatch) (rows : List (List Row)) : Prop :=
  (∀ f ∈ d.fetches, f.isFinished = true) ∧ rows = d.fetches.map Fetch.rows

theorem Complete.perform {rows : List (List Row)} (complete : Complete d rows) (job : Job) :
    Complete (d.perform job) rows := by
  have still (f : Fetch) (member : f ∈ d.fetches) : f.turn.fetch = f := by
    rw [Fetch.turn_of_ended (Fetch.isEnded_of_isFinished (complete.1 f member))]
  constructor
  · have finished : ∀ f : Fetch, f.isFinished = true → f.turn.fetch.isFinished = true := by
      intro f done
      rw [Fetch.turn_of_ended (Fetch.isEnded_of_isFinished done)]
      exact done
    exact perform_forall finished (fun _ done => done)
      (fun f done => f.cut_isFinished.trans done) job complete.1
  · rw [complete.2]
    exact (perform_map job (fun f member => by rw [still f member]) (fun _ _ => rfl)
      (fun f _ => f.cut_rows)).symm

/-- What the request knows of its queries. The news of an end comes after the end; while there is
nothing to gather, all known ends are answers; and what counts as success is the answers of all
queries in their order. -/
structure Informed (pending : List Job) (d : Dispatch) : Prop where
  told : ∀ place f, .news place ∈ ahead pending d → d.fetches[place]? = some f → f.isEnded = true
  known : d.gathered = none → ∀ f ∈ d.fetches, f.isKnown = true → f.isFinished = true
  gathered : ∀ rows, d.gathered = some (.ok rows) → Complete d rows
  stopped : ∀ rows, d.waiting = .stopped (.ok rows) → Complete d rows

private theorem news?_none {fetches : List Fetch} {f : Fetch} (ended : f.isEnded = true)
    (nothing : news? fetches f = none) : f.isFinished = true := by
  cases stage : f.stage with
  | unsent => simp [Fetch.isEnded,stage] at ended
  | waiting rounds => simp [Fetch.isEnded,stage] at ended
  | stalled => simp [Fetch.isEnded,stage] at ended
  | ended fate => cases fate <;> simp [news?,Fetch.isFinished,stage] at nothing ⊢

theorem news?_ok {fetches : List Fetch} {f : Fetch} {rows : List (List Row)}
    (answers : news? fetches f = some (.ok rows)) :
    f.isFinished = true ∧ fetches.all Fetch.isKnown = true ∧ rows = fetches.map Fetch.rows := by
  unfold news? at answers
  split at answers
  · rename_i stage
    split at answers
    · rename_i known
      simp only [Option.some.injEq,Except.ok.injEq] at answers
      exact ⟨by simp [Fetch.isFinished,stage],known,answers.symm⟩
    · exact absurd answers (by simp)
  · exact absurd answers (by simp)
  · exact absurd answers (by simp)
  · exact absurd answers (by simp)
  · exact absurd answers (by simp)

theorem Informed.news?_of_missing {place : Nat} {f g : Fetch}
    (informed : Informed (.news place :: pending) d) (fresh : d.gathered = none)
    (held : d.fetches[place]? = some f) (finished : f.isFinished = true) (member : g ∈ d.fetches)
    (unfinished : g.isFinished = false) : news? (d.mark place f).fetches f = none := by
  obtain ⟨there,held'⟩ := List.getElem?_of_mem member
  have other : there ≠ place := by
    rintro rfl
    obtain rfl : g = f := Option.some.inj (held'.symm.trans held)
    simp [finished] at unfinished
  have marked : (d.mark place f).fetches[there]? = some g := by
    rw [mark,List.getElem?_set_ne (Ne.symm other)]
    exact held'
  cases all : (d.mark place f).fetches.all Fetch.isKnown with
  | false => simp [news?,Fetch.stage_of_isFinished finished,all]
  | true =>
    have known := List.all_eq_true.mp all g (List.mem_of_getElem? marked)
    simp [informed.known fresh g member known] at unfinished

/-- News comes in only of the query whose turn it is. -/
private theorem news_of_perform {place : Nat} (member : .news place ∈ ahead pending (d.perform job)) :
    .news place ∈ ahead (job :: pending) d ∨ ∃ f, job = .fetch place ∧
      d.fetches[place]? = some f ∧ f.turn.call = .news := by
  by_cases own : ∃ turned, job = .fetch turned
  · obtain ⟨turned,rfl⟩ := own
    rw [Dispatch.perform] at member
    cases present : d.fetches[turned]? with
    | none =>
      rw [turn_absent present] at member
      exact .inl (List.mem_cons_of_mem _ member)
    | some f =>
      rcases of_mem_ahead_turn present member with before | new | late
      · exact .inl (List.mem_cons_of_mem _ before)
      · rcases Fetch.Call.mem_jobs.mp new with ⟨_,same⟩ | ⟨call,same⟩
        · cases same
        · obtain rfl := Job.news.inj same
          exact .inr ⟨f,rfl,present,call⟩
      · cases (Fetch.Call.mem_lateJobs.mp late).2
  · have unseen := perform_unseen d job fun turned same => own ⟨turned,same⟩
    left
    simp only [ahead,List.cons_append,List.mem_cons,List.mem_append] at member ⊢
    rcases member with inside | queued | late
    · exact .inr (.inl inside)
    · exact .inr (.inr (.inl (unseen.notices _ queued rfl)))
    · exact .inr (.inr (.inr (unseen.late ▸ late)))

private theorem Informed.perform_told (informed : Informed (job :: pending) d) :
    ∀ place f, .news place ∈ ahead pending (d.perform job) →
      (d.perform job).fetches[place]? = some f → f.isEnded = true := by
  intro place g member found
  obtain ⟨f,held,passes⟩ := perform_place found
  rcases news_of_perform member with before | ⟨h,rfl,present,call⟩
  · have ended := informed.told place f before held
    cases passes with
    | same => exact ended
    | turned => exact Fetch.turn_isEnded ended
    | learnt => exact ended
    | cut => simpa using ended
  · obtain rfl : h = f := Option.some.inj (present.symm.trans held)
    cases passes with
    | same other => exact absurd rfl other.1
    | turned => exact Fetch.Passage.isEnded_of_news (call ▸ h.turn_passage)
    | learnt same => cases same
    | cut other => exact absurd rfl other.1

private theorem Informed.perform_known (informed : Informed (job :: pending) d)
    (fresh : (d.perform job).gathered = none) :
    ∀ f ∈ (d.perform job).fetches, f.isKnown = true → f.isFinished = true := by
  intro g member known
  obtain ⟨place,found⟩ := List.getElem?_of_mem member
  obtain ⟨f,held,passes⟩ := perform_place found
  have finished := informed.known (gathered_of_perform fresh) f (List.mem_of_getElem? held)
  cases passes with
  | same => exact finished known
  | turned =>
    rw [f.turn_passage.errand.2.2] at known
    rw [Fetch.turn_of_ended (Fetch.isEnded_of_isFinished (finished known))]
    exact finished known
  | learnt own =>
    subst own
    rw [Dispatch.perform,learn_gathered held,Option.or_eq_none_iff] at fresh
    exact news?_none (informed.told place f List.mem_cons_self held) fresh.2
  | cut =>
    rw [f.cut_isKnown] at known
    exact f.cut_isFinished.trans (finished known)

/-- When the last end becomes known and all are answers, the answers of all queries are gathered. -/
private theorem Informed.learn_complete {place : Nat} {f : Fetch} {rows : List (List Row)}
    (informed : Informed (.news place :: pending) d) (found : d.fetches[place]? = some f)
    (fresh : d.gathered = none)
    (answers : news? (d.mark place f).fetches f = some (.ok rows)) :
    Complete (d.learn place) rows := by
  obtain ⟨finished,known,same⟩ := news?_ok answers
  rw [List.all_eq_true] at known
  refine ⟨?_,?_⟩
  · intro g member
    rw [learn_fetches found] at member
    rcases List.mem_or_eq_of_mem_set member with inside | rfl
    · have noted : g ∈ (d.mark place f).fetches := by
        rw [mark]
        exact member
      exact informed.known fresh g inside (known g noted)
    · exact finished
  · rw [learn_fetches found]
    exact same

theorem Informed.perform (informed : Informed (job :: pending) d) :
    Informed pending (d.perform job) where
  told := informed.perform_told
  known := informed.perform_known
  gathered := by
    intro rows gathered
    by_cases own : ∃ told, job = .news told
    · obtain ⟨told,rfl⟩ := own
      cases present : d.fetches[told]? with
      | none =>
        rw [Dispatch.perform,learn_absent present] at gathered ⊢
        exact informed.gathered rows gathered
      | some f =>
        rw [Dispatch.perform,learn_gathered present] at gathered
        cases before : d.gathered with
        | none =>
          rw [before,Option.none_or] at gathered
          exact informed.learn_complete present before gathered
        | some answers =>
          rw [before,Option.some_or] at gathered
          exact (informed.gathered rows (before.trans gathered)).perform (.news told)
    · rw [perform_gathered d fun told same => own ⟨told,same⟩] at gathered
      exact (informed.gathered rows gathered).perform job
  stopped := by
    intro rows stopped
    by_cases own : job = .request
    · subst own
      rcases resume_over_ok stopped with before | gathered
      · exact (informed.stopped rows before).perform .request
      · exact (informed.gathered rows gathered).perform .request
    · rw [perform_waiting d own] at stopped
      exact (informed.stopped rows stopped).perform job

theorem Informed.opened (informed : Informed [] d) :
    Informed d.opened.queue { d.opened with queue := [] } where
  told := by
    intro place f member found
    rw [opened_fetches] at found
    rcases of_mem_ahead_opened member with before | same
    · exact informed.told place f before found
    · cases same
  known := by
    intro fresh
    rw [opened_gathered] at fresh
    simpa only [opened_fetches] using informed.known fresh
  gathered := by
    intro rows gathered
    rw [opened_gathered] at gathered
    have complete := informed.gathered rows gathered
    simpa only [Complete,opened_fetches] using complete
  stopped := by
    intro rows stopped
    rw [opened_waiting] at stopped
    have complete := informed.stopped rows stopped
    simpa only [Complete,opened_fetches] using complete

end Informed

end ScopedAnalytics.Dispatch
