import Mathlib.Data.List.Basic
import ScopedAnalytics.Proofs.Dispatch.Running

/-! What a job does, said once: what it leaves as it is, what becomes of the query at a place, and
when the request stops waiting. Only the turn of a query is seen from outside. -/
namespace ScopedAnalytics

/-- Whether a job is called for by a query that ended or by a timer, not by the request. -/
def Job.isNotice : Job → Bool
  | news _ | deadline => true
  | _ => false

namespace Dispatch

/-- Everything that is seen of a dispatch, before and after the request stops waiting. -/
def seen (d : Dispatch) : Trace := d.trace ++ d.aftermath

/-- The jobs ahead, with those that are left of the round. -/
def ahead (pending : List Job) (d : Dispatch) : List Job := pending ++ (d.queue ++ d.late)

/-- What a job does that is no turn of a query: nothing is seen, and jobs come in at the end. -/
structure Unseen (d e : Dispatch) : Prop where
  trace : e.trace = d.trace
  aftermath : e.aftermath = d.aftermath
  late : e.late = d.late
  queue : d.queue <+: e.queue
  notices : ∀ job ∈ e.queue, job.isNotice = true → job ∈ d.queue

section Unseen
variable {d e g : Dispatch}

theorem Unseen.refl (d : Dispatch) : Unseen d d :=
  ⟨rfl,rfl,rfl,List.prefix_rfl,fun _ member _ => member⟩

theorem Unseen.trans (first : Unseen d e) (second : Unseen e g) : Unseen d g where
  trace := second.trace.trans first.trace
  aftermath := second.aftermath.trans first.aftermath
  late := second.late.trans first.late
  queue := first.queue.trans second.queue
  notices job member notice := first.notices job (second.notices job member notice) notice

private theorem Unseen.of_append (jobs : List Job) (trace : e.trace = d.trace)
    (aftermath : e.aftermath = d.aftermath) (late : e.late = d.late)
    (queue : e.queue = d.queue ++ jobs) (own : ∀ job ∈ jobs, job.isNotice = false) : Unseen d e where
  trace := trace
  aftermath := aftermath
  late := late
  queue := queue ▸ List.prefix_append _ _
  notices := by
    intro job member notice
    rw [queue] at member
    rcases List.mem_append.mp member with before | new
    · exact before
    · exact absurd notice (by simp [own job new])

theorem push_unseen (d : Dispatch) {job : Job} (own : job.isNotice = false) :
    Unseen d (d.push job) := .of_append [job] rfl rfl rfl rfl (by simpa using own)

theorem call_unseen (d : Dispatch) : Unseen d d.call := by
  rcases call_cases d with ⟨_,same⟩ | ⟨_,same⟩
  · exact same.symm ▸ .refl d
  · rw [same]
    exact .of_append [.request] rfl rfl rfl rfl (by simp [Job.isNotice])

theorem wakings_fetch {fetches : List Fetch} {job : Job} (woken : job ∈ wakings fetches) :
    ∃ place, job = .fetch place := by
  obtain ⟨entry,_,woken⟩ := List.mem_filterMap.mp woken
  split at woken
  · exact ⟨entry.2,(Option.some.inj woken).symm⟩
  · cases woken

private theorem wakings_own (fetches : List Fetch) :
    ∀ job ∈ wakings fetches, job.isNotice = false := by
  intro job member
  obtain ⟨place,rfl⟩ := wakings_fetch member
  rfl

private theorem Unseen.of_cut (trace : e.trace = d.trace) (aftermath : e.aftermath = d.aftermath)
    (late : e.late = d.late) (queue : e.queue = d.queue ++ wakings d.fetches) : Unseen d e :=
  .of_append _ trace aftermath late queue (wakings_own d.fetches)

theorem cutAll_unseen (d : Dispatch) : Unseen d d.cutAll := .of_cut rfl rfl rfl rfl

theorem receive_unseen (d : Dispatch) (answers : Except Failure (List (List Row))) :
    Unseen d (d.receive answers) := ⟨rfl,rfl,rfl,List.prefix_rfl,fun _ member _ => member⟩

theorem gather_unseen (d : Dispatch) (answers : Except Failure (List (List Row))) :
    Unseen d (d.gather answers) := by
  have received := receive_unseen d answers
  rcases gather_cases d answers with ⟨_,same⟩ | ⟨_,same⟩ | ⟨_,same⟩
  · exact same ▸ received.trans (call_unseen _)
  · exact same ▸ received.trans (push_unseen _ rfl)
  · exact same ▸ received

theorem mark_unseen (d : Dispatch) (place : Nat) (f : Fetch) : Unseen d (d.mark place f) :=
  ⟨rfl,rfl,rfl,List.prefix_rfl,fun _ member _ => member⟩

theorem learn_unseen (d : Dispatch) (place : Nat) : Unseen d (d.learn place) := by
  cases found : d.fetches[place]? with
  | none => exact (learn_absent found).symm ▸ .refl d
  | some f =>
    have marked := mark_unseen d place f
    rcases learn_cases found with ⟨answers,_,_,same⟩ | ⟨_,same⟩
    · exact same ▸ marked.trans (gather_unseen _ answers)
    · exact same ▸ marked

theorem finish_unseen (d : Dispatch) (outcome : Except Failure (List (List Row))) :
    Unseen d (d.finish outcome) := .of_cut rfl rfl rfl rfl

theorem windUp_unseen (d : Dispatch) (waiting : Waiting) : Unseen d (d.windUp waiting) :=
  .of_cut rfl rfl rfl rfl

theorem resume_unseen (d : Dispatch) : Unseen d d.resume := by
  rcases resume_cases d with ⟨_,same⟩ | ⟨_,⟨_,same⟩ | ⟨_,same⟩⟩ | ⟨outcome,same,_⟩
  · exact same.symm ▸ .refl d
  · exact same ▸ windUp_unseen d _
  · exact same ▸ windUp_unseen d _
  · exact same ▸ finish_unseen d outcome

theorem strike_unseen (d : Dispatch) : Unseen d d.strike :=
  ⟨rfl,rfl,rfl,List.prefix_rfl,fun _ member _ => member⟩

theorem leave_unseen (d : Dispatch) : Unseen d d.leave := by
  rcases leave_cases d with ⟨_,same⟩ | ⟨_,same | same⟩ | ⟨_,same⟩
  · exact same.symm ▸ .refl d
  · exact same ▸ strike_unseen d
  · exact same ▸ cutAll_unseen d
  · exact same ▸ (strike_unseen d).trans (call_unseen _)

theorem release_unseen (d : Dispatch) : Unseen d d.release := by
  rcases release_cases d with ⟨_,same⟩ | ⟨_,same⟩
  · exact same ▸ call_unseen d
  · exact same.symm ▸ .refl d

theorem expire_unseen (d : Dispatch) : Unseen d d.expire := by
  rcases expire_cases d with ⟨_,same⟩ | same
  · exact same ▸ call_unseen d
  · exact same.symm ▸ .refl d

theorem perform_unseen (d : Dispatch) (job : Job) (other : ∀ place, job ≠ .fetch place) :
    Unseen d (d.perform job) := by
  cases job with
  | fetch place => exact absurd rfl (other place)
  | news place => exact learn_unseen d place
  | request => exact resume_unseen d
  | signal => exact push_unseen d rfl
  | leave => exact leave_unseen d
  | release => exact release_unseen d
  | deadline => exact expire_unseen d
  | caller turns =>
    cases turns with
    | zero => exact leave_unseen d
    | succ turns => exact push_unseen d rfl

end Unseen

section Fetches

/-- What a job does to the queries: it is the turn of one, it brings the news of one, it cuts all,
or it leaves them as they are. -/
inductive Touch (d : Dispatch) (job : Job) : Dispatch → Prop
  | turned (place : Nat) (own : job = .fetch place) : Touch d job (d.turn place)
  | learnt (place : Nat) (own : job = .news place) : Touch d job (d.learn place)
  | cut (e : Dispatch) (other : ∀ place, job ≠ .fetch place ∧ job ≠ .news place)
      (fetches : e.fetches = d.fetches.map Fetch.cut) (queue : e.queue = d.queue ++ wakings d.fetches) :
      Touch d job e
  | none (e : Dispatch) (other : ∀ place, job ≠ .fetch place ∧ job ≠ .news place)
      (fetches : e.fetches = d.fetches) : Touch d job e

private theorem call_fetches (d : Dispatch) : d.call.fetches = d.fetches := by rw [call_eq]

theorem learn_fetches {d : Dispatch} {place : Nat} {f : Fetch}
    (found : d.fetches[place]? = some f) :
    (d.learn place).fetches = d.fetches.set place { f with isKnown := true } := by
  rcases learn_cases found with ⟨_,_,_,same⟩ | ⟨_,same⟩
  · rw [same,gather_eq,mark]
  · rw [same,mark]

private theorem release_fetches (d : Dispatch) : d.release.fetches = d.fetches := by
  rcases release_cases d with ⟨_,same⟩ | ⟨_,same⟩
  · rw [same,call_fetches]
  · rw [same]

private theorem expire_fetches (d : Dispatch) : d.expire.fetches = d.fetches := by
  rcases expire_cases d with ⟨_,same⟩ | same
  · rw [same,call_fetches]
  · rw [same]

private theorem resume_touch (d : Dispatch) : Touch d .request d.resume := by
  have other : ∀ place, Job.request ≠ .fetch place ∧ Job.request ≠ .news place := by simp
  rcases resume_cases d with ⟨_,same⟩ | ⟨_,⟨_,same⟩ | ⟨_,same⟩⟩ | ⟨outcome,same,_⟩
  · exact same.symm ▸ .none d other rfl
  · exact same ▸ .cut _ other rfl rfl
  · exact same ▸ .cut _ other rfl rfl
  · exact same ▸ .cut _ other rfl rfl

private theorem leave_touch (d : Dispatch) (job : Job)
    (other : ∀ place, job ≠ .fetch place ∧ job ≠ .news place) : Touch d job d.leave := by
  rcases leave_cases d with ⟨_,same⟩ | ⟨_,same | same⟩ | ⟨_,same⟩
  · exact same.symm ▸ .none d other rfl
  · exact same ▸ .none _ other rfl
  · exact same ▸ .cut _ other rfl rfl
  · exact same ▸ .none _ other (call_fetches _)

theorem perform_touch (d : Dispatch) (job : Job) : Touch d job (d.perform job) := by
  cases job with
  | fetch place => exact .turned place rfl
  | news place => exact .learnt place rfl
  | request => exact resume_touch d
  | signal => exact .none _ (by simp) rfl
  | leave => exact leave_touch d .leave (by simp)
  | release => exact .none _ (by simp) (release_fetches d)
  | deadline => exact .none _ (by simp) (expire_fetches d)
  | caller turns =>
    cases turns with
    | zero => exact leave_touch d (.caller 0) (by simp)
    | succ turns => exact .none _ (by simp) rfl

theorem mem_wakings {fetches : List Fetch} {place : Nat} {f : Fetch}
    (found : fetches[place]? = some f) (resting : f.isResting = true) :
    .fetch place ∈ wakings fetches := by
  refine List.mem_filterMap.mpr ⟨(f,place),?_,by simp [resting]⟩
  rw [List.mem_zipIdx_iff_getElem?]
  exact found

theorem getElem?_set_cases {α : Type} {items : List α} {place there : Nat} {a b : α}
    (held : (items.set place b)[there]? = some a) :
    there = place ∧ a = b ∨ there ≠ place ∧ items[there]? = some a := by
  by_cases own : there = place
  · subst own
    obtain ⟨inside,_⟩ := List.getElem?_eq_some_iff.mp held
    rw [List.length_set] at inside
    rw [List.getElem?_set_self inside] at held
    exact .inl ⟨rfl,(Option.some.inj held).symm⟩
  · rw [List.getElem?_set_ne (Ne.symm own)] at held
    exact .inr ⟨own,held⟩

inductive Passes (d : Dispatch) (job : Job) (place : Nat) (f : Fetch) (e : Dispatch) : Fetch → Prop
  | same (other : job ≠ .fetch place ∧ job ≠ .news place) : Passes d job place f e f
  | turned (own : job = .fetch place) (queue : e.queue = d.queue ++ f.turn.call.jobs place) :
      Passes d job place f e f.turn.fetch
  | learnt (own : job = .news place) : Passes d job place f e { f with isKnown := true }
  | cut (other : job ≠ .fetch place ∧ job ≠ .news place)
      (woken : f.isResting = true → .fetch place ∈ e.queue) : Passes d job place f e f.cut

theorem perform_place {d : Dispatch} {job : Job} {place : Nat} {g : Fetch}
    (found : (d.perform job).fetches[place]? = some g) :
    ∃ f, d.fetches[place]? = some f ∧ Passes d job place f (d.perform job) g := by
  -- Only a turn and news are about a single query. All other jobs do to each the same.
  have touch := perform_touch d job
  cases job with
  | fetch turned =>
    rw [perform] at found ⊢
    cases held : d.fetches[turned]? with
    | none =>
      rw [turn_absent held] at found ⊢
      refine ⟨g,found,.same ⟨?_,by simp⟩⟩
      intro own
      obtain rfl : turned = place := by simpa using own
      simp [held] at found
    | some f =>
      rw [turn_found held] at found ⊢
      rw [note_fetches] at found
      rcases getElem?_set_cases found with ⟨rfl,rfl⟩ | ⟨other,found⟩
      · exact ⟨f,held,.turned rfl (by simp)⟩
      · exact ⟨g,found,.same ⟨by simpa using Ne.symm other,by simp⟩⟩
  | news known =>
    rw [perform] at found ⊢
    cases held : d.fetches[known]? with
    | none =>
      rw [learn_absent held] at found ⊢
      refine ⟨g,found,.same ⟨by simp,?_⟩⟩
      intro own
      obtain rfl : known = place := by simpa using own
      simp [held] at found
    | some f =>
      rw [learn_fetches held] at found
      rcases getElem?_set_cases found with ⟨rfl,rfl⟩ | ⟨other,found⟩
      · exact ⟨f,held,.learnt rfl⟩
      · exact ⟨g,found,.same ⟨by simp,by simpa using Ne.symm other⟩⟩
  | _ =>
    generalize d.perform _ = e at found touch ⊢
    cases touch with
    | turned _ own => cases own
    | learnt _ own => cases own
    | none _ other fetches => exact ⟨g,fetches ▸ found,.same (other place)⟩
    | cut _ other fetches queue =>
      rw [fetches,List.getElem?_map] at found
      obtain ⟨f,held,rfl⟩ := Option.map_eq_some_iff.mp found
      refine ⟨f,held,.cut (other place) ?_⟩
      intro resting
      rw [queue]
      exact List.mem_append_right _ (mem_wakings held resting)

/-- A property of a query that its turns, the news of its end and its cut preserve is preserved by
every job. -/
theorem perform_forall {P : Fetch → Prop} (turn : ∀ f, P f → P f.turn.fetch)
    (known : ∀ f, P f → P { f with isKnown := true }) (cut : ∀ f, P f → P f.cut) {d : Dispatch}
    (job : Job) (all : ∀ f ∈ d.fetches, P f) : ∀ f ∈ (d.perform job).fetches, P f := by
  intro g member
  obtain ⟨place,found⟩ := List.getElem?_of_mem member
  obtain ⟨f,held,passes⟩ := perform_place found
  have before := all f (List.mem_of_getElem? held)
  cases passes with
  | same => exact before
  | turned => exact turn f before
  | learnt => exact known f before
  | cut => exact cut f before

theorem map_set_of_eq {α β : Type} {items : List α} {place : Nat} {a b : α} {view : α → β}
    (found : items[place]? = some a) (same : view b = view a) :
    (items.set place b).map view = items.map view := by
  obtain ⟨inside,rfl⟩ := List.getElem?_eq_some_iff.mp found
  have mapped : place < (items.map view).length := by simpa using inside
  have kept := List.set_getElem_self mapped
  rw [List.getElem_map] at kept
  rw [List.map_set,same,kept]

/-- A view of the queries that their turns, the news of their ends and their cut leave as it is is
left by every job. -/
theorem perform_map {α : Type} {view : Fetch → α} {d : Dispatch} (job : Job)
    (turn : ∀ f ∈ d.fetches, view f.turn.fetch = view f)
    (known : ∀ f ∈ d.fetches, view { f with isKnown := true } = view f)
    (cut : ∀ f ∈ d.fetches, view f.cut = view f) :
    (d.perform job).fetches.map view = d.fetches.map view := by
  have touch := perform_touch d job
  generalize d.perform job = e at touch ⊢
  cases touch with
  | turned place =>
    cases found : d.fetches[place]? with
    | none => rw [turn_absent found]
    | some f =>
      rw [turn_fetches found]
      exact map_set_of_eq found (turn f (List.mem_of_getElem? found))
  | learnt place =>
    cases found : d.fetches[place]? with
    | none => rw [learn_absent found]
    | some f =>
      rw [learn_fetches found]
      exact map_set_of_eq found (known f (List.mem_of_getElem? found))
  | cut _ _ fetches _ =>
    rw [fetches,List.map_map]
    exact List.map_congr_left cut
  | none _ _ fetches => rw [fetches]

theorem perform_length (d : Dispatch) (job : Job) :
    (d.perform job).fetches.length = d.fetches.length := by
  have same : ((d.perform job).fetches.map fun _ => ()) = d.fetches.map fun _ => () :=
    perform_map job (fun _ _ => rfl) (fun _ _ => rfl) (fun _ _ => rfl)
  simpa using congrArg List.length same

theorem perform_held {d : Dispatch} {place : Nat} {f : Fetch} (held : d.fetches[place]? = some f)
    (job : Job) : ∃ g, (d.perform job).fetches[place]? = some g ∧
      Passes d job place f (d.perform job) g := by
  obtain ⟨inside,_⟩ := List.getElem?_eq_some_iff.mp held
  have bound : place < (d.perform job).fetches.length := by rwa [perform_length]
  have found : (d.perform job).fetches[place]? = some (d.perform job).fetches[place] :=
    List.getElem?_eq_getElem bound
  obtain ⟨h,held',passes⟩ := perform_place found
  obtain rfl : f = h := Option.some.inj (held.symm.trans held')
  exact ⟨_,found,passes⟩

/-- A query with a property that its turns, the news of its end and its cut preserve is still there
after every job. -/
theorem perform_exists {P : Fetch → Prop} (turn : ∀ f, P f → P f.turn.fetch)
    (known : ∀ f, P f → P { f with isKnown := true }) (cut : ∀ f, P f → P f.cut) {d : Dispatch}
    (job : Job) (some : ∃ f ∈ d.fetches, P f) : ∃ f ∈ (d.perform job).fetches, P f := by
  obtain ⟨f,member,before⟩ := some
  obtain ⟨place,held⟩ := List.getElem?_of_mem member
  obtain ⟨g,found,passes⟩ := perform_held held job
  refine ⟨g,List.mem_of_getElem? found,?_⟩
  cases passes with
  | same => exact before
  | turned => exact turn f before
  | learnt => exact known f before
  | cut => exact cut f before

end Fetches

section Request

/-- Whether the request no longer waits for answers: its queries are cut. -/
def isWinding (d : Dispatch) : Bool :=
  match d.waiting with
  | .plain | .timed => false
  | .expiring | .leaving | .stopped _ => true

theorem call_waiting (d : Dispatch) : d.call.waiting = d.waiting := by rw [call_eq]

theorem call_gathered (d : Dispatch) : d.call.gathered = d.gathered := by rw [call_eq]

theorem gather_gathered (d : Dispatch) (answers : Except Failure (List (List Row))) :
    (d.gather answers).gathered = some answers := by rw [gather_eq]

theorem learn_waiting (d : Dispatch) (place : Nat) : (d.learn place).waiting = d.waiting := by
  cases found : d.fetches[place]? with
  | none => rw [learn_absent found]
  | some f =>
    rcases learn_cases found with ⟨_,_,_,same⟩ | ⟨_,same⟩
    · rw [same,gather_eq,mark]
    · rw [same,mark]

theorem learn_gathered {d : Dispatch} {place : Nat} {f : Fetch}
    (found : d.fetches[place]? = some f) :
    (d.learn place).gathered = d.gathered.or (news? (d.mark place f).fetches f) := by
  rcases learn_cases found with ⟨answers,fresh,news,same⟩ | ⟨nothing,same⟩
  · rw [same,gather_gathered,fresh,news,Option.none_or]
  · rw [same,mark]
    rcases nothing with answered | quiet
    · obtain ⟨answers,gathered⟩ := Option.isSome_iff_exists.mp answered
      rw [gathered,Option.some_or]
    · rw [mark] at quiet
      rw [quiet,Option.or_none]

private theorem release_waiting (d : Dispatch) :
    d.release.waiting = d.waiting ∧ d.release.gathered = d.gathered := by
  rcases release_cases d with ⟨_,same⟩ | ⟨_,same⟩
  · rw [same]
    exact ⟨call_waiting d,call_gathered d⟩
  · rw [same]
    exact ⟨rfl,rfl⟩

private theorem expire_waiting (d : Dispatch) :
    d.expire.waiting = d.waiting ∧ d.expire.gathered = d.gathered := by
  rcases expire_cases d with ⟨_,same⟩ | same
  · rw [same]
    exact ⟨call_waiting d,call_gathered d⟩
  · rw [same]
    exact ⟨rfl,rfl⟩

private theorem leave_waiting (d : Dispatch) :
    d.leave.waiting = d.waiting ∧ d.leave.gathered = d.gathered := by
  rcases leave_cases d with ⟨_,same⟩ | ⟨_,same | same⟩ | ⟨_,same⟩
  · rw [same]
    exact ⟨rfl,rfl⟩
  · rw [same]
    exact ⟨rfl,rfl⟩
  · rw [same]
    exact ⟨rfl,rfl⟩
  · rw [same]
    exact ⟨call_waiting _,call_gathered _⟩

theorem perform_waiting (d : Dispatch) {job : Job} (other : job ≠ .request) :
    (d.perform job).waiting = d.waiting := by
  cases job with
  | request => exact absurd rfl other
  | fetch place => exact turn_waiting d place
  | news place => exact learn_waiting d place
  | release => exact (release_waiting d).1
  | deadline => exact (expire_waiting d).1
  | signal => rfl
  | leave => exact (leave_waiting d).1
  | caller turns =>
    cases turns with
    | zero => exact (leave_waiting d).1
    | succ turns => rfl

theorem resume_gathered (d : Dispatch) : d.resume.gathered = d.gathered := by
  rcases resume_cases d with ⟨_,same⟩ | ⟨_,⟨_,same⟩ | ⟨_,same⟩⟩ | ⟨outcome,same,_⟩
  · rw [same]
  · rw [same,windUp,cutAll]
  · rw [same,windUp,cutAll]
  · rw [same,finish,cutAll]

theorem perform_gathered (d : Dispatch) {job : Job} (other : ∀ place, job ≠ .news place) :
    (d.perform job).gathered = d.gathered := by
  cases job with
  | news place => exact absurd rfl (other place)
  | fetch place => exact turn_gathered d place
  | request => exact resume_gathered d
  | release => exact (release_waiting d).2
  | deadline => exact (expire_waiting d).2
  | signal => rfl
  | leave => exact (leave_waiting d).2
  | caller turns =>
    cases turns with
    | zero => exact (leave_waiting d).2
    | succ turns => rfl

theorem gathered_of_perform {d : Dispatch} {job : Job} (fresh : (d.perform job).gathered = none) :
    d.gathered = none := by
  by_cases own : ∃ told, job = .news told
  · obtain ⟨told,rfl⟩ := own
    rw [perform] at fresh
    cases found : d.fetches[told]? with
    | none => rwa [learn_absent found] at fresh
    | some f =>
      rw [learn_gathered found,Option.or_eq_none_iff] at fresh
      exact fresh.1
  · rwa [perform_gathered d fun told same => own ⟨told,same⟩] at fresh

theorem resume_of_isOver {d : Dispatch} (stopped : d.isOver = true) : d.resume = d := by
  obtain ⟨outcome,waiting⟩ := isOver_iff.mp stopped
  simp [resume,waiting]

theorem perform_waiting_of_isOver {d : Dispatch} (stopped : d.isOver = true) (job : Job) :
    (d.perform job).waiting = d.waiting := by
  by_cases own : job = .request
  · subst own
    rw [perform,resume_of_isOver stopped]
  · exact perform_waiting d own

theorem resume_cuts (d : Dispatch) :
    d.resume = d ∨ d.resume.isWinding = true ∧ d.resume.fetches = d.fetches.map Fetch.cut := by
  rcases resume_cases d with ⟨_,same⟩ | ⟨_,⟨_,same⟩ | ⟨_,same⟩⟩ | ⟨outcome,same,_⟩
  · exact .inl same
  · exact .inr (same ▸ ⟨rfl,rfl⟩)
  · exact .inr (same ▸ ⟨rfl,rfl⟩)
  · exact .inr (same ▸ ⟨rfl,rfl⟩)

theorem resume_over_ok {d : Dispatch} {rows : List (List Row)}
    (stopped : d.resume.waiting = .stopped (.ok rows)) :
    d.waiting = .stopped (.ok rows) ∨ d.gathered = some (.ok rows) := by
  rcases resume_cases d with ⟨_,same⟩ | ⟨_,⟨_,same⟩ | ⟨_,same⟩⟩ | ⟨outcome,same,good,_⟩
  · exact .inl (same ▸ stopped)
  · rw [same] at stopped
    cases stopped
  · rw [same] at stopped
    cases stopped
  · rw [same] at stopped
    exact .inr (good rows (Waiting.stopped.inj stopped))

end Request

section Ahead
variable {pending : List Job} {d e : Dispatch} {job : Job}

theorem turn_queue_prefix (d : Dispatch) (place : Nat) :
    d.queue <+: (d.turn place).queue ∧ d.late <+: (d.turn place).late := by
  cases found : d.fetches[place]? with
  | none => simp [turn_absent found]
  | some f => simp [turn_queue found,turn_late found]

/-- The jobs ahead after a turn are those that were ahead before and those that the query calls for. -/
theorem of_mem_ahead_turn {other : Job} {place : Nat} {f : Fetch}
    (found : d.fetches[place]? = some f) (member : other ∈ ahead pending (d.turn place)) :
    other ∈ ahead pending d ∨ other ∈ f.turn.call.jobs place ∨ other ∈ f.turn.call.lateJobs := by
  simp only [ahead,turn_queue found,turn_late found,List.mem_append] at member ⊢
  rcases member with inside | (queued | new) | (late | new)
  · exact .inl (.inl inside)
  · exact .inl (.inr (.inl queued))
  · exact .inr (.inl new)
  · exact .inl (.inr (.inr late))
  · exact .inr (.inr new)

theorem perform_queue_prefix (d : Dispatch) (job : Job) :
    d.queue <+: (d.perform job).queue ∧ d.late <+: (d.perform job).late := by
  by_cases own : ∃ place, job = .fetch place
  · obtain ⟨place,rfl⟩ := own
    exact turn_queue_prefix d place
  · have unseen := perform_unseen d job fun place same => own ⟨place,same⟩
    exact ⟨unseen.queue,unseen.late ▸ List.prefix_rfl⟩

theorem mem_ahead_perform {other : Job} (member : other ∈ ahead (job :: pending) d)
    (different : other ≠ job) : other ∈ ahead pending (d.perform job) := by
  obtain ⟨queue,late⟩ := perform_queue_prefix d job
  simp only [ahead,List.cons_append,List.mem_cons,List.mem_append] at member ⊢
  rcases member with same | inside | queued | belated
  · exact absurd same different
  · exact .inl inside
  · exact .inr (.inl (queue.subset queued))
  · exact .inr (.inr (late.subset belated))

theorem mem_ahead_opened {other : Job} (member : other ∈ ahead [] d) :
    other ∈ ahead d.opened.queue { d.opened with queue := [] } := by
  obtain ⟨due,queue,_⟩ := opened_queue d
  rw [ahead,queue]
  exact List.mem_append_left _ (List.mem_append_left due member)

theorem of_mem_ahead_opened {other : Job}
    (member : other ∈ ahead d.opened.queue { d.opened with queue := [] }) :
    other ∈ ahead [] d ∨ other = .deadline := by
  rw [opened_eq] at member
  obtain ⟨due,queue,rfl | rfl⟩ := opened_queue d
  · exact .inl (by simpa [ahead,queue] using member)
  · simpa [ahead,queue,or_assoc] using member

theorem not_mem_ahead_of_isQuiet (quiet : d.isQuiet = true) (other : Job) : other ∉ ahead [] d := by
  intro member
  have queued := mem_ahead_opened member
  have void : d.opened.queue = [] := List.isEmpty_iff.mp quiet
  simp [ahead,void,opened_late] at queued

theorem opened_seen (d : Dispatch) : ({ d.opened with queue := [] } : Dispatch).seen = d.seen := by
  rw [opened_eq,seen,seen]

end Ahead

end Dispatch
end ScopedAnalytics
