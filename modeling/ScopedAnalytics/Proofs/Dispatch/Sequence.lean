import ScopedAnalytics.Proofs.Dispatch.Calm
import ScopedAnalytics.Proofs.Dispatch.Traffic
import ScopedAnalytics.Proofs.Fetch.Reports

/-! The order in which queries are reported that the layer fails. As long as nothing is cut, every query
that is on its way has its turn once in each round, in the order of the queries, so those whose replies
take fewer rounds fail first. Once the queries are cut, none of them fails any more. -/
namespace ScopedAnalytics

namespace Fetch
variable {f g : Fetch} {seen : Trace} {call : Call} {left : Nat}

theorem Passage.left? (passage : f.Passage g seen call) (toGo : g.left? = some left) :
    f.left? = some (left + 1) ∧ call = .again := by
  cases passage with
  | still rest => exact absurd (isLive_of_left? toGo) (by simp [rest])
  | waits rounds _ bound =>
    obtain rfl : rounds = left := Option.some.inj toGo
    exact ⟨bound.left?_eq,rfl⟩
  | dropped => cases toGo
  | givenUp => cases toGo
  | finished => cases toGo
  | failed => cases toGo
  | silent => cases toGo
  | signalled => cases toGo

/-- Only a query that is not cut can be failed by the layer, and it is in the last of its rounds. -/
theorem Passage.of_isDenied (passage : f.Passage g seen call) (onWay : f.isEnded = false)
    (denied : g.isDenied = true) : f.isCut = false ∧ f.left? = some 0 := by
  cases passage with
  | still => simp [isDenied_of_not_ended onWay] at denied
  | failed _ _ bound uncut => exact ⟨uncut,bound.left?_eq⟩
  | waits => simp [isDenied] at denied
  | dropped => simp [isDenied] at denied
  | givenUp => simp [isDenied] at denied
  | finished => simp [isDenied] at denied
  | silent => simp [isDenied] at denied
  | signalled => simp [isDenied] at denied

/-- A turn in which the layer does not fail the query makes no difference to what is reported. -/
theorem turn_unreported (kept : f.isEnded = true ∨ f.turn.fetch.isDenied = false) :
    f.turn.fetch.isDenied = f.isDenied ∧ f.turn.trace.reports = [] := by
  cases ended : f.isEnded with
  | true => simp [turn_of_ended ended]
  | false =>
    have spared : f.turn.fetch.isDenied = false := kept.resolve_left (by simp [ended])
    rw [f.turn_passage.reports,spared,isDenied_of_not_ended ended]
    exact ⟨rfl,if_neg (by simp)⟩

end Fetch

namespace Dispatch

variable {pending : List Job} {d : Dispatch} {job : Job} {places : List Nat} {time : Nat}
  {errands : List (Query × Reply (List Row))}

section Turns

def turns (jobs : List Job) : List Nat :=
  jobs.filterMap fun job => match job with
    | .fetch place => some place
    | _ => none

theorem mem_turns {jobs : List Job} {place : Nat} : place ∈ turns jobs ↔ .fetch place ∈ jobs := by
  rw [turns,List.mem_filterMap]
  constructor
  · rintro ⟨job,member,own⟩
    split at own
    · exact Option.some.inj own ▸ member
    · cases own
  · exact fun member => ⟨.fetch place,member,rfl⟩

@[simp] theorem turns_append (first second : List Job) :
    turns (first ++ second) = turns first ++ turns second := List.filterMap_append

/-- What a job does that is no turn of a query: all queries are cut, or they stay as they are, except
for what is known of them, and no turn comes in. -/
inductive Aside (d e : Dispatch) : Prop
  | cut (fetches : e.fetches = d.fetches.map Fetch.cut) : Aside d e
  | kept (fetches : ∀ (place : Nat) (g : Fetch), e.fetches[place]? = some g →
        ∃ f : Fetch, d.fetches[place]? = some f ∧ (g = f ∨ g = { f with isKnown := true }))
      (queue : turns e.queue = turns d.queue) : Aside d e

private theorem Aside.of_same {e : Dispatch} (fetches : e.fetches = d.fetches)
    (queue : turns e.queue = turns d.queue) : Aside d e :=
  .kept (fun _ g found => ⟨g,fetches ▸ found,.inl rfl⟩) queue

private theorem call_aside (d : Dispatch) : Aside d d.call ∧ Aside d d.strike.call := by
  have called (e : Dispatch) (fetches : e.fetches = d.fetches) (queue : e.queue = d.queue) :
      Aside d e.call := by
    rcases call_cases e with ⟨_,same⟩ | ⟨_,same⟩
    · exact same.symm ▸ .of_same fetches (congrArg turns queue)
    · refine same ▸ .of_same fetches ?_
      rw [push,turns_append,← queue]
      exact List.append_nil _
  exact ⟨called d rfl rfl,called d.strike rfl rfl⟩

private theorem leave_aside (d : Dispatch) : Aside d d.leave := by
  rcases leave_cases d with ⟨_,same⟩ | ⟨_,same | same⟩ | ⟨_,same⟩
  · exact same.symm ▸ .of_same rfl rfl
  · exact same ▸ .of_same rfl rfl
  · exact same ▸ .cut rfl
  · exact same ▸ (call_aside d).2

private theorem resume_aside (d : Dispatch) : Aside d d.resume := by
  rcases resume_cases d with ⟨_,same⟩ | ⟨_,⟨_,same⟩ | ⟨_,same⟩⟩ | ⟨_,same,_⟩
  · exact same.symm ▸ .of_same rfl rfl
  · exact same ▸ .cut rfl
  · exact same ▸ .cut rfl
  · exact same ▸ .cut rfl

private theorem release_aside (d : Dispatch) : Aside d d.release := by
  rcases release_cases d with ⟨_,same⟩ | ⟨_,same⟩
  · exact same ▸ (call_aside d).1
  · exact same.symm ▸ .of_same rfl rfl

private theorem expire_aside (d : Dispatch) : Aside d d.expire := by
  rcases expire_cases d with ⟨_,same⟩ | same
  · exact same ▸ (call_aside d).1
  · exact same.symm ▸ .of_same rfl rfl

private theorem learn_aside (d : Dispatch) (place : Nat) : Aside d (d.learn place) := by
  cases found : d.fetches[place]? with
  | none => exact (learn_absent found).symm ▸ .of_same rfl rfl
  | some f =>
    obtain ⟨_,_,new,queue,own⟩ := learn_fields found
    have none : turns new = [] := by
      refine List.eq_nil_iff_forall_not_mem.mpr fun turn member => ?_
      rcases (own _ (mem_turns.mp member)).1 with same | same <;> cases same
    refine .kept (fun there g held => ?_) (by rw [queue,turns_append,none,List.append_nil])
    rw [learn_fetches found] at held
    rcases getElem?_set_cases held with ⟨rfl,rfl⟩ | ⟨_,held⟩
    · exact ⟨f,found,.inr rfl⟩
    · exact ⟨g,held,.inl rfl⟩

theorem perform_aside (other : ∀ place, job ≠ .fetch place) : Aside d (d.perform job) := by
  cases job with
  | fetch place => exact absurd rfl (other place)
  | news place => exact learn_aside d place
  | signal => exact .of_same rfl ((turns_append ..).trans (List.append_nil _))
  | leave => exact leave_aside d
  | request => exact resume_aside d
  | release => exact release_aside d
  | deadline => exact expire_aside d
  | caller more =>
    cases more with
    | zero => exact leave_aside d
    | succ more => exact .of_same rfl ((turns_append ..).trans (List.append_nil _))

end Turns

section Pace

/-- A dispatch of which nothing is cut, some rounds after its beginning. The queries that are on their
way have their turns in order, each one either in this round or in the next. -/
structure Paced (time : Nat) (pending : List Job) (d : Dispatch) : Prop where
  uncut : ∀ f ∈ d.fetches, f.isCut = false
  order : (turns (d.queue ++ pending)).Pairwise (· < ·)
  late : turns d.late = []
  due : ∀ place f left, d.fetches[place]? = some f → f.left? = some left →
    .fetch place ∈ pending ∧ left + time = f.reply.rounds + 1 ∨
      .fetch place ∈ d.queue ∧ left + time = f.reply.rounds

/-- No query has a turn of its own ahead. -/
def Spent (d : Dispatch) : Prop := ∀ f ∈ d.fetches, f.isCut = true ∨ f.isEnded = true

theorem Spent.perform (spent : Spent d) (job : Job) : Spent (d.perform job) :=
  perform_forall (fun _ => Fetch.turn_isCut_or_isEnded) (fun _ done => done)
    (fun f _ => f.cut_isCut_or_isEnded) job spent

theorem Paced.order_rest {place : Nat} (paced : Paced time (.fetch place :: pending) d) :
    (turns d.queue ++ place :: turns pending).Pairwise (· < ·) := by
  have order := paced.order
  rwa [turns_append] at order

theorem Paced.due_now {place left : Nat} {f : Fetch} (paced : Paced time (.fetch place :: pending) d)
    (found : d.fetches[place]? = some f) (toGo : f.left? = some left) :
    left + time = f.reply.rounds + 1 := by
  rcases paced.due place f left found toGo with ⟨_,due⟩ | ⟨queued,_⟩
  · exact due
  · have less := (List.pairwise_append.mp paced.order_rest).2.2 place (mem_turns.mpr queued) place
      List.mem_cons_self
    exact absurd less (Nat.lt_irrefl place)

private theorem Paced.drop (paced : Paced time (job :: pending) d)
    (idle : ∀ place f, d.fetches[place]? = some f → job ≠ .fetch place) : Paced time pending d where
  uncut := paced.uncut
  order := paced.order.sublist
    ((List.Sublist.append_left (List.sublist_cons_self job pending) d.queue).filterMap _)
  late := paced.late
  due place f left found toGo := by
    refine (paced.due place f left found toGo).imp_left fun ⟨member,due⟩ => ⟨?_,due⟩
    exact (List.mem_cons.mp member).resolve_left (Ne.symm (idle place f found))

private theorem jobs_turns (call : Fetch.Call) (place : Nat) :
    (turns (call.jobs place)).Sublist [place] ∧ turns call.lateJobs = [] := by
  cases call with
  | again => exact ⟨List.Sublist.refl _,rfl⟩
  | news => exact ⟨List.nil_sublist _,rfl⟩
  | signal => exact ⟨List.nil_sublist _,rfl⟩
  | nothing => exact ⟨List.nil_sublist _,rfl⟩

private theorem Paced.turn {place : Nat} {f : Fetch} (paced : Paced time (.fetch place :: pending) d)
    (found : d.fetches[place]? = some f) : Paced time pending (d.turn place) := by
  obtain ⟨jobs,lateJobs⟩ := jobs_turns f.turn.call place
  have fetches := turn_fetches found
  have queue := turn_queue found
  constructor
  case uncut =>
    intro g member
    rw [fetches] at member
    rcases List.mem_or_eq_of_mem_set member with inside | rfl
    · exact paced.uncut g inside
    · exact f.turn_passage.isCut.trans (paced.uncut f (List.mem_of_getElem? found))
  case order =>
    rw [queue,turns_append,turns_append,List.append_assoc]
    exact paced.order_rest.sublist ((jobs.append_right (turns pending)).append_left _)
  case late => rw [turn_late found,turns_append,paced.late,lateJobs,List.append_nil]
  case due =>
    intro there g left held toGo
    rw [fetches] at held
    rw [queue]
    rcases getElem?_set_cases held with ⟨rfl,rfl⟩ | ⟨other,held⟩
    · -- The turn took one round off, and the next turn is in the next round.
      obtain ⟨before,again⟩ := f.turn_passage.left? toGo
      have due := paced.due_now found before
      refine .inr ⟨List.mem_append_right _ (Fetch.Call.mem_jobs.mpr (.inl ⟨again,rfl⟩)),?_⟩
      rw [f.turn_passage.errand.2.1]
      omega
    · rcases paced.due there g left held toGo with ⟨member,due⟩ | ⟨member,due⟩
      · have rest := (List.mem_cons.mp member).resolve_left (by simpa using other)
        exact .inl ⟨rest,due⟩
      · exact .inr ⟨List.mem_append_left _ member,due⟩

theorem Paced.perform (paced : Paced time (job :: pending) d) :
    Paced time pending (d.perform job) ∨ Spent (d.perform job) := by
  by_cases own : ∃ place, job = .fetch place
  · obtain ⟨place,rfl⟩ := own
    rw [Dispatch.perform]
    cases found : d.fetches[place]? with
    | none =>
      rw [turn_absent found]
      refine .inl (paced.drop fun there f held => ?_)
      rintro ⟨⟩
      simp [found] at held
    | some f => exact .inl (paced.turn found)
  · have other : ∀ place, job ≠ .fetch place := fun place same => own ⟨place,same⟩
    have rest := paced.drop fun place _ _ => other place
    cases perform_aside (d := d) other with
    | cut fetches =>
      refine .inr fun g member => ?_
      rw [fetches] at member
      obtain ⟨f,_,rfl⟩ := List.mem_map.mp member
      exact f.cut_isCut_or_isEnded
    | kept fetches queue =>
      refine .inl ⟨fun g member => ?_,?_,?_,fun place g left held toGo => ?_⟩
      · obtain ⟨place,held⟩ := List.getElem?_of_mem member
        obtain ⟨f,found,rfl | rfl⟩ := fetches place g held
        · exact rest.uncut g (List.mem_of_getElem? found)
        · exact rest.uncut f (List.mem_of_getElem? found)
      · simpa only [turns_append,queue] using rest.order
      · rw [(perform_unseen d job other).late,rest.late]
      · have queued : ∀ there, Job.fetch there ∈ d.queue → Job.fetch there ∈ (d.perform job).queue :=
          fun _ member => (perform_unseen d job other).queue.subset member
        obtain ⟨f,found,rfl | rfl⟩ := fetches place g held
        · exact (rest.due place g left found toGo).imp_right fun due => ⟨queued place due.1,due.2⟩
        · exact (rest.due place f left found toGo).imp_right fun due => ⟨queued place due.1,due.2⟩

theorem Paced.opened (paced : Paced time [] d) :
    Paced (time + 1) d.opened.queue { d.opened with queue := [] } := by
  have jobs : turns d.opened.queue = turns d.queue ∧ ∀ job ∈ d.queue, job ∈ d.opened.queue := by
    obtain ⟨due,queue,kind⟩ := opened_queue d
    have none : turns due = [] := by rcases kind with rfl | rfl <;> rfl
    refine ⟨by simp [queue,paced.late,none],fun job member => ?_⟩
    simp [queue,member]
  constructor
  case uncut => simpa only [opened_fetches] using paced.uncut
  case order =>
    have order := paced.order
    rw [List.append_nil] at order
    rwa [List.nil_append,jobs.1]
  case late => exact congrArg turns (opened_late d)
  case due =>
    intro place f left found toGo
    rw [opened_fetches] at found
    rcases paced.due place f left found toGo with ⟨impossible,_⟩ | ⟨queued,due⟩
    · cases impossible
    · exact .inl ⟨jobs.2 _ queued,by omega⟩

end Pace

section Reports

/-- Whether the query at a place is done before that at another one: its reply takes fewer rounds, or as
many and it is sent first. -/
def Sooner (errands : List (Query × Reply (List Row))) (a b : Nat) : Prop :=
  ∃ first second, errands[a]? = some first ∧ errands[b]? = some second ∧
    (first.2.rounds < second.2.rounds ∨ first.2.rounds = second.2.rounds ∧ a < b)

def IsReport (errands : List (Query × Reply (List Row))) (place : Nat) (entry : Entry) : Prop :=
  ∃ errand, errands[place]? = some errand ∧ entry =
    ⟨.error,"hub_analytics.service","cube_query_error",
      [("resource",.str errand.1.resource.name)],true⟩

/-- What is reported of the queries so far. The places are those of the queries that the layer has
failed, in the order in which it did, and all of them were done by now. -/
structure Sequenced (errands : List (Query × Reply (List Row))) (time : Nat) (places : List Nat)
    (pending : List Job) (d : Dispatch) : Prop where
  asked : d.fetches.map Fetch.errand = errands
  wound : Wound d
  pace : Paced time pending d ∨ Spent d
  denied : ∀ place, place ∈ places ↔ (d.fetches.map Fetch.isDenied)[place]? = some true
  reports : List.Forall₂ (IsReport errands) places d.trace.reports
  silent : d.aftermath.reports = []
  sorted : places.Pairwise (Sooner errands)
  past : ∀ place ∈ places, ∀ errand, errands[place]? = some errand →
    errand.2.rounds + 1 < time ∨
      errand.2.rounds + 1 = time ∧ ∀ other ∈ turns pending, place < other

variable {f : Fetch} {place : Nat}

private theorem Sequenced.pace_perform (sequenced : Sequenced errands time places (job :: pending) d) :
    Paced time pending (d.perform job) ∨ Spent (d.perform job) := by
  rcases sequenced.pace with paced | spent
  · exact paced.perform
  · exact .inr (spent.perform job)

private theorem Sequenced.past_rest (sequenced : Sequenced errands time places (job :: pending) d) :
    ∀ place ∈ places, ∀ errand, errands[place]? = some errand → errand.2.rounds + 1 < time ∨
      errand.2.rounds + 1 = time ∧ ∀ other ∈ turns pending, place < other := by
  intro place member errand held
  refine (sequenced.past place member errand held).imp_right fun ⟨now,later⟩ => ⟨now,?_⟩
  exact fun other rest => later other ((List.sublist_cons_self job pending).filterMap _ |>.subset rest)

private theorem Sequenced.perform_kept (sequenced : Sequenced errands time places (job :: pending) d)
    (denied : (d.perform job).fetches.map Fetch.isDenied = d.fetches.map Fetch.isDenied)
    (trace : (d.perform job).trace.reports = d.trace.reports)
    (aftermath : (d.perform job).aftermath.reports = d.aftermath.reports) :
    Sequenced errands time places pending (d.perform job) where
  asked := (perform_errands d job).trans sequenced.asked
  wound := sequenced.wound.perform job
  pace := sequenced.pace_perform
  denied place := by rw [denied,sequenced.denied]
  reports := by
    rw [trace]
    exact sequenced.reports
  silent := aftermath.trans sequenced.silent
  sorted := sequenced.sorted
  past := sequenced.past_rest

private theorem note_reports (d : Dispatch) {events : Trace} (quiet : events.reports = []) :
    (d.note events).trace.reports = d.trace.reports ∧
      (d.note events).aftermath.reports = d.aftermath.reports := by
  unfold note
  split <;> simp [quiet]

private theorem Sequenced.errand_of_found (sequenced : Sequenced errands time places pending d)
    (found : d.fetches[place]? = some f) : errands[place]? = some f.errand := by
  rw [← sequenced.asked,List.getElem?_map,found]
  rfl

private theorem Sequenced.errand_of_mem (sequenced : Sequenced errands time places pending d)
    (listed : place ∈ places) : ∃ errand, errands[place]? = some errand := by
  have held := (sequenced.denied place).mp listed
  rw [List.getElem?_map,Option.map_eq_some_iff] at held
  obtain ⟨f,found,_⟩ := held
  exact ⟨f.errand,sequenced.errand_of_found found⟩

/-- A query that the layer fails at its turn has had all its rounds, and its turn comes before those
that are left of this one. -/
private theorem Sequenced.due_of_denied
    (sequenced : Sequenced errands time places (.fetch place :: pending) d)
    (found : d.fetches[place]? = some f) (onWay : f.isEnded = false)
    (denied : f.turn.fetch.isDenied = true) : d.isOver = false ∧ f.reply.rounds + 1 = time ∧
      ∀ other ∈ turns pending, place < other := by
  obtain ⟨uncut,toGo⟩ := f.turn_passage.of_isDenied onWay denied
  have member := List.mem_of_getElem? found
  have alive : ¬(f.isCut = true ∨ f.isEnded = true) := by simp [uncut,onWay]
  have paced := sequenced.pace.resolve_right fun spent => alive (spent f member)
  refine ⟨sequenced.wound.waits member alive,?_,?_⟩
  · have due := paced.due_now found toGo
    omega
  · exact (List.pairwise_cons.mp (List.pairwise_append.mp paced.order_rest).2.1).1

private theorem Sequenced.sooner
    (sequenced : Sequenced errands time places (.fetch place :: pending) d)
    (found : d.fetches[place]? = some f) (now : f.reply.rounds + 1 = time) :
    ∀ before ∈ places, Sooner errands before place := by
  intro before earlier
  obtain ⟨other,held⟩ := sequenced.errand_of_mem earlier
  refine ⟨other,f.errand,held,sequenced.errand_of_found found,?_⟩
  have own : f.errand.2.rounds + 1 = time := now
  rcases sequenced.past before earlier other held with less | ⟨equal,less⟩
  · exact .inl (by omega)
  · exact .inr ⟨by omega,less place (mem_turns.mpr List.mem_cons_self)⟩

private theorem Sequenced.turn_denied
    (sequenced : Sequenced errands time places (.fetch place :: pending) d)
    (found : d.fetches[place]? = some f) (onWay : f.isEnded = false)
    (denied : f.turn.fetch.isDenied = true) :
    Sequenced errands time (places ++ [place]) pending (d.perform (.fetch place)) := by
  obtain ⟨waits,now,later⟩ := sequenced.due_of_denied found onWay denied
  have errand := sequenced.errand_of_found found
  have reported : f.turn.trace.reports = [(Notice.queryFailed f.query.resource).entry] :=
    f.turn_passage.reports.trans (if_pos ⟨onWay,denied⟩)
  constructor
  case asked => exact (perform_errands d _).trans sequenced.asked
  case wound => exact sequenced.wound.perform _
  case pace => exact sequenced.pace_perform
  case denied =>
    intro there
    obtain ⟨inside,_⟩ := List.getElem?_eq_some_iff.mp found
    rw [perform,turn_fetches found,List.mem_append,List.mem_singleton,sequenced.denied,
      List.map_set,denied,List.getElem?_set]
    by_cases same : place = there
    · subst same
      simp [inside]
    · simp [same,Ne.symm same]
  case reports =>
    have noted : (d.perform (.fetch place)).trace.reports = d.trace.reports ++
        [(Notice.queryFailed f.query.resource).entry] := by
      rw [perform,turn_of_waits waits found,Trace.reports_append,reported]
    rw [noted]
    exact List.rel_append sequenced.reports (.cons ⟨f.errand,errand,rfl⟩ .nil)
  case silent =>
    rw [perform,turn_of_waits waits found]
    exact sequenced.silent
  case sorted =>
    refine List.pairwise_append.mpr ⟨sequenced.sorted,List.pairwise_singleton _ _,?_⟩
    intro before earlier after same
    obtain rfl := List.mem_singleton.mp same
    exact sequenced.sooner found now before earlier
  case past =>
    intro before earlier other held
    rcases List.mem_append.mp earlier with listed | same
    · exact sequenced.past_rest before listed other held
    · obtain rfl := List.mem_singleton.mp same
      obtain rfl : f.errand = other := Option.some.inj (errand.symm.trans held)
      exact .inr ⟨now,later⟩

/-- What is reported changes only in the turn of a query that the layer fails. -/
private theorem Sequenced.perform (sequenced : Sequenced errands time places (job :: pending) d) :
    ∃ places, Sequenced errands time places pending (d.perform job) := by
  by_cases own : ∃ place, job = .fetch place
  · obtain ⟨place,rfl⟩ := own
    cases found : d.fetches[place]? with
    | none =>
      have same : d.perform (.fetch place) = d := turn_absent found
      exact ⟨places,sequenced.perform_kept (by rw [same]) (by rw [same]) (by rw [same])⟩
    | some f =>
      by_cases denial : f.isEnded = false ∧ f.turn.fetch.isDenied = true
      · exact ⟨_,sequenced.turn_denied found denial.1 denial.2⟩
      · have spared : f.isEnded = true ∨ f.turn.fetch.isDenied = false := by
          simpa [or_iff_not_imp_left] using denial
        obtain ⟨same,quiet⟩ := Fetch.turn_unreported spared
        have same' : d.perform (.fetch place) = _ := turn_found found
        have kept := map_set_of_eq found same
        refine ⟨places,sequenced.perform_kept ?_ ?_ ?_⟩
        · rw [same',note_fetches,kept]
        · rw [same',(note_reports _ quiet).1]
        · rw [same',(note_reports _ quiet).2]
  · have other : ∀ place, job ≠ .fetch place := fun place same => own ⟨place,same⟩
    have unseen := perform_unseen d job other
    refine ⟨places,sequenced.perform_kept ?_ ?_ ?_⟩
    · exact perform_map_of_other other (fun _ => rfl) Fetch.cut_isDenied
    · rw [unseen.trace]
    · rw [unseen.aftermath]

private theorem Sequenced.opened (sequenced : Sequenced errands time places [] d) :
    Sequenced errands (time + 1) places d.opened.queue { d.opened with queue := [] } where
  asked := by simpa only [opened_fetches] using sequenced.asked
  wound := sequenced.wound.opened
  pace := by
    refine sequenced.pace.imp Paced.opened fun spent => ?_
    simpa only [Spent,opened_fetches] using spent
  denied place := by simpa only [opened_fetches] using sequenced.denied place
  reports := by
    rw [opened_eq]
    exact sequenced.reports
  silent := by
    rw [opened_eq]
    exact sequenced.silent
  sorted := sequenced.sorted
  past place listed errand held := by
    refine .inl ?_
    rcases sequenced.past place listed errand held with less | ⟨now,_⟩
    · omega
    · omega

private theorem Sequenced.of_unsent (asked : d.fetches.map Fetch.errand = errands)
    (unsent : ∀ f ∈ d.fetches, f.stage = .unsent) (trace : d.trace = []) (aftermath : d.aftermath = [])
    (wound : Wound d) (pace : Paced 0 pending d ∨ Spent d) : Sequenced errands 0 [] pending d where
  asked := asked
  wound := wound
  pace := pace
  denied place := by
    refine iff_of_false List.not_mem_nil fun held => ?_
    rw [List.getElem?_map,Option.map_eq_some_iff] at held
    obtain ⟨f,found,denied⟩ := held
    simp [Fetch.isDenied,unsent f (List.mem_of_getElem? found)] at denied
  reports := by
    rw [trace]
    exact .nil
  silent := by
    rw [aftermath]
    rfl
  sorted := .nil
  past place listed := absurd listed List.not_mem_nil

private theorem turns_ready (count : Nat) :
    turns ((List.range count).map .fetch) = List.range count := by
  rw [turns,List.filterMap_map]
  exact List.filterMap_some

private theorem start_sequenced (deadline : Option Quantity) (passing : Option Nat) (layer : Layer)
    (queries : List Query) (idle : turns pending = []) :
    Sequenced (queries.map fun q => (q,layer q)) 0 [] pending
      (start deadline passing (fresh layer queries)) := by
  obtain ⟨asked,unsent,trace,aftermath,_⟩ := start_unsent deadline passing layer queries
  have cut : ∀ f ∈ (fresh layer queries).map Fetch.cut, f.isCut = true ∨ f.isEnded = true := by
    intro g member
    obtain ⟨f,_,rfl⟩ := List.mem_map.mp member
    exact f.cut_isCut_or_isEnded
  have begins := @Sequenced.of_unsent pending _ _ asked unsent trace aftermath
  rcases start_cases deadline passing (fresh layer queries) with
    ⟨_,same⟩ | ⟨_,same⟩ | ⟨_,same | same⟩
  · have spent : Spent (start deadline passing (fresh layer queries)) := by simp [same,Spent,ready]
    exact begins (fun _ => spent) (.inr spent)
  · refine begins (fun winding => ?_) (.inl ?_)
    · rw [same] at winding
      exact absurd winding (Bool.eq_false_iff.mp (begins_waiting rfl).1)
    · rw [same]
      refine ⟨fun f member => (mem_fresh member).2.1,?_,rfl,fun place f left found toGo => ?_⟩
      · have sorted : (List.range (fresh layer queries).length).Pairwise (· < ·) :=
          List.pairwise_lt_range
        simpa only [ready,turns_append,turns_ready,idle,List.append_nil] using sorted
      · obtain ⟨inside,_⟩ := List.getElem?_eq_some_iff.mp found
        have rounds : f.reply.rounds = left := by
          simpa [Fetch.left?,(mem_fresh (List.mem_of_getElem? found)).1] using toGo
        exact .inr ⟨List.mem_map.mpr ⟨place,List.mem_range.mpr inside,rfl⟩,rounds.symm⟩
  · have spent : Spent (start deadline passing (fresh layer queries)) := same ▸ cut
    exact begins (fun _ => spent) (.inr spent)
  · have spent : Spent (start deadline passing (fresh layer queries)) := same ▸ cut
    exact begins (fun _ => spent) (.inr spent)

/-- In every run, each query that the layer fails is reported once, nothing else is, and the reports are
in the order in which the queries failed. Nothing is reported once the request has stopped waiting. -/
theorem run_reports (deadline : Option Quantity) (interruption : Interruption) (layer : Layer)
    (queries : List Query) :
    let d := run deadline interruption (fresh layer queries)
    let errands := queries.map fun q => (q,layer q)
    ∃ places, places.Pairwise (Sooner errands) ∧
      (∀ place, place ∈ places ↔ ∃ f, d.fetches[place]? = some f ∧ f.isDenied = true) ∧
      List.Forall₂ (IsReport errands) places d.trace.reports ∧ d.aftermath.reports = [] := by
  intro d errands
  have departure {pending : List Job} (leaving : ∀ job ∈ pending, job.isDeparture = true) :
      turns pending = [] := by
    refine List.eq_nil_iff_forall_not_mem.mpr fun place member => ?_
    exact absurd (leaving _ (mem_turns.mp member)) (by simp [Job.isDeparture])
  obtain ⟨_,places,sequenced⟩ : ∃ time places, Sequenced errands time places [] d := by
    refine run_jobs_invariant (P := fun pending d => ∃ time places, Sequenced errands time places pending d)
      ?step ?round deadline interruption ?start
    case step =>
      rintro job pending e ⟨time,places,sequenced⟩
      exact ⟨time,sequenced.perform⟩
    case round =>
      rintro e ⟨time,places,sequenced⟩
      exact ⟨time + 1,places,sequenced.opened⟩
    case start =>
      intro pending leaving
      exact ⟨0,[],start_sequenced deadline interruption.passing layer queries (departure leaving)⟩
  refine ⟨places,sequenced.sorted,fun place => ?_,sequenced.reports,sequenced.silent⟩
  rw [sequenced.denied,List.getElem?_map,Option.map_eq_some_iff]

end Reports

end Dispatch
end ScopedAnalytics
