import ScopedAnalytics.Proofs.Fetch.Passage

/-! What holds of a query from turn to turn: once sent it stays sent, once ended its end stays as it
is, and its end is the one that its reply says unless it is given up. -/
namespace ScopedAnalytics.Fetch

def isSent (f : Fetch) : Bool :=
  match f.stage with
  | .unsent | .ended .dropped => false
  | _ => true

def isFinished (f : Fetch) : Bool :=
  match f.stage with
  | .ended (.finished _) => true
  | _ => false

/-- Whether the end of a query, or that it has none of its own, is what its reply says. -/
def Agrees (f : Fetch) : Prop :=
  match f.stage with
  | .ended (.finished rows) => f.reply.ending = .answer rows
  | .ended (.failed failure) => f.reply.ending = .failure failure
  | .stalled => f.reply.ending = .silence ∨ f.reply.ending = .signal
  | _ => True

section Ended
variable {f : Fetch}

theorem isEnded_of_isFinished (finished : f.isFinished = true) : f.isEnded = true := by
  cases stage : f.stage with
  | ended fate => simp [isEnded,stage]
  | unsent => simp [isFinished,stage] at finished
  | waiting rounds => simp [isFinished,stage] at finished
  | stalled => simp [isFinished,stage] at finished

theorem stage_of_isFinished (finished : f.isFinished = true) :
    f.stage = .ended (.finished f.rows) := by
  unfold isFinished at finished
  split at finished
  · rename_i rows stage
    rw [stage,Fetch.rows,stage]
  · cases finished

theorem turn_of_ended (ended : f.isEnded = true) : f.turn = ⟨f,[],.nothing⟩ := by
  cases stage : f.stage with
  | ended fate => simp [turn,stage]
  | unsent => simp [isEnded,stage] at ended
  | waiting rounds => simp [isEnded,stage] at ended
  | stalled => simp [isEnded,stage] at ended

theorem turn_isEnded (ended : f.isEnded = true) : f.turn.fetch.isEnded = true := by
  rw [turn_of_ended ended]
  exact ended

theorem turn_isEnded_of_isCut (cut : f.isCut = true) : f.turn.fetch.isEnded = true := by
  cases stage : f.stage with
  | ended fate => simp [turn,isEnded,stage]
  | unsent => simp [turn,isEnded,ending,stage,cut]
  | waiting rounds => simp [turn,isEnded,ending,stage,cut]
  | stalled => simp [turn,isEnded,ending,stage,cut]

theorem turn_isCut_or_isEnded (done : f.isCut = true ∨ f.isEnded = true) :
    f.turn.fetch.isCut = true ∨ f.turn.fetch.isEnded = true := by
  rcases done with cut | ended
  · exact .inr (turn_isEnded_of_isCut cut)
  · exact .inr (turn_isEnded ended)

end Ended

section Passing
variable {f g : Fetch} {seen : Trace} {call : Call}

/-- A query that still has a turn ahead after its turn calls for it. -/
theorem Passage.again_of_isLive (passage : f.Passage g seen call) (live : g.isLive = true) :
    call = .again := by
  cases passage with
  | still rest => exact absurd live (by simp [rest])
  | waits => rfl
  | dropped => simp [isLive,isEnded] at live
  | givenUp => simp [isLive,isEnded] at live
  | finished => simp [isLive,isEnded] at live
  | failed => simp [isLive,isEnded] at live
  | silent _ _ uncut => simp [isLive,isResting,uncut] at live
  | signalled _ _ uncut => simp [isLive,isResting,uncut] at live

theorem Passage.isEnded_of_news (passage : f.Passage g seen .news) : g.isEnded = true := by
  cases passage with
  | dropped => rfl
  | givenUp => rfl
  | finished => rfl
  | failed => rfl

theorem Passage.agrees (passage : f.Passage g seen call) (agrees : f.Agrees) : g.Agrees := by
  cases passage with
  | still => exact agrees
  | dropped => trivial
  | givenUp => trivial
  | waits => trivial
  | finished _ _ _ _ ending => exact ending
  | failed _ _ _ _ ending => exact ending
  | silent _ _ _ ending => exact .inl ending
  | signalled _ _ _ ending => exact .inr ending

theorem Passage.isSent (passage : f.Passage g seen call) (sent : f.isSent = true) :
    g.isSent = true := by
  cases passage with
  | still => exact sent
  | dropped stage => simp [Fetch.isSent,stage] at sent
  | givenUp => rfl
  | waits => rfl
  | finished => rfl
  | failed => rfl
  | silent => rfl
  | signalled => rfl

theorem Passage.errand (passage : f.Passage g seen call) :
    g.query = f.query ∧ g.reply = f.reply ∧ g.isKnown = f.isKnown := by
  cases passage <;> exact ⟨rfl,rfl,rfl⟩

end Passing

theorem cut_agrees {f : Fetch} (agrees : f.Agrees) : f.cut.Agrees := by
  simpa [Agrees] using agrees

theorem cut_isSent (f : Fetch) : f.cut.isSent = f.isSent := by
  simp [isSent]

theorem cut_isFinished (f : Fetch) : f.cut.isFinished = f.isFinished := by
  simp [isFinished]

theorem cut_rows (f : Fetch) : f.cut.rows = f.rows := by
  simp [rows]

section Marks

/-- What is to be counted of a query: its answer, once. -/
def counted? (f : Fetch) : Option Measurement :=
  match f.stage with
  | .ended (.finished rows) => some (f.measurement rows)
  | _ => none

theorem eq_measurement_of_counted? {f : Fetch} {x : Measurement} (counted : f.counted? = some x) :
    x = f.measurement f.rows := by
  unfold counted? at counted
  split at counted
  · rename_i stage
    rw [← Option.some.inj counted,rows,stage]
  · cases counted

def givenUp? (f : Fetch) : Option Resource :=
  match f.stage with
  | .ended .givenUp => some f.query.resource
  | _ => none

def sent? (f : Fetch) : Option Query := if f.isSent then some f.query else none

variable {f g : Fetch} {seen : Trace} {call : Call}

private theorem remarks_filterMap {α : Type} {event : Event → Option α}
    (quiet : ∀ remark : Remark, event remark.event = none) (remarks : List Remark) :
    (remarks.map Remark.event).filterMap event = [] := by
  simp [List.filterMap_map,quiet]

private theorem measurement?_remark (remark : Remark) : remark.event.measurement? = none := by
  cases remark <;> rfl

private theorem givenUp?_remark (remark : Remark) : remark.event.givenUp? = none := by
  cases remark <;> rfl

private theorem query?_remark (remark : Remark) : remark.event.query? = none := by
  cases remark <;> rfl

private theorem complaint_filterMap {α : Type} {event : Event → Option α}
    (quiet : ∀ notice : Notice, event (.noted notice) = none) (f : Fetch) (failure : Failure) :
    (f.complaint failure).filterMap event = [] := by
  unfold complaint
  split <;> simp [quiet]

/-- A mark that the end of a query leaves on it is what is seen of the end, in the turn in which it
comes and in no other. -/
private theorem Passage.record {α : Type} {event : Event → Option α} {mark : Fetch → Option α}
    (remarks : ∀ remark : Remark, event remark.event = none)
    (notices : ∀ notice : Notice, event (.noted notice) = none)
    (sendings : ∀ query, event (.sent query) = none)
    (onWay : ∀ f : Fetch, f.isEnded = false → mark f = none)
    (dropped : ∀ f : Fetch, mark { f with stage := .ended .dropped } = none)
    (givenUp : ∀ f : Fetch, mark { f with stage := .ended .givenUp } =
      event (.givenUp f.query.resource))
    (failed : ∀ (f : Fetch) failure, mark { f with stage := .ended (.failed failure) } = none)
    (finished : ∀ (f : Fetch) rows, mark { f with stage := .ended (.finished rows) } =
      event (.counted (f.measurement rows)))
    (passage : f.Passage g seen call) :
    (mark f).toList ++ seen.filterMap event = (mark g).toList := by
  -- Until its end a query has no mark and nothing is seen that counts.
  have before {rounds : Nat} {seen : Trace} (bound : f.Bound rounds seen) :
      mark f = none ∧ seen.filterMap event = [] := by
    refine ⟨onWay f bound.isEnded_eq_false,?_⟩
    cases bound with
    | unsent => rw [sending,List.filterMap_cons_none (sendings _),remarks_filterMap remarks]
    | waiting => rfl
  have single (x : Event) : [x].filterMap event = (event x).toList := by
    cases read : event x <;> simp [read]
  have closing := remarks_filterMap remarks f.reply.closing
  cases passage with
  | still => exact List.append_nil _
  | dropped stage =>
    rw [onWay f (by simp [isEnded,stage]),dropped]
    rfl
  | givenUp ended =>
    rw [onWay f ended,givenUp,single]
    rfl
  | waits _ _ bound =>
    obtain ⟨unmarked,nothing⟩ := before bound
    rw [unmarked,nothing,onWay _ rfl]
    rfl
  | finished rows _ bound =>
    obtain ⟨unmarked,nothing⟩ := before bound
    rw [unmarked,finished,List.filterMap_append,List.filterMap_append,nothing,closing,single]
    rfl
  | failed failure _ bound =>
    obtain ⟨unmarked,nothing⟩ := before bound
    rw [unmarked,failed,List.filterMap_append,List.filterMap_append,nothing,closing,
      complaint_filterMap notices]
    rfl
  | silent _ bound =>
    obtain ⟨unmarked,nothing⟩ := before bound
    rw [unmarked,nothing,onWay _ rfl]
    rfl
  | signalled _ bound =>
    obtain ⟨unmarked,nothing⟩ := before bound
    rw [unmarked,nothing,onWay _ rfl]
    rfl

private theorem marks_of_not_ended (ended : f.isEnded = false) :
    f.counted? = none ∧ f.givenUp? = none := by
  cases stage : f.stage with
  | ended fate => simp [isEnded,stage] at ended
  | unsent => simp [counted?,givenUp?,stage]
  | waiting rounds => simp [counted?,givenUp?,stage]
  | stalled => simp [counted?,givenUp?,stage]

theorem Passage.measurements (passage : f.Passage g seen call) :
    f.counted?.toList ++ seen.measurements = g.counted?.toList :=
  passage.record measurement?_remark (fun _ => rfl) (fun _ => rfl)
    (fun _ ended => (marks_of_not_ended ended).1) (fun _ => rfl) (fun _ => rfl) (fun _ _ => rfl)
    (fun _ _ => rfl)

theorem Passage.givenUps (passage : f.Passage g seen call) :
    f.givenUp?.toList ++ seen.givenUp = g.givenUp?.toList :=
  passage.record givenUp?_remark (fun _ => rfl) (fun _ => rfl)
    (fun _ ended => (marks_of_not_ended ended).2) (fun _ => rfl) (fun _ => rfl) (fun _ _ => rfl)
    (fun _ _ => rfl)

private theorem Bound.queries {rounds : Nat} (bound : f.Bound rounds seen) :
    f.sent?.toList ++ seen.queries = [f.query] := by
  cases bound with
  | unsent stage =>
    have quiet := remarks_filterMap query?_remark f.reply.opening
    simp [Trace.queries,sending,Event.query?,sent?,isSent,stage,quiet]
  | waiting _ stage => simp [Trace.queries,sent?,isSent,stage]

/-- A query is seen to be sent in its first turn, unless it is dropped in it. -/
theorem Passage.queries (passage : f.Passage g seen call) :
    f.sent?.toList ++ seen.queries = g.sent?.toList := by
  cases passage with
  | still => exact List.append_nil _
  | dropped stage =>
    rw [sent?,Fetch.isSent,stage]
    rfl
  | givenUp ended sent =>
    have before : f.isSent = true := by
      cases stage : f.stage with
      | ended fate => simp [isEnded,stage] at ended
      | unsent => exact absurd stage sent
      | waiting rounds => simp [Fetch.isSent,stage]
      | stalled => simp [Fetch.isSent,stage]
    rw [sent?,before]
    rfl
  | waits _ _ bound => exact bound.queries
  | finished rows seen bound =>
    have quiet := remarks_filterMap query?_remark f.reply.closing
    have before : f.sent?.toList ++ seen.filterMap Event.query? = [f.query] := bound.queries
    rw [Trace.queries,List.filterMap_append,List.filterMap_append,quiet,← List.append_assoc,
      ← List.append_assoc,before]
    rfl
  | failed failure seen bound =>
    have quiet := remarks_filterMap query?_remark f.reply.closing
    have noted : (f.complaint failure).filterMap Event.query? = [] :=
      complaint_filterMap (fun _ => rfl) f failure
    have before : f.sent?.toList ++ seen.filterMap Event.query? = [f.query] := bound.queries
    rw [Trace.queries,List.filterMap_append,List.filterMap_append,quiet,noted,
      ← List.append_assoc,← List.append_assoc,before]
    rfl
  | silent _ bound => exact bound.queries
  | signalled _ bound => exact bound.queries

end Marks

end ScopedAnalytics.Fetch
