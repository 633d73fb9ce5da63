import ScopedAnalytics.Fetch

/-! What can come of a turn of a query, said once. A query that is cut ends, one whose rounds are
over ends or stalls as its reply says, and one with rounds before it waits on. -/
namespace ScopedAnalytics.Fetch

/-- Whether a query has a turn ahead: it has not ended and waits for nothing else. -/
def isLive (f : Fetch) : Bool := !f.isEnded && !f.isResting

/-- What is seen as a query reaches the layer. -/
def sending (f : Fetch) : Trace := .sent f.query :: f.reply.opening.map Remark.event

/-- A query whose turn goes its way, with the rounds before it: one on its first turn is sent in
it. -/
inductive Bound (f : Fetch) : Nat → Trace → Prop
  | unsent (stage : f.stage = .unsent) : Bound f f.reply.rounds f.sending
  | waiting (rounds : Nat) (stage : f.stage = .waiting rounds) : Bound f rounds []

/-- What comes of a turn of a query: the query after it, what is seen and what is called for. -/
inductive Passage (f : Fetch) : Fetch → Trace → Call → Prop
  | still (rest : f.isLive = false) : Passage f f [] .nothing
  | dropped (stage : f.stage = .unsent) (cut : f.isCut = true) :
      Passage f { f with stage := .ended .dropped } [] .news
  | givenUp (ended : f.isEnded = false) (sent : f.stage ≠ .unsent) (cut : f.isCut = true) :
      Passage f { f with stage := .ended .givenUp } [.givenUp f.query.resource] .news
  | waits (rounds : Nat) (seen : Trace) (bound : f.Bound (rounds + 1) seen)
      (uncut : f.isCut = false) :
      Passage f { f with stage := .waiting rounds } seen .again
  | finished (rows : List Row) (seen : Trace) (bound : f.Bound 0 seen) (uncut : f.isCut = false)
      (ending : f.reply.ending = .answer rows) :
      Passage f { f with stage := .ended (.finished rows) }
        (seen ++ f.reply.closing.map Remark.event ++ [.counted (f.measurement rows)]) .news
  | failed (failure : Failure) (seen : Trace) (bound : f.Bound 0 seen) (uncut : f.isCut = false)
      (ending : f.reply.ending = .failure failure) :
      Passage f { f with stage := .ended (.failed failure) }
        (seen ++ f.reply.closing.map Remark.event ++ f.complaint failure) .news
  | silent (seen : Trace) (bound : f.Bound 0 seen) (uncut : f.isCut = false)
      (ending : f.reply.ending = .silence) :
      Passage f { f with stage := .stalled } seen .nothing
  | signalled (seen : Trace) (bound : f.Bound 0 seen) (uncut : f.isCut = false)
      (ending : f.reply.ending = .signal) :
      Passage f { f with stage := .stalled } seen .signal

theorem Bound.isEnded_eq_false {f : Fetch} {rounds : Nat} {seen : Trace}
    (bound : f.Bound rounds seen) : f.isEnded = false := by
  cases bound with
  | unsent stage => simp [isEnded,stage]
  | waiting _ stage => simp [isEnded,stage]

private theorem passage_of_bound {f : Fetch} {rounds : Nat} {seen : Trace}
    (bound : f.Bound rounds seen) (uncut : f.isCut = false) :
    Passage f (f.patience rounds).fetch (seen ++ (f.patience rounds).trace)
      (f.patience rounds).call := by
  cases rounds with
  | succ rounds => simpa [patience] using Passage.waits rounds seen bound uncut
  | zero =>
    cases ending : f.reply.ending with
    | answer rows =>
      simpa [patience,arrival,ending,Fetch.ending] using
        Passage.finished rows seen bound uncut ending
    | failure failure =>
      simpa [patience,arrival,ending,Fetch.ending] using
        Passage.failed failure seen bound uncut ending
    | silence =>
      simpa [patience,arrival,ending] using Passage.silent seen bound uncut ending
    | signal =>
      simpa [patience,arrival,ending] using Passage.signalled seen bound uncut ending

theorem turn_passage (f : Fetch) : Passage f f.turn.fetch f.turn.trace f.turn.call := by
  cases stage : f.stage with
  | unsent =>
    cases cut : f.isCut with
    | true => simpa [turn,stage,cut,ending] using Passage.dropped stage cut
    | false =>
      simpa [turn,stage,cut,departure,sending] using passage_of_bound (.unsent stage) cut
  | waiting rounds =>
    cases cut : f.isCut with
    | true =>
      simpa [turn,stage,cut,ending] using
        Passage.givenUp (by simp [isEnded,stage]) (by simp [stage]) cut
    | false =>
      simpa [turn,stage,cut] using passage_of_bound (.waiting rounds stage) cut
  | stalled =>
    cases cut : f.isCut with
    | true =>
      simpa [turn,stage,cut,ending] using
        Passage.givenUp (by simp [isEnded,stage]) (by simp [stage]) cut
    | false =>
      simpa [turn,stage,cut] using Passage.still (by simp [isLive,isEnded,isResting,stage,cut])
  | ended fate =>
    simpa [turn,stage] using Passage.still (by simp [isLive,isEnded,stage])

section Cutting

theorem cut_of_not_ended {f : Fetch} (ended : f.isEnded = false) :
    f.cut = { f with isCut := true } := by
  rw [cut,ended,if_neg Bool.false_ne_true]

theorem cut_eq (f : Fetch) : f.cut = { f with isCut := f.cut.isCut } := by
  unfold cut
  split <;> rfl

@[simp] theorem cut_stage (f : Fetch) : f.cut.stage = f.stage := by rw [cut_eq]

@[simp] theorem cut_query (f : Fetch) : f.cut.query = f.query := by rw [cut_eq]

@[simp] theorem cut_reply (f : Fetch) : f.cut.reply = f.reply := by rw [cut_eq]

@[simp] theorem cut_isKnown (f : Fetch) : f.cut.isKnown = f.isKnown := by rw [cut_eq]

@[simp] theorem cut_isEnded (f : Fetch) : f.cut.isEnded = f.isEnded := by
  simp [isEnded]

theorem cut_isCut_or_isEnded (f : Fetch) : f.cut.isCut = true ∨ f.cut.isEnded = true := by
  cases ended : f.isEnded with
  | true => exact .inr (by simp [ended])
  | false => exact .inl (by simp [cut_of_not_ended ended])

end Cutting

section Effort

theorem Bound.effort_eq {f : Fetch} {rounds : Nat} {seen : Trace} (bound : f.Bound rounds seen)
    (uncut : f.isCut = false) : f.effort = rounds + 4 := by
  cases bound with
  | unsent stage => simp [effort,stage,uncut]
  | waiting _ stage => simp [effort,stage,uncut]

/-- A turn calls for no more than it takes off what is yet to come. -/
theorem Passage.effort_le {f g : Fetch} {seen : Trace} {call : Call} (passage : f.Passage g seen call) :
    g.effort + (if call = .again ∨ call = .news then 1 else 0) + (if call = .signal then 2 else 0) ≤
      f.effort := by
  cases passage with
  | still => simp
  | dropped stage cut => simp [effort,stage,cut]
  | givenUp ended _ cut =>
    cases stage : f.stage with
    | ended fate => simp [isEnded,stage] at ended
    | unsent => simp [effort,stage,cut]
    | waiting rounds => simp [effort,stage,cut]
    | stalled => simp [effort,stage,cut]
  | waits rounds _ bound uncut =>
    rw [bound.effort_eq uncut]
    simp [effort,uncut]
  | finished rows _ bound uncut =>
    rw [bound.effort_eq uncut]
    simp [effort]
  | failed failure _ bound uncut =>
    rw [bound.effort_eq uncut]
    simp [effort]
  | silent _ bound uncut =>
    rw [bound.effort_eq uncut]
    simp [effort,uncut]
  | signalled _ bound uncut =>
    rw [bound.effort_eq uncut]
    simp [effort,uncut]

theorem cut_effort_le (f : Fetch) : f.cut.effort + (if f.isResting then 1 else 0) ≤ f.effort := by
  cases stage : f.stage with
  | ended fate => simp [cut,isEnded,isResting,effort,stage]
  | unsent => cases cut : f.isCut <;> simp [Fetch.cut,isEnded,isResting,effort,stage,cut]
  | waiting rounds => cases cut : f.isCut <;> simp [Fetch.cut,isEnded,isResting,effort,stage,cut]
  | stalled => cases cut : f.isCut <;> simp [Fetch.cut,isEnded,isResting,effort,stage,cut]

end Effort

end ScopedAnalytics.Fetch
