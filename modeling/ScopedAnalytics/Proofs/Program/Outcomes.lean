import ScopedAnalytics.Proofs.Program.Courses
import ScopedAnalytics.Proofs.Timeline.Merging

/-! How a run of the program ends and what it prints. Only a run whose request is answered in full
prints anything, and then its points, each of which can be written. The other ends are told apart by
how far the run came and by what its request failed with. -/
namespace ScopedAnalytics.Program

section Runs
variable {env : Environment} {arguments : List String} {exchange : Query → Http.Exchange}
  {c : CommandLine} {s : Settings} {client : Client}

/-- Whether a command line and the settings are accepted, with a level for the journal. -/
structure Accepts (env : Environment) (arguments : List String) (c : CommandLine) (s : Settings) :
    Prop where
  read : CommandLine.read arguments = .ok c
  settings : CommandLine.settings env c.options = .ok s
  level : ∃ level, s.level = .value level

/-- Whether a run comes as far as its request: it is accepted, has a token, and has a client for the
host. -/
structure Serves (env : Environment) (arguments : List String) (c : CommandLine) (s : Settings)
    (client : Client) : Prop extends Accepts env arguments c s where
  token : s.token ≠ ""
  client : Client.ofBase s.baseUrl s.token = .ok client

def request (s : Settings) (client : Client) (exchange : Query → Http.Exchange) (c : CommandLine) :
    Course := course s.requestTimeout (client.layer exchange) c

/-- What comes of the result of a request: the exit, what is printed and what is noted last. -/
inductive Ends : Option (Except Failure (List Point)) → Exit → String → Trace → Prop
  | endless : Ends none .endless "" []
  | done (points : List Point) {output : String} (printed : printed? points = some output) :
      Ends (some (.ok points)) .done output []
  | failed (failure : Failure) (reported : failure.kind.isReported = true) :
      Ends (some (.error failure)) .failed "" [.noted (.runFailed failure)]
  | cancelled (failure : Failure) (cancelled : failure.kind = .cancelled) :
      Ends (some (.error failure)) .cancelled "" [.noted .runCancelled]
  | broken (failure : Failure) (unreported : failure.kind.isReported = false)
      (other : failure.IsOther) : Ends (some (.error failure)) (.broken failure) "" []
  | unprinted (points : List Point) (unwritable : printed? points = none) :
      Ends (some (.ok points)) (.broken .unwritable) "" []

section Ends
variable {result : Option (Except Failure (List Point))} {exit : Exit} {output : String}
  {last : Trace}

private theorem ending_ends (result : Option (Except Failure (List Point))) :
    Ends result (ending result).1 (ending result).2.1 (ending result).2.2 := by
  cases result with
  | none => exact .endless
  | some result =>
    cases result with
    | ok points =>
      rw [ending]
      split
      · rename_i printed
        exact .done points printed
      · rename_i unwritable
        exact .unprinted points unwritable
    | error failure =>
      rw [ending]
      split
      · rename_i reported
        exact .failed failure reported
      · rename_i unreported
        split
        · rename_i cancelled
          exact .cancelled failure cancelled
        · rename_i other
          exact .broken failure (by simpa using unreported) other

private theorem Ends.failed_iff (ends : Ends result exit output last) : exit = .failed ↔
    ∃ failure, result = some (.error failure) ∧ failure.kind.isReported = true := by
  cases ends with
  | endless => simp
  | done points => simp
  | unprinted points => simp
  | failed failure reported => simpa using reported
  | cancelled failure cancelled => simp [cancelled,Failure.Kind.isReported]
  | broken failure unreported => simp [unreported]

private theorem Ends.cancelled_iff (ends : Ends result exit output last) : exit = .cancelled ↔
    ∃ failure, result = some (.error failure) ∧ failure.kind = .cancelled := by
  cases ends with
  | endless => simp
  | done points => simp
  | unprinted points => simp
  | cancelled failure cancelled => simpa using cancelled
  | broken failure _ other =>
    rw [Failure.IsOther] at other
    simpa using other
  | failed failure reported =>
    have other : failure.kind ≠ .cancelled := by
      intro cancelled
      simp [cancelled,Failure.Kind.isReported] at reported
    simpa using other

private theorem Ends.of_done (ends : Ends result .done output last) :
    ∃ points, result = some (.ok points) ∧ printed? points = some output := by
  cases ends with
  | done points printed => exact ⟨points,rfl,printed⟩

private theorem Ends.done_of_printed {points : List Point} {text : String}
    (ends : Ends (some (.ok points)) exit output last) (printed : printed? points = some text) :
    exit = .done := by
  cases ends with
  | done => rfl
  | unprinted _ unwritable => cases printed.symm.trans unwritable

private theorem Ends.not_early (ends : Ends result exit output last) :
    exit ≠ .help ∧ exit ≠ .noToken := by
  cases ends <;> simp

private theorem Ends.queries (ends : Ends result exit output last) : last.queries = [] := by
  cases ends <;> rfl

private theorem Ends.printed_iff (ends : Ends result exit output last) :
    output ≠ "" ↔ exit = .done := by
  cases ends with
  | done points printed =>
    obtain ⟨text,_,rfl⟩ := Option.map_eq_some_iff.mp printed
    simp
  | _ => simp

end Ends

/-- How a run comes to its end: before its request, or with it. -/
inductive Way (env : Environment) (arguments : List String) (exchange : Query → Http.Exchange) :
    Exit → String → Trace → Prop
  | help (read : CommandLine.read arguments = .error .help) : Way env arguments exchange .help "" []
  | misuse (m : CommandLine.Misuse) : Way env arguments exchange (.misuse m) "" []
  | broken (failure : Failure) : Way env arguments exchange (.broken failure) "" []
  | noToken (c : CommandLine) (s : Settings) (accepts : Accepts env arguments c s)
      (token : s.token = "") : Way env arguments exchange .noToken "" []
  | served (c : CommandLine) (s : Settings) (client : Client)
      (serves : Serves env arguments c s client) (exit : Exit) (output : String) (last : Trace)
      (ends : Ends (request s client exchange c).result exit output last) :
      Way env arguments exchange exit output ((request s client exchange c).trace ++ last)

theorem run_way (env : Environment) (arguments : List String) (exchange : Query → Http.Exchange) :
    Way env arguments exchange (run env arguments exchange).exit
      (run env arguments exchange).output (run env arguments exchange).trace := by
  cases read : CommandLine.read arguments with
  | error stop =>
    rw [run,read]
    cases stop with
    | help => exact .help read
    | misuse m => exact .misuse m
  | ok c =>
    cases settings : CommandLine.settings env c.options with
    | error fault =>
      rw [run,read]
      simp only [settings]
      exact .broken _
    | ok s =>
      rw [run,read]
      simp only [settings,serve]
      cases level : s.level with
      | void => exact .broken _
      | value level =>
        have accepts : Accepts env arguments c s := ⟨read,settings,_,level⟩
        dsimp only
        split
        · rename_i disabled
          exact .noToken c s accepts (by simpa [Settings.isEnabled] using disabled)
        · rename_i enabled
          split
          · exact .broken _
          · rename_i client made
            have serves : Serves env arguments c s client :=
              ⟨accepts,by simpa [Settings.isEnabled] using enabled,made⟩
            exact .served c s client serves _ _ _ (ending_ends _)

private theorem run_of_accepts (exchange : Query → Http.Exchange)
    (accepts : Accepts env arguments c s) : run env arguments exchange = serve s c exchange := by
  rw [run,accepts.read]
  simp only [accepts.settings]

private theorem run_of_noToken (exchange : Query → Http.Exchange)
    (accepts : Accepts env arguments c s) (token : s.token = "") :
    (run env arguments exchange).exit = .noToken := by
  obtain ⟨level,same⟩ := accepts.level
  simp [run_of_accepts exchange accepts,serve,same,Settings.isEnabled,token,early]

private theorem run_of_serves (exchange : Query → Http.Exchange)
    (serves : Serves env arguments c s client) :
    ∃ output last, Ends (request s client exchange c).result (run env arguments exchange).exit
      output last := by
  obtain ⟨level,same⟩ := serves.level
  have enabled : s.isEnabled = true := by simpa [Settings.isEnabled] using serves.token
  rw [run_of_accepts exchange serves.toAccepts,serve]
  simp only [same,enabled,serves.client,Bool.not_true,Bool.false_eq_true,if_false]
  exact ⟨_,_,ending_ends _⟩

/-- How a run that does not ask for help ends: what it prints, and what its exit says of the
request. -/
structure IsOutcome (env : Environment) (arguments : List String)
    (exchange : Query → Http.Exchange) (exit : Exit) (output : String) (trace : Trace) : Prop where
  helpless : exit ≠ .help
  printed : output ≠ "" ↔ exit = .done
  answered : exit = .done → ∃ c s client plan answers, Serves env arguments c s client ∧
    Program.plan c = .ok plan ∧
    List.Forall₂ (fun q rows => (client.layer exchange q).ending = .answer rows) plan.queries
      answers ∧
    printed? (pointsOf c plan answers) = some output ∧
    ∀ p ∈ pointsOf c plan answers, ∀ entry ∈ p.resources, ∀ row ∈ entry.2,
      ∀ x, row.change = some x → x.isFinite = true
  completed : (∃ c s client points, Serves env arguments c s client ∧
    (request s client exchange c).result = some (.ok points)) → exit = .done
  failed : exit = .failed ↔ ∃ c s client failure, Serves env arguments c s client ∧
    (request s client exchange c).result = some (.error failure) ∧ failure.kind.isReported = true
  cancelled : exit = .cancelled ↔ ∃ c s client failure, Serves env arguments c s client ∧
    (request s client exchange c).result = some (.error failure) ∧ failure.kind = .cancelled
  signalled : exit = .cancelled → ∃ q ∈ trace.queries, (exchange q).ending = .signal
  interrupted : ∀ q ∈ trace.queries, (exchange q).ending = .signal →
    exit = .cancelled ∨ exit = .failed ∨ ∃ failure, exit = .broken failure
  noToken : exit = .noToken ↔ ∃ c s, Accepts env arguments c s ∧ s.token = ""
  unsent : exit = .noToken → trace = []

private theorem mem_zipWith_answered {selections : List Selection} {answers : List (List Row)}
    {a : Answered} (member : a ∈ selections.zipWith Answered.mk answers) : a.rows ∈ answers := by
  induction selections generalizing answers with
  | nil => simp at member
  | cons selection selections ih =>
    cases answers with
    | nil => simp at member
    | cons rows answers =>
      rcases List.mem_cons.mp member with rfl | later
      · exact List.mem_cons_self
      · exact List.mem_cons_of_mem _ (ih later)

section Points
variable {plan : Plan} {answers : List (List Row)}
  (decoded : List.Forall₂ (fun q rows => (client.layer exchange q).ending = .answer rows)
    plan.queries answers)

include decoded

private theorem row_answered {p : Point} (member : p ∈ pointsOf c plan answers)
    {entry : Resource × List Row} (held : entry ∈ p.resources) {row : Row} (inside : row ∈ entry.2) :
    ∃ q rows, (client.layer exchange q).ending = .answer rows ∧ row ∈ rows := by
  obtain ⟨a,answer,listed⟩ := Timeline.row_of_points member held inside
  obtain ⟨q,_,answered⟩ := forall₂_right decoded a.rows (mem_zipWith_answered answer)
  exact ⟨q,a.rows,answered,listed⟩

private theorem pointsOf_finite :
    ∀ p ∈ pointsOf c plan answers, ∀ entry ∈ p.resources, ∀ row ∈ entry.2,
      ∀ x, row.change = some x → x.isFinite = true := by
  intro p member entry held row inside
  obtain ⟨q,rows,answered,listed⟩ := row_answered decoded member held inside
  exact (Client.layer_answer answered row listed).change

private theorem pointsOf_printed : ∃ output, printed? (pointsOf c plan answers) = some output := by
  have writable : (Json.list ((pointsOf c plan answers).map Point.toJson)).isWritable = true := by
    rw [Json.isWritable_list,List.all_map,List.all_eq_true]
    refine fun p member => Point.toJson_isWritable fun entry held row inside => ?_
    obtain ⟨q,rows,answered,listed⟩ := row_answered decoded member held inside
    exact Client.layer_answer_isWritable answered row listed
  rw [printed?,Json.written?,if_pos writable]
  exact ⟨_,rfl⟩

end Points

private theorem queries_append (first last : Trace) :
    (first ++ last).queries = first.queries ++ last.queries := List.filterMap_append

section Way
variable {exit : Exit} {output : String} {trace : Trace}

private theorem Way.printed_iff (way : Way env arguments exchange exit output trace) :
    output ≠ "" ↔ exit = .done := by
  cases way with
  | served _ _ _ _ _ _ _ ends => exact ends.printed_iff
  | _ => simp

private theorem Way.of_done (way : Way env arguments exchange .done output trace) :
    ∃ c s client plan answers, Serves env arguments c s client ∧ Program.plan c = .ok plan ∧
      List.Forall₂ (fun q rows => (client.layer exchange q).ending = .answer rows) plan.queries
        answers ∧ printed? (pointsOf c plan answers) = some output := by
  cases way with
  | served c s client serves _ _ _ ends =>
    obtain ⟨points,ended,printed⟩ := ends.of_done
    obtain ⟨plan,answers,planned,decoded,rfl⟩ := course_points ended
    exact ⟨c,s,client,plan,answers,serves,planned,decoded,printed⟩

private theorem Way.of_failed (way : Way env arguments exchange .failed output trace) :
    ∃ c s client failure, Serves env arguments c s client ∧
      (request s client exchange c).result = some (.error failure) ∧
      failure.kind.isReported = true := by
  cases way with
  | served c s client serves _ _ _ ends =>
    obtain ⟨failure,ended,reported⟩ := ends.failed_iff.mp rfl
    exact ⟨c,s,client,failure,serves,ended,reported⟩

/-- Neither the plan nor the layer fails as if it were cancelled, so a run is cancelled only if there
was a signal. -/
private theorem Way.of_cancelled (way : Way env arguments exchange .cancelled output trace) :
    (∃ c s client failure, Serves env arguments c s client ∧
      (request s client exchange c).result = some (.error failure) ∧ failure.kind = .cancelled) ∧
    ∃ q ∈ trace.queries, (exchange q).ending = .signal := by
  cases way with
  | served c s client serves _ _ _ ends =>
    obtain ⟨failure,ended,cancelled⟩ := ends.cancelled_iff.mp rfl
    refine ⟨⟨c,s,client,failure,serves,ended,cancelled⟩,?_⟩
    obtain ⟨q,sent,left⟩ := course_cancelled (fun _ _ => Client.layer_failure) ended cancelled
    refine ⟨q,?_,Client.exchange_of_signal left⟩
    rw [queries_append]
    exact List.mem_append_left _ sent

private theorem Way.of_signal (way : Way env arguments exchange exit output trace) {q : Query}
    (sent : q ∈ trace.queries) (came : (exchange q).ending = .signal) :
    exit = .cancelled ∨ exit = .failed ∨ ∃ failure, exit = .broken failure := by
  cases way with
  | served c s client serves _ _ _ ends =>
    rw [queries_append,ends.queries,List.append_nil] at sent
    have left := Client.layer_of_signal (c := client) came
    have unanswered : ∀ rows, (client.layer exchange q).ending ≠ .answer rows := by
      rcases left with left | ⟨_,left⟩ <;> simp [left]
    have spoken : (client.layer exchange q).ending ≠ .silence := by
      rcases left with left | ⟨_,left⟩ <;> simp [left]
    have failed : ∃ failure, (request s client exchange c).result = some (.error failure) :=
      course_fails sent unanswered spoken
    obtain ⟨failure,ended⟩ := failed
    rw [ended] at ends
    cases ends with
    | failed => exact .inr (.inl rfl)
    | cancelled => exact .inl rfl
    | broken => exact .inr (.inr ⟨failure,rfl⟩)
  | _ => cases sent

private theorem Way.of_noToken (way : Way env arguments exchange .noToken output trace) :
    (∃ c s, Accepts env arguments c s ∧ s.token = "") ∧ trace = [] := by
  cases way with
  | noToken c s accepts token => exact ⟨⟨c,s,accepts,token⟩,rfl⟩
  | served _ _ _ _ _ _ _ ends => exact absurd rfl ends.not_early.2

private theorem Way.asks_of_help (way : Way env arguments exchange .help output trace) :
    CommandLine.read arguments = .error .help := by
  cases way with
  | help read => exact read
  | served _ _ _ _ _ _ _ ends => exact absurd rfl ends.not_early.1

end Way

/-- A run that does not ask for help prints something exactly if its request is answered, and its
exit says whether the request failed, was cancelled or could not be made for want of a token. What is
answered can always be written. -/
theorem run_outcome (asks : CommandLine.read arguments ≠ .error .help) :
    IsOutcome env arguments exchange (run env arguments exchange).exit
      (run env arguments exchange).output (run env arguments exchange).trace := by
  have way := run_way env arguments exchange
  constructor
  case helpless =>
    intro exit
    exact asks (Way.asks_of_help (exit ▸ way))
  case printed => exact way.printed_iff
  case answered =>
    intro exit
    rw [exit] at way
    obtain ⟨c,s,client,plan,answers,serves,planned,decoded,printed⟩ := way.of_done
    exact ⟨c,s,client,plan,answers,serves,planned,decoded,printed,pointsOf_finite decoded⟩
  case completed =>
    rintro ⟨c,s,client,points,serves,ended⟩
    obtain ⟨_,_,ends⟩ := run_of_serves exchange serves
    obtain ⟨plan,answers,_,decoded,rfl⟩ := course_points ended
    obtain ⟨output,printed⟩ := pointsOf_printed decoded
    rw [ended] at ends
    exact ends.done_of_printed printed
  case failed =>
    constructor
    · intro exit
      exact Way.of_failed (exit ▸ way)
    · rintro ⟨c,s,client,failure,serves,ended,reported⟩
      obtain ⟨_,_,ends⟩ := run_of_serves exchange serves
      exact ends.failed_iff.mpr ⟨failure,ended,reported⟩
  case cancelled =>
    constructor
    · intro exit
      exact (Way.of_cancelled (exit ▸ way)).1
    · rintro ⟨c,s,client,failure,serves,ended,cancelled⟩
      obtain ⟨_,_,ends⟩ := run_of_serves exchange serves
      exact ends.cancelled_iff.mpr ⟨failure,ended,cancelled⟩
  case signalled =>
    intro exit
    exact (Way.of_cancelled (exit ▸ way)).2
  case interrupted => exact fun q sent came => way.of_signal sent came
  case noToken =>
    constructor
    · intro exit
      exact (Way.of_noToken (exit ▸ way)).1
    · rintro ⟨c,s,accepts,token⟩
      exact run_of_noToken exchange accepts token
  case unsent =>
    intro exit
    exact (Way.of_noToken (exit ▸ way)).2

section Tokenless

def bareEnvironment : Environment := ⟨none,none,none⟩

/-- A command line that counts the mints of a project today. -/
def todaysMints (more : List String) : List String :=
  ["--project-id","p","--interval","today"] ++ more ++ ["\x7b mints \x7b count \x7d \x7d"]

def todaysOptions : Options :=
  { CommandLine.noOptions with project := some (.value "p"), interval := some (.value .today) }

def bareSettings : Settings where
  baseUrl := "http://127.0.0.1:4000"
  token := ""
  layerTimeout := .value (.finite false 5629499534213120 1025)
  requestTimeout := none
  level := .value .info
  form := .value .console

def noAnswer (_ : Query) : Http.Exchange := ⟨0,.silence,.zero⟩

private theorem read_todaysMints : CommandLine.read (todaysMints []) =
    .ok ⟨"\x7b mints \x7b count \x7d \x7d",todaysOptions⟩ := by
  decide

theorem run_outcome_tokenless : CommandLine.read (todaysMints []) ≠ .error .help ∧
    (run bareEnvironment (todaysMints []) noAnswer).exit = .noToken ∧
      (run bareEnvironment (todaysMints []) noAnswer).trace = [] := by
  have asks : CommandLine.read (todaysMints []) ≠ .error .help := by simp [read_todaysMints]
  have accepts : Accepts bareEnvironment (todaysMints []) ⟨_,todaysOptions⟩ bareSettings :=
    ⟨read_todaysMints,by decide +kernel,.info,rfl⟩
  have outcome : IsOutcome bareEnvironment (todaysMints []) noAnswer _ _ _ := run_outcome asks
  have tokenless := outcome.noToken.mpr ⟨_,_,accepts,rfl⟩
  exact ⟨asks,tokenless,outcome.unsent tokenless⟩

/-- A void level is accepted and breaks the run before it misses its token. -/
theorem void_level_breaks :
    ¬((run bareEnvironment (todaysMints ["--log.level=--"]) noAnswer).exit = .noToken ↔
      ∃ c s, CommandLine.read (todaysMints ["--log.level=--"]) = .ok c ∧
        CommandLine.settings bareEnvironment c.options = .ok s ∧ s.token = "") := by
  have read : CommandLine.read (todaysMints ["--log.level=--"]) =
      .ok ⟨"\x7b mints \x7b count \x7d \x7d",{ todaysOptions with level := .void }⟩ := by
    decide
  have settings : CommandLine.settings bareEnvironment { todaysOptions with level := .void } =
      .ok { bareSettings with level := .void } := by
    decide +kernel
  intro claimed
  have tokenless := claimed.mpr ⟨_,_,read,settings,rfl⟩
  rw [run,read] at tokenless
  simp only [settings] at tokenless
  cases tokenless

end Tokenless

end Runs

end ScopedAnalytics.Program
