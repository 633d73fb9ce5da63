import ScopedAnalytics.Proofs.Except
import ScopedAnalytics.Proofs.Numeral.Writing
import ScopedAnalytics.Proofs.Selection.Requested
import ScopedAnalytics.Service

/-! What the plan of a request that is found good is made of: one query for each selection, in
their order, and one selection for each resource. -/
namespace ScopedAnalytics

theorem Selections.readNodes_ok_iff {text : String} {nodes : List Document.Node} :
    readNodes text = .ok nodes ↔ ∃ definitions, Document.read text = .ok definitions ∧
      Document.firstOperation? definitions = some nodes := by
  unfold readNodes
  cases Document.read text with
  | error fault => simp
  | ok definitions => cases first : Document.firstOperation? definitions <;> simp [first]

namespace LimitFault
variable {f : LimitFault}

theorem failure_of_isWritable (writable : Numeral.isWritable f.limit = true) :
    f.failure = ⟨.invalidRequest,("limit must be positive, got " ++ toString f.limit : String)⟩ := by
  rw [failure,message?,Numeral.written?_of_isWritable writable]
  rfl

theorem failure_of_unwritable (unwritable : Numeral.isWritable f.limit = false) :
    f.failure = .unwritable := by
  rw [failure,message?,Numeral.written?,unwritable]
  rfl

theorem failure_kind (f : LimitFault) :
    f.failure.kind = .invalidRequest ∨ f.failure.kind = .invalidValue := by
  unfold failure
  split
  · exact .inl rfl
  · exact .inr rfl

end LimitFault

theorem Query.build_ok_iff {s : Selection} {scope : Scope} {window : Window}
    {order : Option SortOrder} {limit : Option Int} {q : Query} :
    build s scope window order limit = .ok q ↔ (∀ n, limit = some n → 0 < n) ∧ q = {
      resource := s.resource
      measures := s.measures.map Measure.text
      dimensions := s.dimensions
      timeDimension := {
        dimension := s.resource.member "timestamp"
        granularity := if s.hasTimestamp then some window.granularity else none
        dateRange := window.dateRange }
      filters := [⟨s.resource.member scope.key.name,"equals",[scope.id]⟩]
      order := (s.resource.member "timestamp",order.getD defaultOrder)
      limit := limit.getD defaultLimit } := by
  have positive : (∀ n, limit = some n → 0 < n) ↔ 0 < limit.getD defaultLimit := by
    cases limit with
    | none => simp [defaultLimit]
    | some n => simp
  rw [positive]
  constructor
  · intro built
    obtain ⟨n,checked,built⟩ := except_bind_ok built
    unfold checkLimit at checked
    split at checked
    · cases checked
    · rename_i above
      obtain rfl := Except.ok.inj checked
      exact ⟨by omega,(Except.ok.inj built).symm⟩
  · rintro ⟨above,rfl⟩
    rw [build,checkLimit,if_neg (by omega)]
    rfl

theorem Query.build_error {s : Selection} {scope : Scope} {window : Window}
    {order : Option SortOrder} {limit : Option Int} {fault : LimitFault}
    (refused : build s scope window order limit = .error fault) : limit = some fault.limit := by
  rcases except_bind_error.mp refused with checked | ⟨_,_,impossible⟩
  · unfold checkLimit at checked
    split at checked
    · rename_i low
      obtain rfl := Except.error.inj checked
      cases limit with
      | none => cases low
      | some n => rfl
    · cases checked
  · cases impossible

namespace Scope

/-- One of the identifiers has a text, which is this, and the others have none. -/
structure Given.IsOnly (given : Given) (key : ScopeKey) (text : String) : Prop where
  held : ∃ id, given.ofKey key = some id ∧ id.shown = text
  shown : text ≠ ""
  others : ∀ other, other ≠ key → ∀ id, given.ofKey other = some id → id.shown = ""

private theorem candidate?_eq_some {id : Option Identifier} {key : ScopeKey} {scope : Scope} :
    candidate? id key = some scope ↔
      scope.key = key ∧ scope.id ≠ "" ∧ ∃ i, id = some i ∧ i.shown = scope.id := by
  obtain ⟨text,own⟩ := scope
  unfold candidate?
  constructor
  · intro found
    split at found
    · cases found
    · rename_i i
      split at found
      · cases found
      · rename_i shown
        obtain ⟨rfl,rfl⟩ := Scope.mk.inj (Option.some.inj found)
        exact ⟨rfl,shown,i,rfl,rfl⟩
  · rintro ⟨rfl,shown,i,rfl,rfl⟩
    exact if_neg shown

private theorem candidate?_eq_none {id : Option Identifier} {key : ScopeKey} :
    candidate? id key = none ↔ ∀ i, id = some i → i.shown = "" := by
  cases id with
  | none => simp [candidate?]
  | some i => by_cases void : i.shown = "" <;> simp [candidate?,void]

private theorem candidates_eq_singleton (candidate : ScopeKey → Option Scope)
    (keyed : ∀ key found, candidate key = some found → found.key = key) (scope : Scope) :
    (candidate .organization).toList ++ (candidate .project).toList ++
        (candidate .collection).toList = [scope] ↔
      candidate scope.key = some scope ∧ ∀ other, other ≠ scope.key → candidate other = none := by
  constructor
  · intro single
    -- Whatever is found under any key is on the list, and so it is the one scope.
    have listed (key : ScopeKey) (found : Scope) (held : candidate key = some found) :
        found = scope := by
      have member : found ∈ [scope] := by
        rw [← single]
        cases key <;> simp [held]
      exact List.mem_singleton.mp member
    have present : ∃ key, candidate key = some scope := by
      have member : scope ∈ [scope] := List.mem_singleton_self scope
      rw [← single,List.mem_append,List.mem_append,Option.mem_toList,Option.mem_toList,
        Option.mem_toList] at member
      rcases member with (held | held) | held
      · exact ⟨_,held⟩
      · exact ⟨_,held⟩
      · exact ⟨_,held⟩
    obtain ⟨key,held⟩ := present
    obtain rfl := keyed key scope held
    refine ⟨held,fun other different => ?_⟩
    cases another : candidate other with
    | none => rfl
    | some found =>
      obtain rfl := listed other found another
      exact absurd (keyed other found another).symm different
  · rintro ⟨held,none⟩
    cases kind : scope.key with
    | organization =>
      rw [kind] at held none
      rw [held,none .project (by simp),none .collection (by simp)]
      rfl
    | project =>
      rw [kind] at held none
      rw [held,none .organization (by simp),none .collection (by simp)]
      rfl
    | collection =>
      rw [kind] at held none
      rw [held,none .organization (by simp),none .project (by simp)]
      rfl

/-- Identifiers make up a scope if exactly one of them has a text. -/
theorem resolve_ok_iff {given : Given} {scope : Scope} :
    resolve given = .ok scope ↔ given.IsOnly scope.key scope.id := by
  have single : resolve given = .ok scope ↔ given.candidates = [scope] := by
    unfold resolve
    constructor
    · intro ok
      split at ok
      · rename_i single
        rw [single,Except.ok.inj ok]
      · cases ok
    · intro single
      rw [single]
  have only : given.IsOnly scope.key scope.id ↔
      candidate? (given.ofKey scope.key) scope.key = some scope ∧
        ∀ other, other ≠ scope.key → candidate? (given.ofKey other) other = none := by
    simp only [candidate?_eq_some,candidate?_eq_none,true_and]
    exact ⟨fun is => ⟨⟨is.shown,is.held⟩,is.others⟩,fun is => ⟨is.1.2,is.1.1,is.2⟩⟩
  rw [single,only]
  exact candidates_eq_singleton (fun key => candidate? (given.ofKey key) key)
    (fun key found held => (candidate?_eq_some.mp held).1) scope

end Scope

namespace Window

/-- What is given of a window is two dates in order and no interval, or an interval and no date. -/
def Given.IsComplete (given : Given) : Prop :=
  (∃ start finish, given.start = some start ∧ given.finish = some finish ∧
      given.interval = none ∧ start ≤ finish) ∨
    given.start = none ∧ given.finish = none ∧ given.interval.isSome = true

theorem resolve_ok_iff {given : Given} :
    (∃ window, resolve given = .ok window) ↔ given.IsComplete := by
  unfold resolve Given.IsComplete
  cases start : given.start with
  | none => cases given.finish <;> cases given.interval <;> simp
  | some first =>
    cases finish : given.finish with
    | none => simp
    | some last =>
      cases given.interval with
      | some interval => simp
      | none =>
        have order : last < first ↔ ¬first ≤ last := Nat.not_le.symm
        by_cases reversed : last < first
        · simp [reversed,order.mp reversed]
        · simp [reversed,Classical.not_not.mp (order.not.mp reversed)]

end Window

namespace Request
variable {r : Request} {plan : Plan}

/-- What a request selects: the given nodes, or those of the first operation of its text. -/
def Reads (r : Request) (nodes : List Document.Node) : Prop :=
  match r.selection with
  | .inl text => ∃ definitions, Document.read text = .ok definitions ∧
      Document.firstOperation? definitions = some nodes
  | .inr given => given = nodes

theorem selections_ok_iff {selections : List Selection} : r.selections = .ok selections ↔
    ∃ nodes, r.Reads nodes ∧
      selections = Selections.addMeasures (Selections.extract nodes) r.measures := by
  unfold Request.selections Reads
  cases r.selection with
  | inr given =>
    constructor
    · exact fun selected => ⟨given,rfl,(Except.ok.inj selected).symm⟩
    · rintro ⟨nodes,rfl,rfl⟩
      rfl
  | inl text =>
    constructor
    · intro selected
      obtain ⟨nodes,read,selected⟩ := except_bind_ok selected
      exact ⟨nodes,Selections.readNodes_ok_iff.mp (mapError_ok read),(Except.ok.inj selected).symm⟩
    · rintro ⟨nodes,read,rfl⟩
      dsimp only
      rw [Selections.readNodes_ok_iff.mpr read]
      rfl

/-- The selections, the scope and the queries of a plan come from its request. -/
theorem plan_spec (valid : r.plan = .ok plan) : ∃ window, r.selections = .ok plan.selections ∧
    Scope.resolve r.scope = .ok plan.scope ∧ Window.resolve r.window = .ok window ∧
    plan.granularity = window.granularity ∧
    List.Forall₂ (fun s q => Query.build s plan.scope window r.order r.limit = .ok q)
      plan.selections plan.queries := by
  unfold Request.plan at valid
  obtain ⟨selections,selected,valid⟩ := except_bind_ok valid
  obtain ⟨scope,narrowed,valid⟩ := except_bind_ok valid
  obtain ⟨window,bounded,valid⟩ := except_bind_ok valid
  obtain ⟨queries,built,valid⟩ := except_bind_ok valid
  obtain rfl := Except.ok.inj valid
  exact ⟨window,selected,mapError_ok narrowed,mapError_ok bounded,rfl,
    mapM_forall₂ (mapError_ok built)⟩

private theorem build_spec {s : Selection} {scope : Scope} {window : Window}
    {order : Option SortOrder} {limit : Option Int} {q : Query}
    (built : Query.build s scope window order limit = .ok q) :
    q.resource = s.resource ∧ q.order.2 = order.getD Query.defaultOrder := by
  obtain ⟨_,rfl⟩ := Query.build_ok_iff.mp built
  exact ⟨rfl,rfl⟩

theorem plan_resources (valid : r.plan = .ok plan) :
    plan.queries.map (·.resource) = plan.selections.map (·.resource) := by
  obtain ⟨window,_,_,_,_,built⟩ := plan_spec valid
  generalize plan.selections = selections at built ⊢
  generalize plan.queries = queries at built ⊢
  induction built with
  | nil => rfl
  | cons here _ ih => rw [List.map_cons,List.map_cons,(build_spec here).1,ih]

theorem plan_order (valid : r.plan = .ok plan) :
    ∀ q ∈ plan.queries, q.order.2 = r.order.getD Query.defaultOrder := by
  obtain ⟨window,_,_,_,_,built⟩ := plan_spec valid
  intro q member
  obtain ⟨_,_,here⟩ := forall₂_right built q member
  exact (build_spec here).2

theorem plan_distinct (valid : r.plan = .ok plan) :
    (plan.selections.map (·.resource)).Nodup := by
  obtain ⟨_,selected,_⟩ := plan_spec valid
  obtain ⟨nodes,_,same⟩ := selections_ok_iff.mp selected
  rw [same]
  exact Selections.addMeasures_distinct nodes r.measures

end Request
end ScopedAnalytics
