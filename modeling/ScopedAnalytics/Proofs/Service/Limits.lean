import ScopedAnalytics.Proofs.Selection.Representation
import ScopedAnalytics.Proofs.Service.Checks
import ScopedAnalytics.Proofs.Service.Expiry

/-! Limits that are not positive. Such a limit is found wrong as the first query is made, after
everything else of a request is checked and before any query is sent. A request that asks for nothing
makes no query, and is answered whatever its limit. -/
namespace ScopedAnalytics

section Low
variable {n : Int}

theorem Query.build_of_low (low : n ≤ 0) (s : Selection) (scope : Scope) (window : Window)
    (order : Option SortOrder) : build s scope window order (some n) = .error ⟨n⟩ := by
  rw [build,Option.getD_some,checkLimit,if_pos low]
  rfl

/-- Selections are refused as the first of them is. -/
theorem Query.mapM_build_of_low (low : n ≤ 0) {selections : List Selection} (some : selections ≠ [])
    (scope : Scope) (window : Window) (order : Option SortOrder) :
    (selections.mapM fun s => build s scope window order (.some n)) = .error ⟨n⟩ := by
  obtain ⟨s,rest,rfl⟩ := List.exists_cons_of_ne_nil some
  exact mapM_error.mpr ⟨[],s,rest,rfl,by simp,build_of_low low s scope window order⟩

end Low

theorem Selections.addMeasures_extract_eq_nil_iff {nodes : List Document.Node} {measures : List Measure} :
    addMeasures (extract nodes) measures = [] ↔ Document.mentions nodes = [] ∧ measures = [] := by
  have none (asked : List Resource) : asked.eraseDups = [] ↔ asked = [] := by
    simp only [List.eq_nil_iff_forall_not_mem,List.mem_eraseDups]
  rw [← List.map_eq_nil_iff,addMeasures_resources,none,List.append_eq_nil_iff,List.map_eq_nil_iff,
    List.map_eq_nil_iff]

namespace Request
variable {r : Request} {n : Int}

/-- A request whose document mentions no resource and that brings no measures. -/
structure AsksNothing (r : Request) : Prop where
  document : ∃ nodes, r.Reads nodes ∧ Document.mentions nodes = []
  measures : r.measures = []

theorem AsksNothing.selections (nothing : r.AsksNothing) : r.selections = .ok [] := by
  obtain ⟨nodes,reads,none⟩ := nothing.document
  exact selections_ok_iff.mpr
    ⟨nodes,reads,(Selections.addMeasures_extract_eq_nil_iff.mpr ⟨none,nothing.measures⟩).symm⟩

theorem AsksNothing.plan_queries {plan : Plan} (nothing : r.AsksNothing) (valid : r.plan = .ok plan) :
    plan.queries = [] := by
  obtain ⟨_,selected,_⟩ := plan_spec valid
  have resources := plan_resources valid
  rw [← Except.ok.inj (nothing.selections.symm.trans selected)] at resources
  exact List.map_eq_nil_iff.mp resources

theorem AsksNothing.plan_ok (nothing : r.AsksNothing)
    (fulfils : ∀ check : Check, check ≠ .limit → r.Fulfils check) : ∃ plan, r.plan = .ok plan := by
  refine plan_of_fulfils fun check => ?_
  by_cases last : check = .limit
  · subst last
    intro nodes reads some
    have selected := selections_ok_iff.mpr ⟨nodes,reads,rfl⟩
    exact absurd (Except.ok.inj (selected.symm.trans nothing.selections)) some
  · exact fulfils check last

theorem plan_of_low (given : r.limit = some n) (low : n ≤ 0)
    (fulfils : ∀ check : Check, check ≠ .limit → r.Fulfils check) (some : ¬r.AsksNothing) :
    r.plan = .error (LimitFault.failure ⟨n⟩) := by
  obtain ⟨nodes,reads⟩ := fulfils .selection (by decide)
  obtain ⟨key,text,only⟩ := fulfils .scope (by decide)
  obtain ⟨window,bounded⟩ := Window.resolve_ok_iff.mpr (fulfils .window (by decide))
  have selected := selections_ok_iff.mpr ⟨nodes,reads,rfl⟩
  have narrowed : Scope.resolve r.scope = .ok ⟨text,key⟩ := Scope.resolve_ok_iff.mpr only
  have filled : Selections.addMeasures (Selections.extract nodes) r.measures ≠ [] := by
    intro void
    obtain ⟨none,measures⟩ := Selections.addMeasures_extract_eq_nil_iff.mp void
    exact some ⟨⟨nodes,reads,none⟩,measures⟩
  rw [plan_eq selected narrowed bounded,given,Query.mapM_build_of_low low filled]
  rfl

theorem fulfils_or_failsBefore (r : Request) :
    (∀ check : Check, check ≠ .limit → r.Fulfils check) ∨
      ∃ check : Check, check ≠ .limit ∧ r.FailsFirst check := by
  -- Whatever fails the limit first has passed all other checks.
  have last (check : Check) (other : check ≠ .limit) : check.rank < Check.limit.rank := by
    cases check <;> first | decide | exact absurd rfl other
  rcases r.fulfils_or_failsFirst with fulfils | ⟨check,first⟩
  · exact .inl fun check _ => fulfils check
  · by_cases limit : check = .limit
    · subst limit
      exact .inl fun check other => first.before check (last check other)
    · exact .inr ⟨check,limit,first⟩

end Request

namespace Service
variable {deadline : Option Quantity} {layer : Layer} {interruption : Interruption} {r : Request}
  {n : Int}

private theorem analytics_of_error {f : Failure} (begins : interruption.leaving ≠ some 0)
    (refused : r.plan = .error f) : analytics deadline layer interruption r = failed f := by
  rw [analytics,if_neg begins,refused]

private theorem queries_of_nothing {plan : Plan} (begins : interruption.leaving ≠ some 0)
    (valid : r.plan = .ok plan) (void : plan.queries = []) :
    (analytics deadline layer interruption r).trace.queries = [] := by
  have sent := (Dispatch.run_recorded deadline interruption layer plan.queries).sent_subperm
  rw [void] at sent
  rw [analytics_of_plan valid begins,(execute_trace deadline layer interruption _ plan).1,dispatch,void]
  exact List.subperm_nil.mp sent

/-- What a limit that is not positive does. No query is sent. A request that fails another check fails
as that one says, and any other is refused for its limit, with nothing but that failure seen of it,
unless it asks for nothing. Then there is no query to limit, and it is answered with one empty point. A
limit of too many digits cannot be told, and the request fails for that, with nothing seen of it. -/
theorem limits_decide (begins : interruption.leaving ≠ some 0) (given : r.limit = some n) (low : n ≤ 0) :
    let course := analytics deadline layer interruption r
    course.trace.queries = [] ∧
      ((∀ check : Check, check ≠ .limit → r.Fulfils check) ∨
        ∃ check : Check, check ≠ .limit ∧ r.FailsFirst check) ∧
      (∀ check : Check, check ≠ .limit → r.FailsFirst check →
        ∃ message, course = failed ⟨check.kind,message⟩) ∧
      ((∀ check : Check, check ≠ .limit → r.Fulfils check) →
        (¬r.AsksNothing → Numeral.isWritable n = true →
          course = failed ⟨.invalidRequest,("limit must be positive, got " ++ toString n : String)⟩) ∧
        (¬r.AsksNothing → Numeral.isWritable n = false →
          course.result = some (.error .unwritable) ∧ course.trace = []) ∧
        (r.AsksNothing → course.result = some (.ok [Point.blank none]))) := by
  intro course
  have failing (check : Check) (other : check ≠ .limit) (first : r.FailsFirst check) :
      ∃ message, course = failed ⟨check.kind,message⟩ := by
    obtain ⟨message,refused⟩ := Request.plan_of_failsFirst first (Request.tells_of_ne other)
    exact ⟨message,analytics_of_error begins refused⟩
  have refusing (fulfils : ∀ check : Check, check ≠ .limit → r.Fulfils check)
      (some : ¬r.AsksNothing) : course = failed (LimitFault.failure ⟨n⟩) :=
    analytics_of_error begins (Request.plan_of_low given low fulfils some)
  refine ⟨?_,r.fulfils_or_failsBefore,failing,
    fun fulfils => ⟨fun some writable => ?_,fun some unwritable => ?_,fun nothing => ?_⟩⟩
  · rcases r.fulfils_or_failsBefore with fulfils | ⟨check,other,first⟩
    · by_cases nothing : r.AsksNothing
      · obtain ⟨plan,valid⟩ := nothing.plan_ok fulfils
        exact queries_of_nothing begins valid (nothing.plan_queries valid)
      · rw [refusing fulfils nothing]
        exact failed_queries _
    · obtain ⟨message,same⟩ := failing check other first
      rw [same]
      exact failed_queries _
  · rw [refusing fulfils some,LimitFault.failure_of_isWritable writable]
  · rw [refusing fulfils some,LimitFault.failure_of_unwritable unwritable]
    exact ⟨rfl,rfl⟩
  · obtain ⟨plan,valid⟩ := nothing.plan_ok fulfils
    exact analytics_of_void begins valid (nothing.plan_queries valid)

section Example

/-- A request of a text that mentions no resource, with a limit of zero. -/
def idleText : Request :=
  { idle with selection := .inl "\x7b nothing \x7b count \x7d \x7d",limit := some 0 }

private theorem idleText_reads : ∃ nodes, idleText.Reads nodes ∧ Document.mentions nodes = [] := by
  let nodes : List Document.Node := [.field none "nothing" [] [] (some [.field none "count" [] [] none])]
  have read : Document.read "\x7b nothing \x7b count \x7d \x7d" = .ok [.operation .query none nodes] := by
    decide +kernel
  exact ⟨nodes,⟨_,read,rfl⟩,rfl⟩

/-- A limit of zero is refused for three resources and not for none, and one that cannot be told leaves
no trace. -/
theorem limits_decide_trio :
    analytics none unevenLayer .none { trio with limit := some 0 } =
        failed ⟨.invalidRequest,"limit must be positive, got 0"⟩ ∧
      (analytics none unevenLayer .none vast).trace = [] ∧
      (analytics none unevenLayer .none idleText).trace.queries = [] ∧
      (analytics none unevenLayer .none idleText).result = some (.ok [Point.blank none]) := by
  have begins : Interruption.none.leaving ≠ some 0 := by decide
  obtain ⟨_,_,_,refuses⟩ := @limits_decide none unevenLayer .none { trio with limit := some 0 } 0
    begins rfl (by decide)
  obtain ⟨_,_,_,breaks⟩ := @limits_decide none unevenLayer .none vast _
    begins rfl (Int.neg_nonpos_of_nonneg (Int.natCast_nonneg _))
  obtain ⟨unsent,_,_,answers⟩ := @limits_decide none unevenLayer .none idleText 0
    begins rfl (by decide)
  have some (limit : Option Int) : ¬({ trio with limit } : Request).AsksNothing := by
    intro nothing
    cases nothing.measures
  have untold : Numeral.isWritable (-(10 ^ Numeral.digitLimit : Nat)) = false := by
    rw [Numeral.isWritable_eq_false_iff,Int.natAbs_neg,Int.natAbs_natCast]
  obtain ⟨nodes,reads,none⟩ := idleText_reads
  exact ⟨(refuses (fulfils_of_trio rfl rfl ⟨[],rfl⟩)).1 (some _) (by decide),
    ((breaks (fulfils_of_trio rfl rfl ⟨[],rfl⟩)).2.1 (some _) untold).2,unsent,
    (answers (fulfils_of_trio rfl rfl ⟨nodes,reads⟩)).2.2 ⟨⟨nodes,reads,none⟩,rfl⟩⟩

/-- A limit of zero of a request that is found good otherwise, and is not refused. -/
theorem idleText_answered : idleText.limit = some 0 ∧
    (∀ check : Check, check ≠ .limit → idleText.Fulfils check) ∧
    (analytics none unevenLayer .none idleText).result = some (.ok [Point.blank none]) := by
  obtain ⟨nodes,reads,_⟩ := idleText_reads
  exact ⟨rfl,fulfils_of_trio rfl rfl ⟨nodes,reads⟩,by decide +kernel⟩

end Example
end Service
end ScopedAnalytics
