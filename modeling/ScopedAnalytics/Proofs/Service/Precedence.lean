import ScopedAnalytics.Proofs.Dispatch.Precedence
import ScopedAnalytics.Proofs.Service.Settlement

/-! Which failure a request ends with if several of its queries fail. Neither what comes of the other
queries nor when that is known makes a difference to it. -/
namespace ScopedAnalytics.Service
open Dispatch

variable {deadline : Option Quantity} {passing : Option Nat} {layer : Layer} {r : Request}
  {plan : Plan} {place rounds : Nat} {failure : Failure}

/-- A failure of the layer is passed on as it is, but for a timeout. -/
theorem failureOf_spec (deadline : Option Quantity) (failure : Failure) :
    (failure.kind = .timeout → failureOf deadline failure = expiry deadline) ∧
    (failure.kind ≠ .timeout → failureOf deadline failure = failure) := by
  constructor
  · intro late
    simp only [failureOf,late]
  · intro other
    unfold failureOf
    split
    · exact absurd ‹_› other
    · rfl

private theorem analytics_of_firstFailure (valid : r.plan = .ok plan)
    (ahead : isAhead deadline = true)
    (unsignalled : ∀ q ∈ plan.queries, (layer q).ending ≠ .signal)
    (first : FirstFailure layer plan.queries place rounds failure)
    (timely : (timerFor passing deadline).covers rounds = true) :
    (analytics deadline layer ⟨none,passing⟩ r).result =
      some (.error (failureOf deadline failure)) := by
  have outcome : (dispatch deadline layer ⟨none,passing⟩ plan).outcome = some (.error failure) :=
    outcome_eq_some.mpr (run_firstFailure ahead unsignalled first timely)
  rw [analytics_of_plan valid (by simp),execute,outcome]
  rfl

/-- A request that is found good, whose caller stays and one of whose queries fails, fails with the
failure of the query that fails in the earliest round and, of those, is for the first selection, if
its deadline leaves that the rounds. Any other layer of which that failure is the first has it fail in
the same way, whatever comes of the other queries and whenever the deadline passes after it. -/
theorem first_failure_decides (valid : r.plan = .ok plan) (ahead : isAhead deadline = true)
    (unsignalled : ∀ q ∈ plan.queries, (layer q).ending ≠ .signal)
    (fails : ∃ q ∈ plan.queries, ∃ failure, (layer q).ending = .failure failure) :
    plan.queries.map (·.resource) = plan.selections.map (·.resource) ∧
      (∃ place rounds failure, FirstFailure layer plan.queries place rounds failure) ∧
      ∀ place rounds failure passing, FirstFailure layer plan.queries place rounds failure →
        (timerFor passing deadline).covers rounds = true →
        let result := (analytics deadline layer ⟨none,passing⟩ r).result
        (failure.kind = .timeout → result = some (.error (expiry deadline)) ∧
          (expiry deadline).kind = .layer none) ∧
        (failure.kind ≠ .timeout → result = some (.error failure)) ∧
        ∀ other passing', (∀ q ∈ plan.queries, (other q).ending ≠ .signal) →
          FirstFailure other plan.queries place rounds failure →
          (timerFor passing' deadline).covers rounds = true →
          (analytics deadline other ⟨none,passing'⟩ r).result = result := by
  refine ⟨Request.plan_resources valid,?_,?_⟩
  · obtain ⟨q,asked,failure,ending⟩ := fails
    obtain ⟨place,found⟩ := List.getElem?_of_mem asked
    exact exists_firstFailure ⟨q,found,rfl,ending⟩
  · intro place rounds failure passing first timely result
    have failed : result = some (.error (failureOf deadline failure)) :=
      analytics_of_firstFailure valid ahead unsignalled first timely
    obtain ⟨late,other⟩ := failureOf_spec deadline failure
    refine ⟨fun kind => ?_,fun kind => ?_,fun another passing' unsignalled' first' timely' => ?_⟩
    · exact ⟨by rw [failed,late kind],expiry_of_ahead ahead⟩
    · rw [failed,other kind]
    · rw [failed,analytics_of_firstFailure valid ahead unsignalled' first' timely']

/-- A layer that fails one query after two rounds and another one after one, as late, and does with
the rest as it likes. -/
def brittleLayer (rest : Ending (List Row)) : Layer := fun query =>
  match query.resource with
  | .mints => ⟨[],2,.failure ⟨.layer (some 503),"down"⟩,[],.zero⟩
  | .customers => ⟨[],1,.failure ⟨.timeout,"slow"⟩,[],.zero⟩
  | _ => ⟨[],0,rest,[],.zero⟩

private theorem brittleLayer_first {queries : List Query} (rest : Ending (List Row))
    (asked : queries.map (·.resource) = [.mints,.customers,.wallets])
    (answered : ∀ failure, rest ≠ .failure failure) :
    FirstFailure (brittleLayer rest) queries 1 1 ⟨.timeout,"slow"⟩ := by
  obtain ⟨first,_,rfl,mints,asked⟩ := List.map_eq_cons_iff.mp asked
  obtain ⟨second,_,rfl,customers,asked⟩ := List.map_eq_cons_iff.mp asked
  obtain ⟨third,_,rfl,wallets,asked⟩ := List.map_eq_cons_iff.mp asked
  obtain rfl := List.map_eq_nil_iff.mp asked
  refine ⟨⟨second,rfl,by simp [brittleLayer,customers],by simp [brittleLayer,customers]⟩,?_⟩
  rintro there rounds other ⟨q,found,took,ending⟩
  match there with
  | 0 =>
    obtain rfl : first = q := by simpa using found
    simp only [brittleLayer,mints] at took
    exact .inl (by omega)
  | 1 =>
    obtain rfl : second = q := by simpa using found
    simp only [brittleLayer,customers] at took
    exact .inr ⟨took,Nat.le_refl 1⟩
  | 2 =>
    obtain rfl : third = q := by simpa using found
    simp only [brittleLayer,wallets] at ending
    exact absurd ending (answered other)
  | there + 3 => simp at found

/-- Two of three queries fail, and the earlier failure decides whether or not the third one ends. -/
theorem first_failure_decides_brittle :
    (analytics (some (.whole 5)) (brittleLayer .silence) ⟨none,some 1⟩ trio).result =
        some (.error ⟨.layer none,"semantic layer did not answer within 5s"⟩) ∧
      (analytics (some (.whole 5)) (brittleLayer (.answer [.empty])) ⟨none,none⟩ trio).result =
        (analytics (some (.whole 5)) (brittleLayer .silence) ⟨none,some 1⟩ trio).result := by
  obtain ⟨plan,valid,asked⟩ : ∃ plan, trio.plan = .ok plan ∧
      plan.queries.map (·.resource) = [.mints,.customers,.wallets] := ⟨_,rfl,rfl⟩
  have unsignalled (rest : Ending (List Row)) (answered : rest ≠ .signal) :
      ∀ q ∈ plan.queries, (brittleLayer rest q).ending ≠ .signal := by
    intro q _
    unfold brittleLayer
    split
    · simp
    · simp
    · exact answered
  have first := brittleLayer_first .silence asked (by simp)
  have first' := brittleLayer_first (.answer [.empty]) asked (by simp)
  have soon : (timerFor (some 1) (some (.whole 5))).covers 1 = true := by
    rw [timerFor_five]
    rfl
  have later : (timerFor none (some (.whole 5))).covers 1 = true := by
    rw [timerFor_five]
    rfl
  have fails : ∃ q ∈ plan.queries, ∃ failure, (brittleLayer .silence q).ending = .failure failure := by
    obtain ⟨q,found,_,ending⟩ := first.fails
    exact ⟨q,List.mem_of_getElem? found,_,ending⟩
  obtain ⟨_,_,decides⟩ :=
    first_failure_decides valid isAhead_five (unsignalled .silence (by simp)) fails
  obtain ⟨late,_,others⟩ := decides 1 1 _ (some 1) first soon
  have text : expiry (some (.whole 5)) = ⟨.layer none,"semantic layer did not answer within 5s"⟩ := by
    decide
  exact ⟨text ▸ (late rfl).1,others _ none (unsignalled _ (by simp)) first' later⟩

end ScopedAnalytics.Service
