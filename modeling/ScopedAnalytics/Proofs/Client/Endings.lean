import ScopedAnalytics.Proofs.Client.Statuses
import ScopedAnalytics.Proofs.Row.Printing
import ScopedAnalytics.Proofs.Row.Rendering

/-! How the layer behind a host leaves a query. It does so with a signal only if one came in place of
the response, and then never with an answer. None of its failures passes for a cancellation, and the rows
of its answers can all be written. -/
namespace ScopedAnalytics

/-- Whether a failure is none that a cancellation comes to. -/
def Failure.IsOther (failure : Failure) : Prop := failure.kind ≠ .cancelled

section Kinds

private theorem text_other (r : Http.Response) : FailsAs Failure.IsOther r.text := by
  unfold Http.Response.text
  split
  · exact .ok _
  · split
    · refine .mapError fun fault => ?_
      cases fault with
      | pretender p => cases p <;> simp [Charset.Fault.failure,Failure.IsOther]
      | _ => simp [Charset.Fault.failure,Failure.IsOther]
    · rename_i fault _
      refine .error ?_
      cases fault <;> simp [ContentType.Fault.failure,Failure.invalidValue,Failure.IsOther]

theorem Undecodable.isOther (u : Undecodable) : u.failure.IsOther := by
  unfold failure
  split
  · cases u <;> simp [kind,Failure.IsOther]
  · simp [Failure.unwritable,Failure.invalidValue,Failure.IsOther]

namespace Client

private theorem Fault.isOther (fault : Fault) : fault.failure.IsOther := by
  cases fault <;> simp [Fault.failure,Failure.IsOther]

private theorem readData_other (r : Http.Response) : FailsAs Failure.IsOther (readData r) := by
  unfold readData
  split
  · split
    · exact .error (by simp [Failure.IsOther])
    · rename_i failure unread
      exact .error (text_other r failure unread)
  · split
    · rename_i u _
      refine .error ?_
      split
      · cases u <;> simp [Json.Unreadable.failure,Failure.IsOther]
      · exact Undecodable.isOther _
    · split
      · split
        · exact .error (by simp [queryError,Failure.IsOther])
        · exact .mapError Undecodable.isOther
      · exact .mapError Undecodable.isOther

private theorem checkResponse_other (r : Http.Response) :
    FailsAs Failure.IsOther (checkResponse r) := by
  unfold checkResponse
  split
  · exact .ok _
  · exact .error (Fault.isOther _)

private theorem checkAnswered_other (url : Url) : FailsAs Failure.IsOther (checkAnswered url) := by
  unfold checkAnswered
  split
  · exact .error (by simp [Failure.invalidValue,Failure.IsOther])
  · split
    · exact .ok _
    · exact .error (by simp [Failure.invalidValue,Failure.IsOther])

private theorem ending_other {url : Url} {came : Http.Ending} {failure : Failure}
    (failed : ending url came = .failure failure) : failure.IsOther := by
  unfold ending at failed
  split at failed
  · rename_i r
    have checked : FailsAs Failure.IsOther (do
        checkResponse r
        checkAnswered url
        readData r) :=
      (checkResponse_other r).bind fun _ _ => (checkAnswered_other url).bind fun _ _ =>
        readData_other r
    split at failed
    · cases failed
    · rename_i bad
      exact Ending.failure.inj failed ▸ checked _ bad
  · rename_i trouble message
    obtain rfl := Ending.failure.inj failed
    cases trouble <;> simp [exchangeFailure,Failure.IsOther]
  · cases failed
  · cases failed

end Client
end Kinds

namespace Client
variable {c : Client} {exchange : Query → Http.Exchange} {q : Query} {failure : Failure}

section Layer

private theorem andThen_failure {α β : Type} {reply : Reply α} {f : α → Except Failure β}
    (failed : (reply.andThen f).ending = .failure failure) :
    reply.ending = .failure failure ∨ ∃ a, reply.ending = .answer a ∧ f a = .error failure := by
  cases ended : reply.ending with
  | answer a =>
    cases result : f a with
    | ok b => simp [Reply.andThen,ended,result] at failed
    | error other =>
      obtain rfl : other = failure := by simpa [Reply.andThen,ended,result] using failed
      exact .inr ⟨a,rfl,result⟩
  | failure other => exact .inl (by simpa [Reply.andThen,ended] using failed)
  | silence => simp [Reply.andThen,ended] at failed
  | signal => simp [Reply.andThen,ended] at failed

private theorem andThen_signal {α β : Type} {reply : Reply α} {f : α → Except Failure β} :
    (reply.andThen f).ending = .signal ↔ reply.ending = .signal := by
  cases ended : reply.ending with
  | answer a => cases result : f a <;> simp [Reply.andThen,ended,result]
  | _ => simp [Reply.andThen,ended]

private theorem ending_signal {url : Url} {came : Http.Ending} :
    ending url came = .signal ↔ came = .signal := by
  cases came with
  | response r =>
    simp only [ending]
    split <;> simp
  | trouble trouble message => simp [ending]
  | silence => simp [ending]
  | signal => simp [ending]

/-- No failure that the layer leaves a query with passes for a cancellation. -/
theorem layer_failure (failed : (c.layer exchange q).ending = .failure failure) :
    failure.IsOther := by
  rcases andThen_failure failed with loaded | ⟨data,_,bad⟩
  · unfold load at loaded
    split at loaded
    · rename_i fault _
      obtain rfl := Ending.failure.inj loaded
      exact fault.isOther
    · exact ending_other loaded
  · exact FailsAs.mapError Undecodable.isOther failure bad

theorem layer_answer {rows : List Row} (answered : (c.layer exchange q).ending = .answer rows) :
    ∀ row ∈ rows, row.IsProper := by
  obtain ⟨data,_,read⟩ := andThen_answer_iff.mp answered
  intro row member
  obtain ⟨value,_,decoded⟩ := forall₂_right (mapM_forall₂ (mapError_ok read)) row member
  exact Row.isProper_of_decode decoded

private theorem load_answer {x : Http.Exchange} {data : List Json}
    (answered : (c.load x q).ending = .answer data) :
    ∃ r, x.ending = .response r ∧ Delivers r data := by
  unfold load at answered
  split at answered
  · cases answered
  · rename_i request _
    have ended : ending request.url x.ending = .answer data := answered
    cases came : x.ending with
    | response r =>
      rw [came,ending_answer_iff] at ended
      exact ⟨r,rfl,(readData_ok_iff.mp ended.2).2⟩
    | _ =>
      rw [came] at ended
      cases ended

/-- Whatever a response holds, the rows that are decoded from it can be written. -/
theorem layer_answer_isWritable {rows : List Row}
    (answered : (c.layer exchange q).ending = .answer rows) :
    ∀ row ∈ rows, row.toJson.isWritable = true := by
  obtain ⟨data,loaded,read⟩ := andThen_answer_iff.mp answered
  obtain ⟨r,_,members,body,_,found⟩ := load_answer loaded
  have writable := Response.data_isWritable (Json.ofBytes_isWritable body) found
  intro row member
  obtain ⟨value,listed,decoded⟩ := forall₂_right (mapM_forall₂ (mapError_ok read)) row member
  exact Row.decode_isWritable (writable value listed) decoded

/-- The layer leaves a query with a signal only if one came in its exchange. -/
theorem exchange_of_signal (left : (c.layer exchange q).ending = .signal) :
    (exchange q).ending = .signal := by
  have loaded := andThen_signal.mp left
  unfold load at loaded
  split at loaded
  · cases loaded
  · exact ending_signal.mp loaded

/-- The layer leaves a query with a signal or a failure if a signal came in its exchange. -/
theorem layer_of_signal (came : (exchange q).ending = .signal) :
    (c.layer exchange q).ending = .signal ∨
      ∃ failure, (c.layer exchange q).ending = .failure failure := by
  cases sent : c.request q with
  | error fault =>
    refine .inr ⟨fault.failure,?_⟩
    simp [layer,decoded,Reply.andThen,load,sent,Reply.failed]
  | ok request =>
    refine .inl (andThen_signal.mpr ?_)
    simp [load,sent,came,ending]

end Layer
end Client
end ScopedAnalytics
