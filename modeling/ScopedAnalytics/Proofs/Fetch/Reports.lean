import ScopedAnalytics.Proofs.Fetch.Fates

/-! What a service notes of a query itself, besides what the layer lets be seen of it: one entry, in the
turn in which the layer fails the query. -/
namespace ScopedAnalytics

/-- Whether an entry is made by a service or by what puts its answers together. -/
def Entry.isOfService (entry : Entry) : Bool :=
  entry.logger == Notice.serviceLogger || entry.logger == Notice.mergeLogger

namespace Trace
variable {first second : Trace}

def reports (trace : Trace) : List Entry := trace.entries.filter Entry.isOfService

@[simp] theorem reports_nil : reports [] = [] := rfl

@[simp] theorem reports_append : reports (first ++ second) = reports first ++ reports second := by
  simp [reports,entries]

end Trace

namespace Fetch
variable {f g : Fetch} {seen : Trace} {call : Call}

/-- Whether a query has ended with a failure of the layer. -/
def isDenied (f : Fetch) : Bool :=
  match f.stage with
  | .ended (.failed failure) => failure.kind.isLayer
  | _ => false

theorem isDenied_iff : f.isDenied = true ↔
    ∃ failure, f.stage = .ended (.failed failure) ∧ failure.kind.isLayer = true := by
  unfold isDenied
  split
  · rename_i failure stage
    simp [stage]
  · rename_i other
    simpa using fun failure stage => absurd stage (other failure)

theorem isDenied_of_not_ended (onWay : f.isEnded = false) : f.isDenied = false := by
  cases stage : f.stage with
  | ended fate => simp [isEnded,stage] at onWay
  | unsent => simp [isDenied,stage]
  | waiting rounds => simp [isDenied,stage]
  | stalled => simp [isDenied,stage]

@[simp] theorem cut_isDenied (f : Fetch) : f.cut.isDenied = f.isDenied := by
  simp [isDenied]

private theorem remarks_reports (remarks : List Remark) :
    Trace.reports (remarks.map Remark.event) = [] := by
  induction remarks with
  | nil => rfl
  | cons remark remarks ih =>
    rw [List.map_cons,← List.singleton_append,Trace.reports_append,ih,List.append_nil]
    cases remark <;> rfl

private theorem Bound.reports {rounds : Nat} (bound : f.Bound rounds seen) : seen.reports = [] := by
  cases bound with
  | unsent =>
    rw [sending,← List.singleton_append,Trace.reports_append,remarks_reports]
    rfl
  | waiting => rfl

/-- A query is reported in the turn in which the layer fails it, and in no other. -/
theorem Passage.reports (passage : f.Passage g seen call) : seen.reports =
    if f.isEnded = false ∧ g.isDenied = true then [(Notice.queryFailed f.query.resource).entry]
    else [] := by
  cases passage with
  | still =>
    rw [if_neg]
    · rfl
    · rintro ⟨onWay,denied⟩
      simp [isDenied_of_not_ended onWay] at denied
  | dropped => exact (if_neg (by simp [isDenied])).symm
  | givenUp => exact (if_neg (by simp [isDenied])).symm
  | waits _ _ bound => exact bound.reports.trans (if_neg (by simp [isDenied])).symm
  | silent _ bound => exact bound.reports.trans (if_neg (by simp [isDenied])).symm
  | signalled _ bound => exact bound.reports.trans (if_neg (by simp [isDenied])).symm
  | finished rows seen bound =>
    rw [if_neg (by simp [isDenied]),Trace.reports_append,Trace.reports_append,bound.reports,
      remarks_reports]
    rfl
  | failed failure seen bound =>
    rw [Trace.reports_append,Trace.reports_append,bound.reports,remarks_reports,complaint]
    simp only [isDenied,bound.isEnded_eq_false,true_and,List.nil_append]
    split <;> rfl

end Fetch
end ScopedAnalytics
