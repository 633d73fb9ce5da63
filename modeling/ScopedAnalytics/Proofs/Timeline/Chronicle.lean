import Mathlib.Data.List.Basic
import ScopedAnalytics.Proofs.Calendar.Ordering
import ScopedAnalytics.Timeline

/-! Dated rows in the order of their timestamps. The sort is stable: rows of one timestamp stay in
the order they came, so the sorted rows are the rows of each timestamp put one after the other. -/
namespace ScopedAnalytics.Timeline

/-- Rows in ascending order of their timestamps, those of one timestamp in the order they came. -/
def chronicle (rows : List Dated) : List Dated :=
  rows.mergeSort fun a b => a.timestamp ≤ b.timestamp

private theorem timestamp_trans (a b c : Dated) (first : decide (a.timestamp ≤ b.timestamp) = true)
    (second : decide (b.timestamp ≤ c.timestamp) = true) :
    decide (a.timestamp ≤ c.timestamp) = true := by
  simp only [decide_eq_true_eq,DateTime.le_def] at first second ⊢
  exact Nat.le_trans first second

private theorem timestamp_total (a b : Dated) :
    (decide (a.timestamp ≤ b.timestamp) || decide (b.timestamp ≤ a.timestamp)) = true := by
  simp only [Bool.or_eq_true,decide_eq_true_eq,DateTime.le_def]
  exact Nat.le_total _ _

theorem chronicle_perm (rows : List Dated) : (chronicle rows).Perm rows := List.mergeSort_perm _ _

theorem chronicle_ascending (rows : List Dated) :
    (chronicle rows).Pairwise fun a b => a.timestamp ≤ b.timestamp := by
  have sorted := List.pairwise_mergeSort timestamp_trans timestamp_total rows
  exact sorted.imp fun before => of_decide_eq_true before

theorem chronicle_filter (rows : List Dated) (t : DateTime) :
    (chronicle rows).filter (fun d => d.timestamp = t) = rows.filter fun d => d.timestamp = t := by
  have level : (rows.filter fun d => d.timestamp = t).Pairwise
      fun a b => decide (a.timestamp ≤ b.timestamp) = true := by
    refine List.pairwise_of_forall_mem_list ?_
    intro a memberA b memberB
    have sameA : a.timestamp = t := by simpa using (List.mem_filter.mp memberA).2
    have sameB : b.timestamp = t := by simpa using (List.mem_filter.mp memberB).2
    simp [sameA,sameB,DateTime.le_def]
  have inside : (rows.filter fun d => d.timestamp = t).Sublist (chronicle rows) :=
    List.sublist_mergeSort timestamp_trans timestamp_total level List.filter_sublist
  have again := inside.filter fun d => d.timestamp = t
  simp only [List.filter_filter,Bool.and_self] at again
  refine (again.eq_of_length ?_).symm
  exact ((chronicle_perm rows).filter _).length_eq.symm

private theorem filter_append_filter {t : DateTime} {rows : List Dated}
    (ascending : rows.Pairwise fun a b => a.timestamp ≤ b.timestamp)
    (first : ∀ d ∈ rows, t ≤ d.timestamp) :
    rows.filter (fun d => d.timestamp = t) ++ rows.filter (fun d => d.timestamp ≠ t) = rows := by
  induction rows with
  | nil => rfl
  | cons d rest ih =>
    obtain ⟨bound,later⟩ := List.pairwise_cons.mp ascending
    have tail := ih later fun e member => first e (List.mem_cons_of_mem d member)
    by_cases same : d.timestamp = t
    · simpa [same] using tail
    · have before : t < d.timestamp := by
        have least := first d List.mem_cons_self
        have different : t.rank ≠ d.timestamp.rank := fun ranks =>
          same (DateTime.rank_injective ranks).symm
        rw [DateTime.le_def] at least
        rw [DateTime.lt_def]
        omega
      have apart : ∀ e ∈ rest, e.timestamp ≠ t := by
        intro e member
        exact (DateTime.ne_of_lt (Nat.lt_of_lt_of_le before (bound e member))).symm
      have none : rest.filter (fun e => e.timestamp = t) = [] := by simpa using apart
      simpa [same,none] using apart

private theorem flatMap_filter {known : List DateTime} {rows : List Dated}
    (distinct : known.Pairwise (· < ·))
    (ascending : rows.Pairwise fun a b => a.timestamp ≤ b.timestamp)
    (complete : ∀ d ∈ rows, d.timestamp ∈ known) :
    (known.flatMap fun t => rows.filter fun d => d.timestamp = t) = rows := by
  induction known generalizing rows with
  | nil =>
    have void : rows = [] := List.eq_nil_iff_forall_not_mem.mpr fun d member => by
      simpa using complete d member
    rw [void,List.flatMap_nil]
  | cons t known ih =>
    obtain ⟨first,later⟩ := List.pairwise_cons.mp distinct
    have least : ∀ d ∈ rows, t ≤ d.timestamp := by
      intro d member
      rcases List.mem_cons.mp (complete d member) with same | inside
      · exact same ▸ Nat.le_refl _
      · exact Nat.le_of_lt (first _ inside)
    have others : ∀ d ∈ rows.filter (fun d => d.timestamp ≠ t), d.timestamp ∈ known := by
      intro d member
      obtain ⟨inside,different⟩ := List.mem_filter.mp member
      exact (List.mem_cons.mp (complete d inside)).resolve_left (by simpa using different)
    have rest : (known.flatMap fun u => rows.filter fun d => d.timestamp = u) =
        rows.filter fun d => d.timestamp ≠ t := by
      rw [← ih later (ascending.filter _) others]
      apply List.flatMap_congr
      intro u member
      rw [List.filter_filter]
      apply List.filter_congr
      intro d _
      have apart := DateTime.ne_of_lt (first u member)
      by_cases same : d.timestamp = u
      · simp [same,apart.symm]
      · simp [same]
    -- The rows of the least time come first, and the induction is on those of later times.
    rw [List.flatMap_cons,rest]
    exact filter_append_filter ascending least

/-- The rows of each timestamp put one after the other are the sorted rows. -/
theorem flatMap_eq_chronicle {known : List DateTime} {rows : List Dated}
    (distinct : known.Pairwise (· < ·)) (complete : ∀ d ∈ rows, d.timestamp ∈ known) :
    (known.flatMap fun t => rows.filter fun d => d.timestamp = t) = chronicle rows := by
  have sorted := flatMap_filter distinct (chronicle_ascending rows)
    fun d member => complete d ((chronicle_perm rows).mem_iff.mp member)
  simpa only [chronicle_filter] using sorted

end ScopedAnalytics.Timeline
