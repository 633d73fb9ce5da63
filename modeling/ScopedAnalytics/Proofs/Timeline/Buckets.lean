import Mathlib.Data.List.Induction
import ScopedAnalytics.Proofs.Calendar.Ordering
import ScopedAnalytics.Proofs.Point.Contents

/-! The buckets of a time series. After any dated rows there is one point for each of their
timestamps, in ascending order, and it holds the rows of that timestamp in the order they came. -/
namespace ScopedAnalytics.Timeline

/-- Timestamps in ascending order after one more. -/
def addStamp (t : DateTime) : List DateTime → List DateTime
  | [] => [t]
  | u :: rest =>
    if t = u then u :: rest else if t < u then t :: u :: rest else u :: addStamp t rest

def stamps (rows : List Dated) : List DateTime :=
  rows.foldl (fun known d => addStamp d.timestamp known) []

/-- What rows add to the point of a timestamp. -/
def entriesAt (rows : List Dated) (t : DateTime) : List (Resource × List Row) :=
  (rows.filter fun d => d.timestamp = t).map fun d => (d.resource,[d.row])

def pointAt (rows : List Dated) (t : DateTime) : Point :=
  (Point.blank (some t)).insertAll (entriesAt rows t)

theorem mem_addStamp {t u : DateTime} {known : List DateTime} :
    u ∈ addStamp t known ↔ u = t ∨ u ∈ known := by
  induction known with
  | nil => simp [addStamp]
  | cons v rest ih =>
    unfold addStamp
    split
    · rename_i same
      subst same
      simp
    · split
      · simp
      · simp only [List.mem_cons,ih]
        exact or_left_comm

theorem addStamp_ascending {t : DateTime} {known : List DateTime}
    (ascending : known.Pairwise (· < ·)) : (addStamp t known).Pairwise (· < ·) := by
  induction known with
  | nil => simp [addStamp]
  | cons u rest ih =>
    obtain ⟨first,later⟩ := List.pairwise_cons.mp ascending
    unfold addStamp
    split
    · exact ascending
    · rename_i different
      split
      · rename_i before
        refine List.pairwise_cons.mpr ⟨?_,ascending⟩
        intro v member
        rcases List.mem_cons.mp member with same | inside
        · exact same ▸ before
        · exact DateTime.lt_trans before (first v inside)
      · rename_i notBefore
        refine List.pairwise_cons.mpr ⟨?_,ih later⟩
        intro v member
        rcases mem_addStamp.mp member with same | inside
        · exact same ▸ DateTime.lt_of_not_lt different notBefore
        · exact first v inside

theorem stamps_concat (rows : List Dated) (d : Dated) :
    stamps (rows ++ [d]) = addStamp d.timestamp (stamps rows) := by
  simp [stamps]

theorem buckets_concat (rows : List Dated) (d : Dated) :
    buckets (rows ++ [d]) = addRow d (buckets rows) := by
  simp [buckets]

theorem mem_stamps {rows : List Dated} {t : DateTime} :
    t ∈ stamps rows ↔ ∃ d ∈ rows, d.timestamp = t := by
  induction rows using List.reverseRecOn with
  | nil => simp [stamps]
  | append_singleton rows d ih =>
    rw [stamps_concat,mem_addStamp,ih]
    constructor
    · rintro (same | ⟨e,member,same⟩)
      · exact ⟨d,by simp,same.symm⟩
      · exact ⟨e,by simp [member],same⟩
    · rintro ⟨e,member,same⟩
      rcases List.mem_append.mp member with inside | last
      · exact .inr ⟨e,inside,same⟩
      · obtain rfl : e = d := by simpa using last
        exact .inl same.symm

theorem stamps_ascending (rows : List Dated) : (stamps rows).Pairwise (· < ·) := by
  induction rows using List.reverseRecOn with
  | nil => simp [stamps]
  | append_singleton rows d ih =>
    rw [stamps_concat]
    exact addStamp_ascending ih

theorem pointAt_timestamp (rows : List Dated) (t : DateTime) :
    (pointAt rows t).timestamp = some t := Point.insertAll_timestamp _ _

private theorem entriesAt_concat (rows : List Dated) (d : Dated) (t : DateTime) :
    entriesAt (rows ++ [d]) t =
      entriesAt rows t ++ if d.timestamp = t then [(d.resource,[d.row])] else [] := by
  by_cases same : d.timestamp = t
  · simp [entriesAt,same]
  · simp [entriesAt,same]

private theorem pointAt_concat_same (rows : List Dated) (d : Dated) :
    pointAt (rows ++ [d]) d.timestamp = (pointAt rows d.timestamp).insert d.resource [d.row] := by
  rw [pointAt,entriesAt_concat,if_pos rfl,Point.insertAll_concat,pointAt]

private theorem pointAt_concat_other (rows : List Dated) {d : Dated} {t : DateTime}
    (different : d.timestamp ≠ t) : pointAt (rows ++ [d]) t = pointAt rows t := by
  rw [pointAt,entriesAt_concat,if_neg different,List.append_nil,pointAt]

private theorem pointAt_new (rows : List Dated) {t : DateTime}
    (new : ∀ d ∈ rows, d.timestamp ≠ t) : pointAt rows t = Point.blank (some t) := by
  have void : rows.filter (fun d => d.timestamp = t) = [] := by
    simpa using new
  simp [pointAt,entriesAt,void,Point.insertAll]

/-- One more row goes to the point of its timestamp and leaves the others as they are. -/
theorem addRow_map (rows : List Dated) (d : Dated) (known : List DateTime)
    (ascending : known.Pairwise (· < ·))
    (complete : d.timestamp ∈ known ∨ ∀ e ∈ rows, e.timestamp ≠ d.timestamp) :
    addRow d (known.map (pointAt rows)) =
      (addStamp d.timestamp known).map (pointAt (rows ++ [d])) := by
  -- The times ascend, so the points behind the place of the row are of other times.
  have others : ∀ later : List DateTime, (∀ u ∈ later, d.timestamp ≠ u) →
      later.map (pointAt (rows ++ [d])) = later.map (pointAt rows) := by
    intro later different
    apply List.map_congr_left
    intro u member
    exact pointAt_concat_other rows (different u member)
  induction known with
  | nil =>
    have new := complete.resolve_left (by simp)
    simp only [List.map_nil,addRow,addStamp,List.map_cons]
    rw [pointAt_concat_same,pointAt_new rows new]
  | cons t rest ih =>
    obtain ⟨first,later⟩ := List.pairwise_cons.mp ascending
    simp only [List.map_cons,addRow,pointAt_timestamp,addStamp]
    split
    · rename_i same
      subst same
      have apart : ∀ u ∈ rest, d.timestamp ≠ u := fun u member =>
        DateTime.ne_of_lt (first u member)
      rw [List.map_cons,pointAt_concat_same,others rest apart]
    · rename_i different
      split
      · rename_i before
        have apart : ∀ u ∈ t :: rest, d.timestamp ≠ u := by
          intro u member
          rcases List.mem_cons.mp member with same | inside
          · exact same ▸ different
          · exact DateTime.ne_of_lt (DateTime.lt_trans before (first u inside))
        have new : ∀ e ∈ rows, e.timestamp ≠ d.timestamp := by
          rcases complete with inside | new
          · exact absurd rfl (apart d.timestamp inside)
          · exact new
        rw [List.map_cons,pointAt_concat_same,pointAt_new rows new,others (t :: rest) apart,
          List.map_cons]
      · have remaining : d.timestamp ∈ rest ∨ ∀ e ∈ rows, e.timestamp ≠ d.timestamp := by
          rcases complete with inside | new
          · exact .inl ((List.mem_cons.mp inside).resolve_left different)
          · exact .inr new
        rw [List.map_cons,ih later remaining,pointAt_concat_other rows different]

theorem buckets_eq (rows : List Dated) : buckets rows = (stamps rows).map (pointAt rows) := by
  induction rows using List.reverseRecOn with
  | nil => rfl
  | append_singleton rows d ih =>
    rw [buckets_concat,ih,stamps_concat]
    apply addRow_map rows d (stamps rows) (stamps_ascending rows)
    by_cases known : ∃ e ∈ rows, e.timestamp = d.timestamp
    · exact .inl (mem_stamps.mpr known)
    · refine .inr ?_
      intro e member same
      exact known ⟨e,member,same⟩

end ScopedAnalytics.Timeline
