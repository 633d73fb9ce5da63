import ScopedAnalytics.Proofs.Point.Union
import ScopedAnalytics.Proofs.Timeline.Merging

/-! Time series put together. The answers of two requests taken as those of one give the points of both
series, those of one timestamp merged. -/
namespace ScopedAnalytics.Timeline

section Buckets
variable {rows : List Dated} {t : DateTime}

private theorem entriesAt_append (front back : List Dated) (t : DateTime) :
    entriesAt (front ++ back) t = entriesAt front t ++ entriesAt back t := by
  simp [entriesAt]

/-- The points of two lists of rows at one timestamp are merged to the point of all the rows. -/
theorem pointAt_merge (front back : List Dated) (t : DateTime) :
    (pointAt front t).merge (pointAt back t) = .ok (pointAt (front ++ back) t) := by
  rw [pointAt,pointAt,Point.merge_insertAll,pointAt,entriesAt_append]

private theorem entriesAt_eq_nil (new : t ∉ stamps rows) : entriesAt rows t = [] := by
  have none : rows.filter (fun d => d.timestamp = t) = [] := by
    simpa [mem_stamps] using new
  rw [entriesAt,none,List.map_nil]

theorem pointAt_isEmpty_iff : (pointAt rows t).isEmpty = true ↔ t ∉ stamps rows := by
  constructor
  · intro void known
    obtain ⟨d,member,same⟩ := mem_stamps.mp known
    rw [Point.isEmpty,pointAt_resources,List.isEmpty_iff,List.map_eq_nil_iff] at void
    have listed : d.resource ∈
        ((rows.filter fun d => d.timestamp = t).map (·.resource)).eraseDups := by
      simp only [List.mem_eraseDups,List.mem_map,List.mem_filter,decide_eq_true_eq]
      exact ⟨d,⟨member,same⟩,rfl⟩
    simp [void] at listed
  · intro new
    rw [pointAt,entriesAt_eq_nil new]
    rfl

theorem mem_buckets {p : Point} :
    p ∈ buckets rows ↔ ∃ t ∈ stamps rows, p = pointAt rows t := by
  simp only [buckets_eq,List.mem_map,eq_comm]

theorem stamps_append {front back : List Dated} :
    t ∈ stamps (front ++ back) ↔ t ∈ stamps front ∨ t ∈ stamps back := by
  simp only [mem_stamps,List.mem_append,or_and_right,exists_or]

end Buckets

/-- Whether a point stands for a series at a time: it is the point of that time, or one without rows if
the series has none. -/
def StandsAt (points : List Point) (t : DateTime) (p : Point) : Prop :=
  (p ∈ points ∧ p.timestamp = some t) ∨
    (∀ other ∈ points, other.timestamp ≠ some t) ∧ p.isEmpty = true

section Series
variable {rows : List Dated} {t : DateTime} {order : SortOrder} {p : Point}

private theorem points_of_series {answers : List Answered}
    (series : ∃ a ∈ answers, a.selection.hasTimestamp = true) (order : SortOrder) :
    points answers order = directed order (buckets (dated answers)) := by
  have asked : isSeries answers = true := by simpa [isSeries] using series
  rw [points,if_pos asked]

private theorem at_time_iff : p ∈ directed order (buckets rows) ∧ p.timestamp = some t ↔
    t ∈ stamps rows ∧ p = pointAt rows t := by
  rw [mem_directed,mem_buckets]
  constructor
  · rintro ⟨⟨u,known,rfl⟩,stamped⟩
    rw [pointAt_timestamp] at stamped
    obtain rfl := Option.some.inj stamped
    exact ⟨known,rfl⟩
  · rintro ⟨known,rfl⟩
    exact ⟨⟨t,known,rfl⟩,pointAt_timestamp rows t⟩

private theorem exists_at_time_iff :
    (∃ p ∈ directed order (buckets rows), p.timestamp = some t) ↔ t ∈ stamps rows := by
  constructor
  · rintro ⟨p,member,stamped⟩
    exact (at_time_iff.mp ⟨member,stamped⟩).1
  · intro known
    obtain ⟨member,stamped⟩ := at_time_iff.mpr (And.intro known rfl)
    exact ⟨_,member,stamped⟩

/-- What stands for a series at a time is its point there, or else one without rows. -/
private theorem standsAt_iff : StandsAt (directed order (buckets rows)) t p ↔
    t ∈ stamps rows ∧ p = pointAt rows t ∨ t ∉ stamps rows ∧ p.isEmpty = true := by
  have missing : (∀ other ∈ directed order (buckets rows), other.timestamp ≠ some t) ↔
      t ∉ stamps rows := by
    have found : (∃ other ∈ directed order (buckets rows), other.timestamp = some t) ↔
        t ∈ stamps rows := exists_at_time_iff
    rw [← not_congr found,not_exists]
    simp only [not_and,ne_eq]
  rw [StandsAt,at_time_iff,missing]

private theorem merge_of_standsAt {front back : List Dated} {left right : Point}
    (first : StandsAt (directed order (buckets front)) t left)
    (second : StandsAt (directed order (buckets back)) t right) :
    ∃ merged, left.merge right = .ok merged ∧
      (t ∈ stamps (front ++ back) → merged = pointAt (front ++ back) t) := by
  rw [standsAt_iff] at first second
  -- If one series has no rows at the time, its empty point gives way to the other one.
  rcases first with ⟨known,rfl⟩ | ⟨new,void⟩
  · rcases second with ⟨_,rfl⟩ | ⟨new,void⟩
    · exact ⟨_,pointAt_merge front back t,fun _ => rfl⟩
    · refine ⟨_,Point.merge_of_isEmpty_right void,fun _ => ?_⟩
      rw [pointAt,pointAt,entriesAt_append,entriesAt_eq_nil new,List.append_nil]
  · rcases second with ⟨known,rfl⟩ | ⟨new',void'⟩
    · have filled : ¬(pointAt back t).isEmpty = true := fun none =>
        pointAt_isEmpty_iff.mp none known
      refine ⟨_,Point.merge_of_isEmpty_left void filled,fun _ => ?_⟩
      rw [pointAt,pointAt,entriesAt_append,entriesAt_eq_nil new,List.nil_append]
    · refine ⟨_,Point.merge_of_isEmpty_right void',fun known => ?_⟩
      exact absurd known (by simp [stamps_append,new,new'])

end Series

/-- Answers that give two time series, taken as those of one request. Its timestamps are those of both
series, each once and in the direction asked for. Whatever stands for the two at a time can be merged, and
the point of that time is what they are merged to. -/
theorem points_append {xs ys : List Answered}
    (seriesX : ∃ a ∈ xs, a.selection.hasTimestamp = true)
    (seriesY : ∃ a ∈ ys, a.selection.hasTimestamp = true) (order : SortOrder) :
    (∃ times : List DateTime, (points (xs ++ ys) order).map (·.timestamp) = times.map some ∧
      times.Pairwise order.Before ∧
      ∀ t, t ∈ times ↔ (∃ p ∈ points xs order, p.timestamp = some t) ∨
        ∃ p ∈ points ys order, p.timestamp = some t) ∧
    ∀ t left right, StandsAt (points xs order) t left → StandsAt (points ys order) t right →
      ∃ merged, left.merge right = .ok merged ∧
        ∀ p ∈ points (xs ++ ys) order, p.timestamp = some t → p = merged := by
  have series : ∃ a ∈ xs ++ ys, a.selection.hasTimestamp = true := by
    obtain ⟨a,member,asks⟩ := seriesX
    exact ⟨a,List.mem_append_left ys member,asks⟩
  have joined : dated (xs ++ ys) = dated xs ++ dated ys := List.flatMap_append
  rw [points_of_series seriesX,points_of_series seriesY,points_of_series series]
  constructor
  · obtain ⟨times,same,sorted,complete⟩ := (isSeriesOf_buckets (xs ++ ys) order).times
    refine ⟨times,same,sorted,fun t => ?_⟩
    rw [complete,← mem_stamps_dated,joined,stamps_append,exists_at_time_iff,exists_at_time_iff]
  · intro t left right first second
    obtain ⟨merged,ok,same⟩ := merge_of_standsAt first second
    refine ⟨merged,ok,fun p member stamped => ?_⟩
    obtain ⟨known,rfl⟩ := at_time_iff.mp ⟨member,stamped⟩
    rw [joined] at known ⊢
    exact (same known).symm

section Overlap

def noon : DateTime := ⟨⟨2024,6,21,by decide⟩,⟨12,0,0,0,by decide⟩⟩

/-- A row with a count at noon. -/
def noonRow (count : Int) : Row := { Row.empty with count := some count, timestamp := some noon }

def dailyAnswer (resource : Resource) (rows : List Row) : Answered :=
  ⟨⟨resource,[⟨resource,.count⟩],[],true⟩,rows⟩

/-- Two series with mints at noon, the second with customers before them. The order of the resources is
that of the first series, and mints are those of both. -/
theorem points_append_noon :
    (∃ a ∈ [dailyAnswer .mints [noonRow 1]], a.selection.hasTimestamp = true) ∧
    (∃ a ∈ [dailyAnswer .customers [noonRow 2],dailyAnswer .mints [noonRow 3]],
      a.selection.hasTimestamp = true) ∧
    ∃ merged, (⟨some noon,[(.mints,[noonRow 1])]⟩ : Point).merge
        ⟨some noon,[(.customers,[noonRow 2]),(.mints,[noonRow 3])]⟩ = .ok merged ∧
      points ([dailyAnswer .mints [noonRow 1]] ++
        [dailyAnswer .customers [noonRow 2],dailyAnswer .mints [noonRow 3]]) .descending =
          [merged] ∧
      merged.resources = [(.mints,[noonRow 1,noonRow 3]),(.customers,[noonRow 2])] := by
  have seriesX : ∃ a ∈ [dailyAnswer .mints [noonRow 1]], a.selection.hasTimestamp = true :=
    ⟨_,List.mem_singleton.mpr rfl,rfl⟩
  have seriesY : ∃ a ∈ [dailyAnswer .customers [noonRow 2],dailyAnswer .mints [noonRow 3]],
      a.selection.hasTimestamp = true := ⟨_,List.mem_cons_self,rfl⟩
  have first : StandsAt (points [dailyAnswer .mints [noonRow 1]] .descending) noon
      ⟨some noon,[(.mints,[noonRow 1])]⟩ := .inl (by decide)
  have second : StandsAt (points
      [dailyAnswer .customers [noonRow 2],dailyAnswer .mints [noonRow 3]] .descending) noon
      ⟨some noon,[(.customers,[noonRow 2]),(.mints,[noonRow 3])]⟩ := .inl (by decide)
  obtain ⟨merged,ok,same⟩ := (points_append seriesX seriesY .descending).2 noon _ _ first second
  have whole : points ([dailyAnswer .mints [noonRow 1]] ++
      [dailyAnswer .customers [noonRow 2],dailyAnswer .mints [noonRow 3]]) .descending =
      [⟨some noon,[(.mints,[noonRow 1,noonRow 3]),(.customers,[noonRow 2])]⟩] := by decide
  have joined := same _ (whole ▸ List.mem_singleton.mpr rfl) rfl
  refine ⟨seriesX,seriesY,merged,ok,?_,?_⟩
  · rw [whole,joined]
  · rw [← joined]

end Overlap

end ScopedAnalytics.Timeline
