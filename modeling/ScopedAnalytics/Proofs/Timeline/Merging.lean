import ScopedAnalytics.Proofs.Timeline.Buckets
import ScopedAnalytics.Proofs.Timeline.Chronicle
import ScopedAnalytics.Service

/-! What the answers of a request are put together to: the points of a time series, or the one
point of an aggregate. -/
namespace ScopedAnalytics

/-- Whether a timestamp comes before another one in a direction. -/
def SortOrder.Before : SortOrder → DateTime → DateTime → Prop
  | ascending, a, b => a < b
  | descending, a, b => b < a

namespace Timeline

def rowsFor (answers : List Answered) (resource : Resource) : List Row :=
  (answers.filter fun a => a.selection.resource = resource).flatMap (·.rows)

/-- The points of a time series: one for each timestamp of a row, in the direction asked for. A
point lists the resources in the order in which they first have a row of its timestamp, each with
rows of that timestamp only. From the oldest point to the newest, the rows of a resource are all of
its rows with a timestamp, sorted and otherwise as they came; no row is in two places. -/
structure IsSeriesOf (answers : List Answered) (order : SortOrder) (points : List Point) : Prop where
  times : ∃ times : List DateTime, points.map (·.timestamp) = times.map some ∧
    times.Pairwise order.Before ∧
    ∀ t, t ∈ times ↔ ∃ a ∈ answers, ∃ row ∈ a.rows, row.timestamp = some t
  rows : ∀ p ∈ points, ∀ entry ∈ p.resources,
    entry.2 ≠ [] ∧ ∀ row ∈ entry.2, row.timestamp = p.timestamp
  resources : ∀ p ∈ points, p.resources.map (·.1) =
    (((dated answers).filter fun d => some d.timestamp = p.timestamp).map (·.resource)).eraseDups
  chronological : ∀ resource, (directed order points).flatMap (·.rowsOf resource) =
    (chronicle ((dated answers).filter fun d => d.resource = resource)).map (·.row)
  count : (points.map Point.size).sum + undated answers = (answers.map (·.rows.length)).sum

/-- The point of an aggregate: without a timestamp, it lists the resources in the order in which
they first have rows, each with all of its rows. -/
structure IsAggregateOf (answers : List Answered) (p : Point) : Prop where
  time : p.timestamp = none
  resources : p.resources.map (·.1) =
    ((answers.filter fun a => !a.rows.isEmpty).map (·.selection.resource)).eraseDups
  rows : ∀ entry ∈ p.resources, entry.2 ≠ [] ∧ entry.2 = rowsFor answers entry.1

/-- What is noted of rows that are left out. -/
def omission (count : Nat) : List Entry :=
  if count = 0 then []
  else [⟨.debug,"hub_analytics.merger","undated_rows_dropped",[("count",.int count)],false⟩]

theorem mem_dated {answers : List Answered} {d : Dated} :
    d ∈ dated answers ↔ ∃ a ∈ answers, d.resource = a.selection.resource ∧ d.row ∈ a.rows ∧
      d.row.timestamp = some d.timestamp := by
  simp only [dated,List.mem_flatMap,List.mem_filterMap,dated?,Option.map_eq_some_iff]
  constructor
  · rintro ⟨a,member,row,inside,t,stamped,rfl⟩
    exact ⟨a,member,rfl,inside,stamped⟩
  · rintro ⟨a,member,resource,inside,stamped⟩
    refine ⟨a,member,d.row,inside,d.timestamp,stamped,?_⟩
    rw [← resource]

theorem mem_stamps_dated {answers : List Answered} {t : DateTime} :
    t ∈ stamps (dated answers) ↔ ∃ a ∈ answers, ∃ row ∈ a.rows, row.timestamp = some t := by
  rw [mem_stamps]
  constructor
  · rintro ⟨d,member,rfl⟩
    obtain ⟨a,inside,_,row,stamped⟩ := mem_dated.mp member
    exact ⟨a,inside,d.row,row,stamped⟩
  · rintro ⟨a,member,row,inside,stamped⟩
    exact ⟨⟨t,a.selection.resource,row⟩,mem_dated.mpr ⟨a,member,rfl,inside,stamped⟩,rfl⟩

theorem contributors_entriesAt (rows : List Dated) (t : DateTime) :
    Point.contributors (entriesAt rows t) =
      ((rows.filter fun d => d.timestamp = t).map (·.resource)).eraseDups := by
  simp [Point.contributors,entriesAt,List.filter_map,Function.comp_def]

theorem rowsAmong_entriesAt (rows : List Dated) (t : DateTime) (resource : Resource) :
    Point.rowsAmong (entriesAt rows t) resource =
      ((rows.filter fun d => d.timestamp = t).filter fun d => d.resource = resource).map (·.row) := by
  simp only [Point.rowsAmong,entriesAt,List.filter_map,Function.comp_def,List.flatMap_map]
  exact List.map_eq_flatMap.symm

theorem pointAt_resources (rows : List Dated) (t : DateTime) :
    (pointAt rows t).resources =
      (((rows.filter fun d => d.timestamp = t).map (·.resource)).eraseDups).map fun resource =>
        (resource,Point.rowsAmong (entriesAt rows t) resource) := by
  rw [pointAt,Point.insertAll_blank,contributors_entriesAt]

theorem pointAt_rows {rows : List Dated} {t : DateTime} {entry : Resource × List Row}
    (member : entry ∈ (pointAt rows t).resources) :
    entry.2 ≠ [] ∧ ∀ row ∈ entry.2, ∃ d ∈ rows, d.row = row ∧ d.timestamp = t := by
  rw [pointAt,Point.insertAll_blank] at member
  obtain ⟨resource,listed,rfl⟩ := List.mem_map.mp member
  refine ⟨fun void => Point.rowsAmong_eq_nil.mp void listed,?_⟩
  intro row inside
  rw [rowsAmong_entriesAt] at inside
  obtain ⟨d,held,same⟩ := List.mem_map.mp inside
  obtain ⟨stamped,_⟩ := List.mem_filter.mp held
  obtain ⟨known,time⟩ := List.mem_filter.mp stamped
  exact ⟨d,known,same,by simpa using time⟩

theorem pointAt_size (rows : List Dated) (t : DateTime) :
    (pointAt rows t).size = (rows.filter fun d => d.timestamp = t).length := by
  rw [pointAt,Point.insertAll_size]
  simp [Point.size,Point.blank,entriesAt,Function.comp_def]

theorem buckets_chronological (rows : List Dated) (resource : Resource) :
    (buckets rows).flatMap (·.rowsOf resource) =
      (chronicle (rows.filter fun d => d.resource = resource)).map (·.row) := by
  have complete : ∀ d ∈ rows.filter (fun d => d.resource = resource), d.timestamp ∈ stamps rows :=
    fun d member => mem_stamps.mpr ⟨d,(List.mem_filter.mp member).1,rfl⟩
  rw [← flatMap_eq_chronicle (stamps_ascending rows) complete,buckets_eq,List.flatMap_map,
    List.map_flatMap]
  apply List.flatMap_congr
  intro t _
  rw [pointAt,Point.rowsOf_insertAll_blank,rowsAmong_entriesAt,List.filter_filter,
    List.filter_filter]
  simp only [Bool.and_comm]

theorem buckets_size (rows : List Dated) :
    ((buckets rows).map Point.size).sum = rows.length := by
  have complete : ∀ d ∈ rows, d.timestamp ∈ stamps rows :=
    fun d member => mem_stamps.mpr ⟨d,member,rfl⟩
  calc ((buckets rows).map Point.size).sum
      = ((stamps rows).map fun t => (rows.filter fun d => d.timestamp = t).length).sum := by
        simp [buckets_eq,Function.comp_def,pointAt_size]
    _ = ((stamps rows).flatMap fun t => rows.filter fun d => d.timestamp = t).length := by
        rw [List.length_flatMap]
    _ = (chronicle rows).length := by rw [flatMap_eq_chronicle (stamps_ascending rows) complete]
    _ = rows.length := (chronicle_perm rows).length_eq

private theorem dated_length (resource : Resource) (rows : List Row) :
    (rows.filterMap (dated? resource)).length + rows.countP (fun row => row.timestamp.isNone) =
      rows.length := by
  induction rows with
  | nil => rfl
  | cons row rows ih =>
    cases stamped : row.timestamp with
    | none =>
      simp only [List.filterMap_cons,dated?,stamped,Option.map_none,List.countP_cons,
        Option.isNone_none,if_true,List.length_cons]
      omega
    | some t =>
      simp only [List.filterMap_cons,dated?,stamped,Option.map_some,List.countP_cons,
        Option.isNone_some,Bool.false_eq_true,if_false,List.length_cons]
      omega

theorem dated_add_undated (answers : List Answered) :
    (dated answers).length + undated answers = (answers.map (·.rows.length)).sum := by
  induction answers with
  | nil => rfl
  | cons a answers ih =>
    have split := dated_length a.selection.resource a.rows
    simp only [dated,undated,List.flatMap_cons,List.length_append,List.countP_append,List.map_cons,
      List.sum_cons] at ih ⊢
    omega

theorem mem_directed {order : SortOrder} {points : List Point} {p : Point} :
    p ∈ directed order points ↔ p ∈ points := by
  cases order with
  | ascending => rfl
  | descending => exact List.mem_reverse

private theorem directed_directed (order : SortOrder) (points : List Point) :
    directed order (directed order points) = points := by
  cases order with
  | ascending => rfl
  | descending => exact List.reverse_reverse points

private theorem directed_size (order : SortOrder) (points : List Point) :
    ((directed order points).map Point.size).sum = (points.map Point.size).sum := by
  cases order with
  | ascending => rfl
  | descending => rw [directed,List.map_reverse,List.sum_reverse]

private theorem directed_times (order : SortOrder) (rows : List Dated) :
    ∃ times : List DateTime, (directed order (buckets rows)).map (·.timestamp) = times.map some ∧
      times.Pairwise order.Before ∧ ∀ t, t ∈ times ↔ t ∈ stamps rows := by
  have ascending : (buckets rows).map (·.timestamp) = (stamps rows).map some := by
    simp [buckets_eq,pointAt_timestamp]
  cases order with
  | ascending => exact ⟨stamps rows,ascending,stamps_ascending rows,fun _ => Iff.rfl⟩
  | descending =>
    refine ⟨(stamps rows).reverse,?_,?_,fun _ => List.mem_reverse⟩
    · simp only [directed,List.map_reverse,ascending]
    · exact List.pairwise_reverse.mpr (stamps_ascending rows)

theorem isSeriesOf_buckets (answers : List Answered) (order : SortOrder) :
    IsSeriesOf answers order (directed order (buckets (dated answers))) where
  times := by
    obtain ⟨times,same,sorted,complete⟩ := directed_times order (dated answers)
    exact ⟨times,same,sorted,fun t => (complete t).trans mem_stamps_dated⟩
  rows := by
    intro p member entry inside
    rw [mem_directed,buckets_eq] at member
    obtain ⟨t,_,rfl⟩ := List.mem_map.mp member
    obtain ⟨filled,held⟩ := pointAt_rows inside
    refine ⟨filled,?_⟩
    intro row listed
    obtain ⟨d,known,rfl,rfl⟩ := held row listed
    obtain ⟨_,_,_,_,stamped⟩ := mem_dated.mp known
    rw [pointAt_timestamp,stamped]
  resources := by
    intro p member
    rw [mem_directed,buckets_eq] at member
    obtain ⟨t,_,rfl⟩ := List.mem_map.mp member
    simp [pointAt_resources,pointAt_timestamp,Function.comp_def]
  chronological := by
    intro resource
    rw [directed_directed,buckets_chronological]
  count := by
    rw [directed_size,buckets_size,dated_add_undated]

private theorem contributors_answers (answers : List Answered) :
    Point.contributors (answers.map fun a => (a.selection.resource,a.rows)) =
      ((answers.filter fun a => !a.rows.isEmpty).map (·.selection.resource)).eraseDups := by
  simp [Point.contributors,List.filter_map,Function.comp_def]

theorem rowsAmong_answers (answers : List Answered) (resource : Resource) :
    Point.rowsAmong (answers.map fun a => (a.selection.resource,a.rows)) resource =
      rowsFor answers resource := by
  simp [Point.rowsAmong,rowsFor,List.filter_map,List.flatMap_map,Function.comp_def]

theorem isAggregateOf_aggregate (answers : List Answered) :
    IsAggregateOf answers (aggregate answers) where
  time := Point.insertAll_timestamp _ _
  resources := by
    rw [aggregate,Point.insertAll_blank,contributors_answers]
    simp [Function.comp_def]
  rows := by
    intro entry member
    rw [aggregate,Point.insertAll_blank] at member
    obtain ⟨resource,listed,rfl⟩ := List.mem_map.mp member
    exact ⟨fun void => Point.rowsAmong_eq_nil.mp void listed,rowsAmong_answers answers resource⟩

theorem row_of_points {answers : List Answered} {order : SortOrder} {p : Point} {row : Row}
    {entry : Resource × List Row} (member : p ∈ points answers order) (held : entry ∈ p.resources)
    (inside : row ∈ entry.2) : ∃ a ∈ answers, row ∈ a.rows := by
  unfold points at member
  split at member
  · rw [mem_directed,buckets_eq] at member
    obtain ⟨t,_,rfl⟩ := List.mem_map.mp member
    obtain ⟨d,known,rfl,_⟩ := (pointAt_rows held).2 row inside
    obtain ⟨a,answer,_,listed,_⟩ := mem_dated.mp known
    exact ⟨a,answer,listed⟩
  · obtain rfl := List.mem_singleton.mp member
    rw [((isAggregateOf_aggregate answers).rows entry held).2,rowsFor,List.mem_flatMap] at inside
    obtain ⟨a,chosen,listed⟩ := inside
    exact ⟨a,(List.mem_filter.mp chosen).1,listed⟩

private theorem mergeTrace_entries (answers : List Answered) :
    (Service.mergeTrace answers).entries = omission (leftOut answers) := by
  simp only [Service.mergeTrace,omission]
  split
  · rfl
  · rfl

/-- What the answers of a request are put together to, and what is noted on the way: a time series
if one of the selections asks for it, and else one point that holds every row. -/
theorem points_of_answers (answers : List Answered) (order : SortOrder) :
    if ∃ a ∈ answers, a.selection.hasTimestamp = true then
      IsSeriesOf answers order (points answers order) ∧
        (Service.mergeTrace answers).entries = omission (undated answers)
    else
      (∃ p, points answers order = [p] ∧ IsAggregateOf answers p) ∧
        (Service.mergeTrace answers).entries = [] := by
  split
  · rename_i series
    have asked : isSeries answers = true := by simpa [isSeries] using series
    rw [mergeTrace_entries,leftOut,points,if_pos asked,if_pos asked]
    exact ⟨isSeriesOf_buckets answers order,rfl⟩
  · rename_i aggregated
    have unasked : ¬isSeries answers = true := by simpa [isSeries] using aggregated
    rw [mergeTrace_entries,leftOut,points,if_neg unasked,if_neg unasked]
    exact ⟨⟨aggregate answers,rfl,isAggregateOf_aggregate answers⟩,rfl⟩

end Timeline
end ScopedAnalytics
