import Mathlib.Data.List.FinRange
import Mathlib.Data.List.Sort
import ScopedAnalytics.Proofs.Timeline.Composition

/-! Answers in another arrangement. What is put together from answers depends on the order of the answers
of each resource only, and not on how the rows of one selection are divided into answers. -/
namespace ScopedAnalytics

/-- Two points of one bucket with the same rows of each resource, the order of the resources apart. -/
structure Point.Alike (p q : Point) : Prop where
  timestamp : p.timestamp = q.timestamp
  resources : p.resources.Perm q.resources
  rows : ∀ resource, p.rowsOf resource = q.rowsOf resource

namespace Point

/-- The point that entries make holds the same as that of others with the same rows of each resource. -/
theorem alike_of_rowsAmong {entries others : List (Resource × List Row)}
    (same : ∀ resource, rowsAmong entries resource = rowsAmong others resource)
    (timestamp : Option DateTime) :
    Alike ((blank timestamp).insertAll entries) ((blank timestamp).insertAll others) where
  timestamp := by rw [insertAll_timestamp,insertAll_timestamp]
  resources := by
    have members (resource : Resource) :
        resource ∈ contributors entries ↔ resource ∈ contributors others := by
      rw [← not_iff_not,← rowsAmong_eq_nil,← rowsAmong_eq_nil,same]
    have listed : (contributors entries).Perm (contributors others) :=
      (List.perm_ext_iff_of_nodup (contributors_nodup _) (contributors_nodup _)).mpr members
    rw [insertAll_blank,insertAll_blank,funext same]
    exact listed.map _
  rows := by
    intro resource
    rw [rowsOf_insertAll_blank,rowsOf_insertAll_blank,same]

private theorem addRows_append (resource : Resource) (first second : List Row)
    (held : List (Resource × List Row)) :
    addRows resource (first ++ second) held = addRows resource second (addRows resource first held) := by
  induction held with
  | nil => simp [addRows]
  | cons entry held ih =>
    simp only [addRows]
    split
    · rename_i own
      simp [addRows,own]
    · rename_i other
      simp [addRows,other,ih]

theorem insert_append (p : Point) (resource : Resource) (first second : List Row) :
    p.insert resource (first ++ second) = (p.insert resource first).insert resource second := by
  cases first with
  | nil => rfl
  | cons row first =>
    cases second with
    | nil => simp [insert]
    | cons other second =>
      have parts := addRows_append resource (row :: first) (other :: second) p.resources
      simpa [insert] using parts

end Point

namespace Timeline

/-- Answers in another order in which those of one resource still follow each other as before: each place
of the one list corresponds to one of the other. -/
def Rearranged (xs ys : List Answered) : Prop :=
  ∃ place : Fin xs.length ≃ Fin ys.length, (∀ i, ys[place i] = xs[i]) ∧
    ∀ i j, i < j → xs[i].selection.resource = xs[j].selection.resource → place i < place j

def ofResource (answers : List Answered) (resource : Resource) : List Answered :=
  answers.filter fun a => a.selection.resource = resource

/-- The places at which answers of a resource stand, in ascending order. -/
def placesOf (answers : List Answered) (resource : Resource) : List (Fin answers.length) :=
  (List.finRange answers.length).filter fun i => answers[i].selection.resource = resource

section Rearrangement
variable {xs ys : List Answered}

theorem mem_placesOf {answers : List Answered} {resource : Resource} {i : Fin answers.length} :
    i ∈ placesOf answers resource ↔ answers[i].selection.resource = resource := by
  simp [placesOf]

theorem placesOf_ascending (answers : List Answered) (resource : Resource) :
    (placesOf answers resource).Pairwise (· < ·) := (List.pairwise_lt_finRange _).filter _

theorem ofResource_eq_map (answers : List Answered) (resource : Resource) :
    ofResource answers resource = (placesOf answers resource).map (answers[·]) := by
  conv_lhs => rw [ofResource,← List.map_get_finRange answers,List.filter_map]
  rfl

/-- A rearrangement leaves the answers of each resource as they are. -/
theorem Rearranged.ofResource_eq (arranged : Rearranged xs ys) (resource : Resource) :
    ofResource xs resource = ofResource ys resource := by
  obtain ⟨place,same,kept⟩ := arranged
  -- The places of the resource correspond to each other, and in both lists they ascend.
  have moved : ((placesOf xs resource).map place).Pairwise (· < ·) := by
    refine List.pairwise_map.mpr ((placesOf_ascending xs resource).imp_of_mem ?_)
    intro i j first second before
    exact kept i j before ((mem_placesOf.mp first).trans (mem_placesOf.mp second).symm)
  have members (i : Fin ys.length) :
      i ∈ (placesOf xs resource).map place ↔ i ∈ placesOf ys resource := by
    obtain ⟨j,rfl⟩ := place.surjective i
    rw [List.mem_map_of_injective place.injective,mem_placesOf,mem_placesOf,same]
  have places : (placesOf xs resource).map place = placesOf ys resource :=
    moved.eq_of_mem_iff (placesOf_ascending ys resource) members
  rw [ofResource_eq_map,ofResource_eq_map,← places,List.map_map]
  exact List.map_congr_left fun i _ => (same i).symm

/-- Answers that are the same for each resource are the same answers in some order. -/
theorem perm_of_ofResource (same : ∀ resource, ofResource xs resource = ofResource ys resource) :
    xs.Perm ys := by
  refine List.perm_iff_count.mpr fun a => ?_
  have held (answers : List Answered) :
      (ofResource answers a.selection.resource).count a = answers.count a :=
    List.count_filter (by simp)
  rw [← held xs,← held ys,same]

end Rearrangement

section Series
variable {rows others : List Dated}

theorem dated_filter (answers : List Answered) (resource : Resource) :
    (dated answers).filter (fun d => d.resource = resource) = dated (ofResource answers resource) := by
  have named (a : Answered) :
      ∀ d ∈ a.rows.filterMap (dated? a.selection.resource), d.resource = a.selection.resource := by
    intro d member
    obtain ⟨row,_,stamped⟩ := List.mem_filterMap.mp member
    obtain ⟨t,_,rfl⟩ := Option.map_eq_some_iff.mp stamped
    rfl
  induction answers with
  | nil => rfl
  | cons a answers ih =>
    simp only [dated,ofResource,List.flatMap_cons,List.filter_append,List.filter_cons] at ih ⊢
    rw [ih]
    by_cases own : a.selection.resource = resource
    · have all : (a.rows.filterMap (dated? a.selection.resource)).filter
          (fun d => d.resource = resource) = a.rows.filterMap (dated? a.selection.resource) :=
        List.filter_eq_self.mpr fun d member => by simp [named a d member,own]
      rw [all,if_pos (by simpa using own),List.flatMap_cons]
    · have none : (a.rows.filterMap (dated? a.selection.resource)).filter
          (fun d => d.resource = resource) = [] :=
        List.filter_eq_nil_iff.mpr fun d member => by simp [named a d member,own]
      rw [none,if_neg (by simpa using own),List.nil_append]

theorem stamps_congr (same : ∀ d, d ∈ rows ↔ d ∈ others) : stamps rows = stamps others := by
  have irreflexive : Std.Irrefl fun a b : DateTime => a < b := ⟨DateTime.lt_irrefl⟩
  have antisymmetric : Std.Antisymm fun a b : DateTime => a < b :=
    ⟨fun a _ below above => (DateTime.lt_irrefl a (DateTime.lt_trans below above)).elim⟩
  refine (stamps_ascending rows).eq_of_mem_iff (stamps_ascending others) fun t => ?_
  simp only [mem_stamps,same]

theorem buckets_alike
    (same : ∀ resource, rows.filter (fun d => d.resource = resource) =
      others.filter fun d => d.resource = resource) :
    List.Forall₂ Point.Alike (buckets rows) (buckets others) := by
  have members (d : Dated) : d ∈ rows ↔ d ∈ others := by
    have here := congrArg (d ∈ ·) (same d.resource)
    simpa using here
  have alike (t : DateTime) : Point.Alike (pointAt rows t) (pointAt others t) := by
    refine Point.alike_of_rowsAmong (fun resource => ?_) _
    have own (rows : List Dated) : Point.rowsAmong (entriesAt rows t) resource =
        ((rows.filter fun d => d.resource = resource).filter fun d => d.timestamp = t).map (·.row) := by
      rw [rowsAmong_entriesAt,List.filter_filter,List.filter_filter]
      simp only [Bool.and_comm]
    rw [own,own,same]
  rw [buckets_eq,buckets_eq,stamps_congr members,List.forall₂_map_left_iff,
    List.forall₂_map_right_iff]
  exact List.forall₂_same.mpr fun t _ => alike t

end Series

section Results
variable {xs ys : List Answered} {order : SortOrder}

private theorem isSeries_congr (same : xs.Perm ys) : isSeries xs = isSeries ys := same.any_eq

private theorem undated_congr (same : xs.Perm ys) : undated xs = undated ys :=
  (same.flatMap_right _).countP_eq _

private theorem mergeTrace_congr (series : isSeries xs = isSeries ys)
    (undated : undated xs = undated ys) : Service.mergeTrace xs = Service.mergeTrace ys := by
  rw [Service.mergeTrace,Service.mergeTrace,leftOut,leftOut,series,undated]

private theorem directed_alike {front back : List Point} (alike : List.Forall₂ Point.Alike front back) :
    List.Forall₂ Point.Alike (directed order front) (directed order back) := by
  cases order with
  | ascending => exact alike
  | descending => exact List.forall₂_reverse_iff.mpr alike

/-- The answers of each resource, one after the other, are all that points hold. -/
theorem points_alike (same : ∀ resource, ofResource xs resource = ofResource ys resource)
    (order : SortOrder) : List.Forall₂ Point.Alike (points xs order) (points ys order) := by
  have series : isSeries xs = isSeries ys := isSeries_congr (perm_of_ofResource same)
  rw [points,points,series]
  split
  · refine directed_alike (buckets_alike fun resource => ?_)
    rw [dated_filter,dated_filter,same]
  · have rows (resource : Resource) : rowsFor xs resource = rowsFor ys resource :=
      congrArg (fun own => own.flatMap (·.rows)) (same resource)
    refine .cons (Point.alike_of_rowsAmong (fun resource => ?_) none) .nil
    rw [rowsAmong_answers,rowsAmong_answers,rows]

/-- Answers of one selection that follow each other may be one answer. -/
theorem points_divided (front back : List Answered) (s : Selection) (first second : List Row)
    (order : SortOrder) :
    points (front ++ ⟨s,first ++ second⟩ :: back) order =
      points (front ++ ⟨s,first⟩ :: ⟨s,second⟩ :: back) order := by
  have series : isSeries (front ++ ⟨s,first ++ second⟩ :: back) =
      isSeries (front ++ ⟨s,first⟩ :: ⟨s,second⟩ :: back) := by
    simp [isSeries]
  have rows : dated (front ++ ⟨s,first ++ second⟩ :: back) =
      dated (front ++ ⟨s,first⟩ :: ⟨s,second⟩ :: back) := by
    simp [dated]
  have whole : aggregate (front ++ ⟨s,first ++ second⟩ :: back) =
      aggregate (front ++ ⟨s,first⟩ :: ⟨s,second⟩ :: back) := by
    simp [aggregate,Point.insertAll,Point.insert_append]
  rw [points,points,series,rows,whole]

/-- Points depend neither on the order in which different resources are answered nor on how the rows of
a selection are divided. In another arrangement of the answers, one that keeps those of each resource in
their order, there are points of the same times, each with the same rows of each resource; and a selection
that is answered in two parts gives the very points that it gives at once. As many rows are left out,
and the same is noted of them. -/
theorem points_arranged (order : SortOrder) :
    (∀ xs ys, Rearranged xs ys →
      List.Forall₂ Point.Alike (points xs order) (points ys order) ∧ undated xs = undated ys ∧
        Service.mergeTrace xs = Service.mergeTrace ys) ∧
    ∀ front back s first second,
      points (front ++ ⟨s,first ++ second⟩ :: back) order =
          points (front ++ ⟨s,first⟩ :: ⟨s,second⟩ :: back) order ∧
        undated (front ++ ⟨s,first ++ second⟩ :: back) =
          undated (front ++ ⟨s,first⟩ :: ⟨s,second⟩ :: back) ∧
        Service.mergeTrace (front ++ ⟨s,first ++ second⟩ :: back) =
          Service.mergeTrace (front ++ ⟨s,first⟩ :: ⟨s,second⟩ :: back) := by
  constructor
  · intro xs ys arranged
    have same := arranged.ofResource_eq
    have perm := perm_of_ofResource same
    exact ⟨points_alike same order,undated_congr perm,
      mergeTrace_congr (isSeries_congr perm) (undated_congr perm)⟩
  · intro front back s first second
    have count : undated (front ++ ⟨s,first ++ second⟩ :: back) =
        undated (front ++ ⟨s,first⟩ :: ⟨s,second⟩ :: back) := by
      simp [undated]
    refine ⟨points_divided front back s first second order,count,mergeTrace_congr ?_ count⟩
    simp [isSeries]

end Results

section Noon

/-- Customers before two answers for mints. -/
def customersFirst : List Answered :=
  [dailyAnswer .customers [noonRow 2],dailyAnswer .mints [noonRow 1],dailyAnswer .mints [noonRow 3]]

/-- The same answers with the customers between the two for mints. -/
def mintsFirst : List Answered :=
  [dailyAnswer .mints [noonRow 1],dailyAnswer .customers [noonRow 2],dailyAnswer .mints [noonRow 3]]

/-- The points of both arrangements are alike though the resources come in differently. -/
theorem points_arranged_noon : Rearranged customersFirst mintsFirst ∧
    List.Forall₂ Point.Alike (points customersFirst .ascending) (points mintsFirst .ascending) ∧
    (points customersFirst .ascending).map (·.resources) =
      [[(.customers,[noonRow 2]),(.mints,[noonRow 1,noonRow 3])]] ∧
    (points mintsFirst .ascending).map (·.resources) =
      [[(.mints,[noonRow 1,noonRow 3]),(.customers,[noonRow 2])]] := by
  have arranged : Rearranged customersFirst mintsFirst :=
    ⟨(Equiv.swap 0 1 : Equiv.Perm (Fin 3)),by decide,by decide⟩
  exact ⟨arranged,((points_arranged .ascending).1 _ _ arranged).1,by decide,by decide⟩

end Noon
end Timeline
end ScopedAnalytics
