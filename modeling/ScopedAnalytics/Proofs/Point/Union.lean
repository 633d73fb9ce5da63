import ScopedAnalytics.Proofs.Point.Contents

/-! Two points of one bucket put together. The rows of a point go over into the other one resource by
resource, and the point that comes out is the one that all the rows make one after the other. -/
namespace ScopedAnalytics

theorem eraseDups_append_eraseDups {α : Type} [DecidableEq α] (front back : List α) :
    (front ++ back.eraseDups).eraseDups = (front ++ back).eraseDups := by
  induction back using List.reverseRecOn with
  | nil => simp
  | append_singleton back item ih =>
    rw [eraseDups_concat,← List.append_assoc,eraseDups_concat,← ih]
    by_cases known : item ∈ back
    · simp [appendNew,known]
    · have new : appendNew back.eraseDups item = back.eraseDups ++ [item] := by
        simp [appendNew,known]
      rw [new,← List.append_assoc,eraseDups_concat]

namespace Point

def grouped (entries : List (Resource × List Row)) : List (Resource × List Row) :=
  (contributors entries).map fun resource => (resource,rowsAmong entries resource)

theorem insertAll_blank_resources (timestamp : Option DateTime)
    (entries : List (Resource × List Row)) :
    ((blank timestamp).insertAll entries).resources = grouped entries := by
  rw [insertAll_blank,grouped]

theorem insertAll_append (p : Point) (front back : List (Resource × List Row)) :
    p.insertAll (front ++ back) = (p.insertAll front).insertAll back := List.foldl_append

private theorem contributors_grouped (front entries : List (Resource × List Row)) :
    contributors (front ++ grouped entries) = contributors (front ++ entries) := by
  have filled : (grouped entries).filter (fun entry => !entry.2.isEmpty) = grouped entries := by
    refine List.filter_eq_self.mpr fun entry member => ?_
    obtain ⟨resource,listed,rfl⟩ := List.mem_map.mp member
    have some : rowsAmong entries resource ≠ [] := fun none => rowsAmong_eq_nil.mp none listed
    simp [some]
  have names : (grouped entries).map (·.1) = contributors entries := by
    simp [grouped,Function.comp_def]
  calc contributors (front ++ grouped entries)
    _ = (((front.filter fun entry => !entry.2.isEmpty).map (·.1)) ++
          contributors entries).eraseDups := by
        rw [contributors,List.filter_append,filled,List.map_append,names]
    _ = contributors (front ++ entries) := by
        rw [contributors,eraseDups_append_eraseDups,contributors,List.filter_append,List.map_append]

theorem rowsAmong_append (front back : List (Resource × List Row)) (resource : Resource) :
    rowsAmong (front ++ back) resource = rowsAmong front resource ++ rowsAmong back resource := by
  simp [rowsAmong]

private theorem rowsAmong_map {keys : List Resource} (distinct : keys.Nodup)
    (held : Resource → List Row) (resource : Resource) :
    rowsAmong (keys.map fun key => (key,held key)) resource =
      if resource ∈ keys then held resource else [] := by
  induction keys with
  | nil => rfl
  | cons key keys ih =>
    obtain ⟨absent,distinct⟩ := List.nodup_cons.mp distinct
    rw [List.map_cons,← List.singleton_append,rowsAmong_append,ih distinct]
    by_cases same : key = resource
    · subst same
      simp [rowsAmong,absent]
    · simp [rowsAmong,same,Ne.symm same]

private theorem rowsAmong_grouped (entries : List (Resource × List Row)) (resource : Resource) :
    rowsAmong (grouped entries) resource = rowsAmong entries resource := by
  rw [grouped,rowsAmong_map (contributors_nodup entries)]
  split
  · rfl
  · rename_i unlisted
    exact (rowsAmong_eq_nil.mpr unlisted).symm

/-- Rows that come in resource by resource make the same point as rows that come in as they are. -/
theorem insertAll_append_grouped (timestamp : Option DateTime)
    (front entries : List (Resource × List Row)) :
    (blank timestamp).insertAll (front ++ grouped entries) =
      (blank timestamp).insertAll (front ++ entries) := by
  simp only [insertAll_blank,contributors_grouped,rowsAmong_append,rowsAmong_grouped]

theorem insertAll_grouped (timestamp : Option DateTime) (entries : List (Resource × List Row)) :
    (blank timestamp).insertAll (grouped entries) = (blank timestamp).insertAll entries :=
  insertAll_append_grouped timestamp [] entries

theorem merge_of_isEmpty_right {a b : Point} (void : b.isEmpty = true) : a.merge b = .ok a := by
  rw [merge,if_pos void]

theorem merge_of_isEmpty_left {a b : Point} (void : a.isEmpty = true)
    (filled : ¬b.isEmpty = true) : a.merge b = .ok b := by
  rw [merge,if_neg filled,if_pos void]

theorem merge_insertAll (timestamp : Option DateTime) (front back : List (Resource × List Row)) :
    ((blank timestamp).insertAll front).merge ((blank timestamp).insertAll back) =
      .ok ((blank timestamp).insertAll (front ++ back)) := by
  have apart : (blank timestamp).insertAll (front ++ back) =
      ((blank timestamp).insertAll (grouped front)).insertAll (grouped back) := by
    rw [insertAll_grouped,← insertAll_append,insertAll_append_grouped]
  have stamp (entries : List (Resource × List Row)) :
      ((blank timestamp).insertAll entries).timestamp = timestamp := insertAll_timestamp _ _
  rw [merge,apart]
  simp only [isEmpty,insertAll_blank_resources,stamp,ne_eq,not_true_eq_false,if_false]
  -- Where one side is empty the other is taken as it is, which is what no rows come in to.
  split
  · rename_i void
    rw [List.isEmpty_iff.mp void,insertAll_grouped]
    rfl
  · split
    · rename_i void
      have none : (blank timestamp).insertAll (grouped front) = blank timestamp := by
        rw [List.isEmpty_iff.mp void]
        rfl
      rw [none,insertAll_grouped]
    · rfl

end Point
end ScopedAnalytics
