import ScopedAnalytics.Proofs.Except
import ScopedAnalytics.Proofs.Point.Union

/-! The points that steps make, and what two or three of them are merged to. Such a point is made by
rows that come in one after the other, so merging is a matter of the rows and of the one bucket. -/
namespace ScopedAnalytics.Point

/-- Points that are made from blank ones by putting rows in and by merging. -/
inductive Reachable : Point → Prop
  | blank (timestamp : Option DateTime) : Reachable (blank timestamp)
  | insert {p : Point} (resource : Resource) (rows : List Row) (made : Reachable p) :
      Reachable (p.insert resource rows)
  | merge {a b merged : Point} (left : Reachable a) (right : Reachable b)
      (ok : a.merge b = .ok merged) : Reachable merged

def listed (p : Point) : List Resource := p.resources.map (·.1)

/-- A point is what two points are merged to: the rows of each resource are those of the left point and
then those of the right one, the resources are those of the left point and then the new ones of the
right one, and the bucket is that of the right point only if it has rows and the left one has none. -/
structure IsMergeOf (a b merged : Point) : Prop where
  rows : ∀ resource, merged.rowsOf resource = a.rowsOf resource ++ b.rowsOf resource
  listed : merged.listed = a.listed ++ b.listed.filter (· ∉ a.listed)
  timestamp : merged.timestamp =
    if a.isEmpty = true ∧ b.isEmpty = false then b.timestamp else a.timestamp

theorem isEmpty_iff_listed {p : Point} : p.isEmpty = true ↔ p.listed = [] := by
  rw [isEmpty,listed,List.isEmpty_iff,List.map_eq_nil_iff]

theorem IsMergeOf.isEmpty_iff {a b merged : Point} (merges : IsMergeOf a b merged) :
    merged.isEmpty = true ↔ a.isEmpty = true ∧ b.isEmpty = true := by
  simp only [isEmpty_iff_listed,merges.listed,List.append_eq_nil_iff]
  refine and_congr_right fun none => ?_
  simp [none]

section Entries
variable {entries front back : List (Resource × List Row)} {timestamp : Option DateTime}

theorem contributors_append (front back : List (Resource × List Row)) :
    contributors (front ++ back) =
      contributors front ++ (contributors back).filter (· ∉ contributors front) := by
  simp only [contributors,List.filter_append,List.map_append,eraseDups_append_filter,
    List.mem_eraseDups]

theorem listed_insertAll_blank (timestamp : Option DateTime)
    (entries : List (Resource × List Row)) :
    ((blank timestamp).insertAll entries).listed = contributors entries := by
  rw [listed,insertAll_blank_resources,grouped,List.map_map]
  exact List.map_id _

theorem isEmpty_insertAll_blank :
    ((blank timestamp).insertAll entries).isEmpty = true ↔ contributors entries = [] := by
  rw [isEmpty_iff_listed,listed_insertAll_blank]

theorem insertAll_of_no_contributors (p : Point) (void : contributors entries = []) :
    p.insertAll entries = p := by
  have rowless : ∀ entry ∈ entries, entry.2 = [] := fun entry member =>
    Classical.not_not.mp fun filled =>
      List.not_mem_nil (void ▸ mem_contributors.mpr ⟨entry,member,rfl,filled⟩)
  clear void
  induction entries with
  | nil => rfl
  | cons entry entries ih =>
    have kept : p.insert entry.1 entry.2 = p := by simp [insert,rowless entry List.mem_cons_self]
    rw [insertAll,List.foldl_cons,kept]
    exact ih fun other member => rowless other (List.mem_cons_of_mem entry member)

end Entries

section Merge
variable {a b c merged : Point} {conflict : Conflict}

theorem merge_of_apart (filledA : a.isEmpty = false) (filledB : b.isEmpty = false)
    (apart : a.timestamp ≠ b.timestamp) : a.merge b = .error ⟨a.timestamp,b.timestamp⟩ := by
  simp [merge,filledA,filledB,apart]

theorem merge_error_iff : a.merge b = .error conflict ↔ a.isEmpty = false ∧ b.isEmpty = false ∧
    a.timestamp ≠ b.timestamp ∧ conflict = ⟨a.timestamp,b.timestamp⟩ := by
  constructor
  · intro fails
    unfold merge at fails
    split at fails
    · cases fails
    · rename_i filledB
      split at fails
      · cases fails
      · rename_i filledA
        split at fails
        · rename_i apart
          exact ⟨by simpa using filledA,by simpa using filledB,apart,(Except.error.inj fails).symm⟩
        · cases fails
  · rintro ⟨filledA,filledB,apart,rfl⟩
    exact merge_of_apart filledA filledB apart

/-- Two points that rows made are merged unless both have rows and the buckets differ. What they are
merged to is made by the rows of both. -/
theorem merge_entries_iff {t u : Option DateTime} {front back : List (Resource × List Row)} :
    ((blank t).insertAll front).merge ((blank u).insertAll back) = .ok merged ↔
      (contributors front = [] ∨ contributors back = [] ∨ t = u) ∧
        merged = (blank (if contributors front = [] ∧ contributors back ≠ [] then u else t)).insertAll
          (front ++ back) := by
  by_cases voidB : contributors back = []
  · rw [merge_of_isEmpty_right (isEmpty_insertAll_blank.mpr voidB)]
    simp [voidB,insertAll_append,insertAll_of_no_contributors _ voidB,@eq_comm _ merged]
  · have filledB : ¬((blank u).insertAll back).isEmpty = true := mt isEmpty_insertAll_blank.mp voidB
    by_cases voidA : contributors front = []
    · rw [merge_of_isEmpty_left (isEmpty_insertAll_blank.mpr voidA) filledB]
      simp [voidA,voidB,insertAll_append,insertAll_of_no_contributors _ voidA,@eq_comm _ merged]
    · have filledA : ¬((blank t).insertAll front).isEmpty = true :=
        mt isEmpty_insertAll_blank.mp voidA
      by_cases same : t = u
      · subst same
        rw [merge_insertAll]
        simp [voidA,@eq_comm _ merged]
      · have apart : ((blank t).insertAll front).timestamp ≠ ((blank u).insertAll back).timestamp := by
          simpa only [insertAll_timestamp,blank] using same
        rw [merge_of_apart (by simpa using filledA) (by simpa using filledB) apart]
        simp [voidA,voidB,same]

theorem Reachable.entries {p : Point} (made : Reachable p) :
    ∃ entries, p = (Point.blank p.timestamp).insertAll entries := by
  induction made with
  | blank timestamp => exact ⟨[],rfl⟩
  | @insert p resource rows _ ih =>
    obtain ⟨entries,same⟩ := ih
    have kept : (p.insert resource rows).timestamp = p.timestamp :=
      insertAll_timestamp p [(resource,rows)]
    exact ⟨entries ++ [(resource,rows)],by rw [insertAll_concat,kept,← same]⟩
  | merge _ _ ok left right =>
    obtain ⟨front,first⟩ := left
    obtain ⟨back,second⟩ := right
    rw [first,second] at ok
    obtain ⟨_,rfl⟩ := merge_entries_iff.mp ok
    exact ⟨front ++ back,by rw [insertAll_timestamp]; rfl⟩

theorem Reachable.isMergeOf (left : Reachable a) (right : Reachable b)
    (ok : a.merge b = .ok merged) : IsMergeOf a b merged := by
  obtain ⟨front,first⟩ := left.entries
  obtain ⟨back,second⟩ := right.entries
  rw [first,second] at ok ⊢
  obtain ⟨_,rfl⟩ := merge_entries_iff.mp ok
  constructor
  case rows =>
    intro resource
    simp only [rowsOf_insertAll_blank,rowsAmong_append]
  case listed =>
    simp only [listed_insertAll_blank,contributors_append]
  case timestamp =>
    simp only [insertAll_timestamp,isEmpty_insertAll_blank,← Bool.not_eq_true,ne_eq]
    rfl

end Merge

section Associativity
variable {a b c : Point}

/-- Three points with rows are merged in either order if all are of one bucket, and to the point of all
their rows. -/
private theorem merge_assoc_of_filled {t u v : Option DateTime}
    {xs ys zs : List (Resource × List Row)} (filledA : contributors xs ≠ [])
    (filledB : contributors ys ≠ []) (filledC : contributors zs ≠ []) (merged : Point) :
    (((blank t).insertAll xs).merge ((blank u).insertAll ys) >>= fun ab =>
        ab.merge ((blank v).insertAll zs)) = .ok merged ↔
      (((blank u).insertAll ys).merge ((blank v).insertAll zs) >>= fun bc =>
        ((blank t).insertAll xs).merge bc) = .ok merged := by
  have either (front back : List (Resource × List Row)) (filled : contributors front ≠ []) :
      contributors (front ++ back) ≠ [] := by simp [contributors_append,filled]
  simp only [except_bind_ok_iff,merge_entries_iff,filledA,filledB,filledC,either,ne_eq,
    not_false_eq_true,false_or,false_and,if_false,and_assoc,exists_and_left,
    exists_eq_left,List.append_assoc]
  constructor
  · rintro ⟨rfl,rfl,rfl⟩
    exact ⟨rfl,rfl,rfl⟩
  · rintro ⟨rfl,rfl,rfl⟩
    exact ⟨rfl,rfl,rfl⟩

/-- It makes no difference which of two merges comes first. -/
theorem Reachable.merge_assoc (first : Reachable a) (second : Reachable b) (third : Reachable c)
    (merged : Point) :
    (a.merge b >>= fun ab => ab.merge c) = .ok merged ↔
      (b.merge c >>= fun bc => a.merge bc) = .ok merged := by
  -- A point without rows gives way to the others, wherever it stands.
  by_cases voidC : c.isEmpty = true
  · simp only [except_bind_ok_iff,merge_of_isEmpty_right voidC,Except.ok.injEq,exists_eq_right,
      exists_eq_left']
  · by_cases voidB : b.isEmpty = true
    · simp only [except_bind_ok_iff,merge_of_isEmpty_right voidB,merge_of_isEmpty_left voidB voidC,
        Except.ok.injEq,exists_eq_left']
    · by_cases voidA : a.isEmpty = true
      · have kept {bc : Point} (ok : b.merge c = .ok bc) : a.merge bc = .ok bc := by
          have filled : ¬bc.isEmpty = true := fun void =>
            voidB ((second.isMergeOf third ok).isEmpty_iff.mp void).1
          exact merge_of_isEmpty_left voidA filled
        simp only [except_bind_ok_iff,merge_of_isEmpty_left voidA voidB,Except.ok.injEq,exists_eq_left']
        constructor
        · intro ok
          exact ⟨merged,ok,kept ok⟩
        · rintro ⟨bc,ok,same⟩
          rw [kept ok] at same
          exact Except.ok.inj same ▸ ok
      · obtain ⟨xs,madeA⟩ := first.entries
        obtain ⟨ys,madeB⟩ := second.entries
        obtain ⟨zs,madeC⟩ := third.entries
        rw [madeA] at voidA
        rw [madeB] at voidB
        rw [madeC] at voidC
        rw [madeA,madeB,madeC]
        exact merge_assoc_of_filled (mt isEmpty_insertAll_blank.mpr voidA)
          (mt isEmpty_insertAll_blank.mpr voidB) (mt isEmpty_insertAll_blank.mpr voidC) merged

/-- What merging means for points that steps make. Two of them cannot be merged if and only if both have
rows and the buckets differ, and otherwise the rows of the left one are followed by those of the right one.
A point without rows leaves every other as it is, whatever its bucket and on either side. Of three points
it makes no difference which two are merged first, neither to what comes out nor to whether anything
does. -/
theorem merge_laws (first : Reachable a) (second : Reachable b) (third : Reachable c) :
    (∀ conflict, a.merge b = .error conflict ↔ a.isEmpty = false ∧ b.isEmpty = false ∧
      a.timestamp ≠ b.timestamp ∧ conflict = ⟨a.timestamp,b.timestamp⟩) ∧
    (¬(a.isEmpty = false ∧ b.isEmpty = false ∧ a.timestamp ≠ b.timestamp) →
      ∃ merged, a.merge b = .ok merged ∧ IsMergeOf a b merged) ∧
    (∀ void : Point, void.isEmpty = true → a.isEmpty = false →
      void.merge a = .ok a ∧ a.merge void = .ok a) ∧
    ((∃ conflict, (a.merge b >>= fun ab => ab.merge c) = .error conflict) ↔
      ∃ conflict, (b.merge c >>= fun bc => a.merge bc) = .error conflict) ∧
    ∀ merged, (a.merge b >>= fun ab => ab.merge c) = .ok merged ↔
      (b.merge c >>= fun bc => a.merge bc) = .ok merged := by
  have assoc := first.merge_assoc second third
  refine ⟨fun _ => merge_error_iff,?_,?_,?_,assoc⟩
  · intro mergeable
    cases joined : a.merge b with
    | error conflict =>
      obtain ⟨filledA,filledB,apart,_⟩ := merge_error_iff.mp joined
      exact absurd ⟨filledA,filledB,apart⟩ mergeable
    | ok merged => exact ⟨merged,rfl,first.isMergeOf second joined⟩
  · intro void none filled
    exact ⟨merge_of_isEmpty_left none (by simp [filled]),merge_of_isEmpty_right none⟩
  · rw [except_error_iff,except_error_iff]
    exact forall_congr' fun merged => not_congr (assoc merged)

end Associativity

section Dawn

def dawn : DateTime := ⟨⟨2023,3,9,by decide⟩,⟨5,0,0,0,by decide⟩⟩

def dawnRow (count : Int) : Row := { Row.empty with count := some count, timestamp := some dawn }

def mintsAtDawn : Point := (blank (some dawn)).insert .mints [dawnRow 1]

def customersAtDawn : Point :=
  ((blank (some dawn)).insert .customers [dawnRow 2]).insert .mints [dawnRow 3]

/-- Between two points of one bucket stands one without rows and without a bucket. -/
theorem merge_laws_dawn :
    Reachable mintsAtDawn ∧ Reachable (blank none) ∧ Reachable customersAtDawn ∧
    (mintsAtDawn.merge (blank none) >>= fun ab => ab.merge customersAtDawn) =
      .ok ⟨some dawn,[(.mints,[dawnRow 1,dawnRow 3]),(.customers,[dawnRow 2])]⟩ ∧
    ((blank none).merge customersAtDawn >>= fun bc => mintsAtDawn.merge bc) =
      .ok ⟨some dawn,[(.mints,[dawnRow 1,dawnRow 3]),(.customers,[dawnRow 2])]⟩ := by
  have first : Reachable mintsAtDawn := .insert _ _ (.blank _)
  have third : Reachable customersAtDawn := .insert _ _ (.insert _ _ (.blank _))
  have left : (mintsAtDawn.merge (blank none) >>= fun ab => ab.merge customersAtDawn) =
      .ok ⟨some dawn,[(.mints,[dawnRow 1,dawnRow 3]),(.customers,[dawnRow 2])]⟩ := rfl
  obtain ⟨_,_,_,_,assoc⟩ := merge_laws first (.blank none) third
  exact ⟨first,.blank none,third,left,(assoc _).mp left⟩

end Dawn
end ScopedAnalytics.Point
