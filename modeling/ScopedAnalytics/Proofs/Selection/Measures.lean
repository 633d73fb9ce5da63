import ScopedAnalytics.Proofs.Selection.Requested

/-! Measures added to selections. A selection takes at its end the measures of its resource that it lacks
and is otherwise as it was, whatever is added to others; a resource without a selection gets one after
all others. -/
namespace ScopedAnalytics

section Distinct
variable {α : Type} [DecidableEq α]

/-- Items put into a list one after the other stand after it, those that it lacks and each once. -/
theorem foldl_appendNew (items held : List α) :
    items.foldl appendNew held = held ++ (items.filter (· ∉ held)).eraseDups := by
  induction items using List.reverseRecOn with
  | nil => simp
  | append_singleton items item ih =>
    rw [List.foldl_concat,ih,List.filter_append]
    by_cases present : item ∈ held
    · simp [appendNew,present]
    · have alone : [item].filter (· ∉ held) = [item] := by simp [present]
      rw [alone,eraseDups_concat]
      by_cases known : item ∈ items <;> simp [appendNew,present,known]

theorem eraseDups_append_self (items : List α) : (items ++ items).eraseDups = items.eraseDups := by
  have none : items.eraseDups.filter (· ∉ items) = [] :=
    List.filter_eq_nil_iff.mpr fun item member => by simpa using List.mem_eraseDups.mp member
  rw [eraseDups_append_filter,none,List.append_nil]

end Distinct

namespace Selection

/-- The measures of its resource that a selection lacks, each once, in the order in which they first
come. -/
def lacking (measures : List Measure) (s : Selection) : List Measure :=
  (measures.filter fun m => m.resource = s.resource ∧ m ∉ s.measures).eraseDups

def extended (measures : List Measure) (s : Selection) : Selection :=
  { s with measures := s.measures ++ s.lacking measures }

theorem lacking_eq (measures : List Measure) (s : Selection) :
    s.lacking measures =
      ((measures.filter (·.resource = s.resource)).filter (· ∉ s.measures)).eraseDups := by
  rw [lacking,List.filter_filter]
  simp only [Bool.decide_and,Bool.and_comm]

theorem foldl_addMeasure (measures : List Measure) (s : Selection) :
    measures.foldl (fun s m => s.addMeasure m) s =
      { s with measures := measures.foldl appendNew s.measures } := by
  induction measures generalizing s with
  | nil => rfl
  | cons m measures ih => exact ih (s.addMeasure m)

end Selection

namespace Selections

/-- What is asked of selections by measures alone. -/
def additions (measures : List Measure) : List Change :=
  measures.map fun m => (m.resource,Selection.addMeasure m)

theorem additions_isOwn (measures : List Measure) : ∀ change ∈ additions measures, IsOwn change := by
  intro change member
  obtain ⟨m,_,rfl⟩ := List.mem_map.mp member
  exact fun _ => rfl

theorem altered_additions (measures : List Measure) (s : Selection) :
    altered (additions measures) s = s.extended measures := by
  have own : (additions measures).filter (·.1 = s.resource) =
      additions (measures.filter (·.resource = s.resource)) := List.filter_map
  rw [altered,own,additions,List.map_map,List.foldl_map,Selection.extended,Selection.lacking_eq,
    ← foldl_appendNew]
  exact Selection.foldl_addMeasure _ s

section Adding
variable {selections : List Selection}

/-- Every selection is extended, and a resource without one gets it at the end, in the order in which
measures first name resources. -/
theorem addMeasures_eq (distinct : (selections.map (·.resource)).Nodup) (measures : List Measure) :
    addMeasures selections measures =
      (completed selections (measures.map (·.resource))).map (·.extended measures) := by
  have added := foldl_adjust_of_distinct (additions_isOwn measures) distinct
  rw [funext (altered_additions measures),additions,List.foldl_map,List.map_map] at added
  exact added

/-- What is added to a selection depends on the measures of its resource only. -/
theorem extended_congr {measures others : List Measure}
    (same : ∀ resource, measures.filter (·.resource = resource) = others.filter (·.resource = resource))
    (s : Selection) : s.extended measures = s.extended others := by
  rw [Selection.extended,Selection.extended,Selection.lacking_eq,Selection.lacking_eq,same]

theorem newResources_perm {measures others : List Measure}
    (same : ∀ resource, measures.filter (·.resource = resource) = others.filter (·.resource = resource)) :
    (newResources selections (measures.map (·.resource))).Perm
      (newResources selections (others.map (·.resource))) := by
  have named (measures : List Measure) (resource : Resource) :
      resource ∈ measures.map (·.resource) ↔ measures.filter (·.resource = resource) ≠ [] := by
    simp [List.filter_eq_nil_iff]
  refine ((List.perm_ext_iff_of_nodup (eraseDups_nodup _) (eraseDups_nodup _)).mpr
    fun resource => ?_).filter _
  rw [List.mem_eraseDups,List.mem_eraseDups,named,named,same]

theorem addMeasures_append (selections : List Selection) (measures more : List Measure) :
    addMeasures (addMeasures selections measures) more = addMeasures selections (measures ++ more) :=
  List.foldl_append.symm

/-- Measures that are added once more change nothing. -/
theorem addMeasures_again (distinct : (selections.map (·.resource)).Nodup) (measures : List Measure) :
    addMeasures (addMeasures selections measures) measures = addMeasures selections measures := by
  have extended (s : Selection) : s.extended (measures ++ measures) = s.extended measures := by
    rw [Selection.extended,Selection.lacking,List.filter_append,eraseDups_append_self]
    rfl
  rw [addMeasures_append,addMeasures_eq distinct,addMeasures_eq distinct,funext extended,
    List.map_append,completed,newResources,eraseDups_append_self]
  rfl

/-- How measures add up. They can be added at once or in parts, and again without a change. Each selection
keeps its place and all that it has and takes at its end the measures of its resource that it lacks;
selections of further resources follow after all others. Measures in another order, but in the same one
for each resource, make a difference in the order of those further selections only. -/
theorem measures_add_up (distinct : (selections.map (·.resource)).Nodup) (measures : List Measure) :
    (∀ more, addMeasures (addMeasures selections measures) more =
      addMeasures selections (measures ++ more)) ∧
    addMeasures (addMeasures selections measures) measures = addMeasures selections measures ∧
    addMeasures selections measures = selections.map (·.extended measures) ++
      (newResources selections (measures.map (·.resource))).map (fun resource =>
        (Selection.blank resource).extended measures) ∧
    ∀ others : List Measure,
      (∀ resource, measures.filter (·.resource = resource) = others.filter (·.resource = resource)) →
      ∃ further different,
        addMeasures selections measures = selections.map (·.extended measures) ++ further ∧
        addMeasures selections others = selections.map (·.extended measures) ++ different ∧
        further.Perm different := by
  have parts (measures : List Measure) : addMeasures selections measures =
      selections.map (·.extended measures) ++ (newResources selections (measures.map (·.resource))).map
        fun resource => (Selection.blank resource).extended measures := by
    rw [addMeasures_eq distinct,completed,List.map_append,List.map_map]
    rfl
  refine ⟨addMeasures_append selections measures,addMeasures_again distinct measures,parts measures,?_⟩
  intro others same
  have extended : Selection.extended others = Selection.extended measures :=
    funext fun s => (extended_congr same s).symm
  refine ⟨_,_,parts measures,?_,(newResources_perm same).map _⟩
  rw [parts others,extended]

end Adding

section Example

def countedMints : List Selection := [⟨.mints,[⟨.mints,.count⟩],[],false⟩]

/-- Wallets before mints: the change of mints is added to the count, and wallets come last. -/
theorem measures_add_up_wallets : (countedMints.map (·.resource)).Nodup ∧
    addMeasures (addMeasures countedMints [⟨.wallets,.count⟩])
        [⟨.mints,.change⟩,⟨.mints,.count⟩] =
      addMeasures countedMints [⟨.wallets,.count⟩,⟨.mints,.change⟩,⟨.mints,.count⟩] ∧
    addMeasures countedMints [⟨.wallets,.count⟩,⟨.mints,.change⟩,⟨.mints,.count⟩] =
      [⟨.mints,[⟨.mints,.count⟩,⟨.mints,.change⟩],[],false⟩,
        ⟨.wallets,[⟨.wallets,.count⟩],[],false⟩] := by
  have distinct : (countedMints.map (·.resource)).Nodup := by decide
  exact ⟨distinct,(measures_add_up distinct [⟨.wallets,.count⟩]).1 _,by decide⟩

end Example
end Selections
end ScopedAnalytics
