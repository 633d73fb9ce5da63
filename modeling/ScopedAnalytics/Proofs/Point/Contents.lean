import Mathlib.Algebra.GroupWithZero.Nat
import Mathlib.Data.List.Induction
import Mathlib.Data.List.Nodup
import ScopedAnalytics.Timeline

/-! What a point holds. Rows that come in one after the other leave each resource listed once, in
the order in which the resources first have rows, with all of its rows in the order they came. -/
namespace ScopedAnalytics

section Distinct
variable {α : Type} [DecidableEq α]

theorem eraseDups_concat (items : List α) (item : α) :
    (items ++ [item]).eraseDups = appendNew items.eraseDups item := by
  rw [List.eraseDups_append]
  by_cases member : item ∈ items
  · simp [appendNew,List.removeAll,member]
  · simp [appendNew,List.removeAll,member,List.eraseDups_cons]

theorem appendNew_nodup {items : List α} (item : α) (distinct : items.Nodup) :
    (appendNew items item).Nodup := by
  unfold appendNew
  split
  · exact distinct
  · rename_i absent
    exact List.concat_eq_append ▸ distinct.concat absent

theorem eraseDups_nodup (items : List α) : items.eraseDups.Nodup := by
  induction items using List.reverseRecOn with
  | nil => simp
  | append_singleton items item ih =>
    rw [eraseDups_concat]
    exact appendNew_nodup item ih

/-- What is kept of a list that goes on: first what was kept before, then what is new. -/
theorem eraseDups_append_filter (front back : List α) :
    (front ++ back).eraseDups = front.eraseDups ++ back.eraseDups.filter (· ∉ front) := by
  induction back using List.reverseRecOn with
  | nil => simp
  | append_singleton back item ih =>
    rw [← List.append_assoc,eraseDups_concat,eraseDups_concat,ih]
    by_cases known : item ∈ back
    · simp [appendNew,known]
    · by_cases before : item ∈ front <;> simp [appendNew,known,before]

end Distinct

namespace Point

/-- The resources that have rows among entries, in the order in which they first have some. -/
def contributors (entries : List (Resource × List Row)) : List Resource :=
  ((entries.filter fun entry => !entry.2.isEmpty).map (·.1)).eraseDups

def rowsAmong (entries : List (Resource × List Row)) (resource : Resource) : List Row :=
  (entries.filter fun entry => entry.1 = resource).flatMap (·.2)

def size (p : Point) : Nat := (p.resources.map fun entry => entry.2.length).sum

theorem addRows_absent (resource : Resource) (rows : List Row)
    (held : List (Resource × List Row)) (absent : resource ∉ held.map (·.1)) :
    addRows resource rows held = held ++ [(resource,rows)] := by
  induction held with
  | nil => rfl
  | cons entry held ih =>
    obtain ⟨other,old⟩ := entry
    simp only [List.map_cons,List.mem_cons,not_or] at absent
    have different : other ≠ resource := fun same => absent.1 same.symm
    rw [addRows,if_neg different,ih absent.2,List.cons_append]

private theorem addRows_present (keys : List Resource) (held : Resource → List Row)
    (resource : Resource) (rows : List Row) (distinct : keys.Nodup) (present : resource ∈ keys) :
    addRows resource rows (keys.map fun key => (key,held key)) =
      keys.map fun key => (key,held key ++ if key = resource then rows else []) := by
  induction keys with
  | nil => simp at present
  | cons key keys ih =>
    obtain ⟨absent,distinct⟩ := List.nodup_cons.mp distinct
    by_cases same : key = resource
    · subst same
      have others : ∀ k ∈ keys, k ≠ key := fun k member same => absent (same ▸ member)
      have rest : (keys.map fun k => (k,held k ++ if k = key then rows else [])) =
          keys.map fun k => (k,held k) := by
        apply List.map_congr_left
        intro k member
        simp [others k member]
      rw [List.map_cons,List.map_cons,rest,addRows,if_pos rfl,if_pos rfl]
    · have inside : resource ∈ keys := by
        rcases List.mem_cons.mp present with first | later
        · exact absurd first.symm same
        · exact later
      simp [addRows,same,ih distinct inside]

theorem addRows_map (keys : List Resource) (held : Resource → List Row) (resource : Resource)
    (rows : List Row) (distinct : keys.Nodup) (blank : resource ∉ keys → held resource = []) :
    addRows resource rows (keys.map fun key => (key,held key)) =
      (appendNew keys resource).map fun key =>
        (key,held key ++ if key = resource then rows else []) := by
  by_cases present : resource ∈ keys
  · rw [addRows_present keys held resource rows distinct present]
    simp [appendNew,present]
  · have absent : resource ∉ (keys.map fun key => (key,held key)).map (·.1) := by
      simpa using present
    have others : ∀ key ∈ keys, key ≠ resource := fun key member same => present (same ▸ member)
    have kept : (keys.map fun key => (key,held key ++ if key = resource then rows else [])) =
        keys.map fun key => (key,held key) := by
      apply List.map_congr_left
      intro key member
      simp [others key member]
    rw [addRows_absent resource rows _ absent]
    simp [appendNew,present,kept,blank present]

theorem contributors_nodup (entries : List (Resource × List Row)) :
    (contributors entries).Nodup := eraseDups_nodup _

theorem insertAll_concat (p : Point) (entries : List (Resource × List Row))
    (entry : Resource × List Row) :
    p.insertAll (entries ++ [entry]) = (p.insertAll entries).insert entry.1 entry.2 := by
  simp [insertAll]

theorem mem_contributors {entries : List (Resource × List Row)} {resource : Resource} :
    resource ∈ contributors entries ↔ ∃ entry ∈ entries, entry.1 = resource ∧ entry.2 ≠ [] := by
  simp only [contributors,List.mem_eraseDups,List.mem_map,List.mem_filter,Bool.not_eq_true',
    List.isEmpty_eq_false_iff]
  constructor
  · rintro ⟨entry,⟨member,filled⟩,same⟩
    exact ⟨entry,member,same,filled⟩
  · rintro ⟨entry,member,same,filled⟩
    exact ⟨entry,⟨member,filled⟩,same⟩

theorem rowsAmong_eq_nil {entries : List (Resource × List Row)} {resource : Resource} :
    rowsAmong entries resource = [] ↔ resource ∉ contributors entries := by
  rw [mem_contributors]
  simp only [rowsAmong,List.flatMap_eq_nil_iff,List.mem_filter,decide_eq_true_eq,not_exists,
    not_and,ne_eq,not_not,and_imp]

private theorem contributors_concat (entries : List (Resource × List Row))
    (entry : Resource × List Row) : contributors (entries ++ [entry]) =
      if entry.2.isEmpty then contributors entries
      else appendNew (contributors entries) entry.1 := by
  unfold contributors
  split
  · rename_i void
    simp [void]
  · rename_i filled
    simp [filled,eraseDups_concat]

private theorem rowsAmong_concat (entries : List (Resource × List Row))
    (entry : Resource × List Row) (resource : Resource) :
    rowsAmong (entries ++ [entry]) resource =
      rowsAmong entries resource ++ if resource = entry.1 then entry.2 else [] := by
  by_cases same : entry.1 = resource
  · simp [rowsAmong,same]
  · simp [rowsAmong,same,Ne.symm same]

theorem insertAll_blank (timestamp : Option DateTime) (entries : List (Resource × List Row)) :
    (blank timestamp).insertAll entries =
      ⟨timestamp,(contributors entries).map fun resource => (resource,rowsAmong entries resource)⟩ := by
  induction entries using List.reverseRecOn with
  | nil => rfl
  | append_singleton entries entry ih =>
    rw [insertAll_concat,ih,contributors_concat,insert]
    by_cases void : entry.2.isEmpty
    · have gone : entry.2 = [] := List.isEmpty_iff.mp void
      simp only [void,if_true,Point.mk.injEq,true_and]
      apply List.map_congr_left
      intro resource _
      simp [rowsAmong_concat,gone]
    · simp only [void,Bool.false_eq_true,if_false,Point.mk.injEq,true_and]
      rw [addRows_map _ _ _ _ (contributors_nodup entries) (rowsAmong_eq_nil.mpr)]
      apply List.map_congr_left
      intro resource _
      rw [rowsAmong_concat]

theorem insertAll_timestamp (p : Point) (entries : List (Resource × List Row)) :
    (p.insertAll entries).timestamp = p.timestamp := by
  induction entries using List.reverseRecOn with
  | nil => rfl
  | append_singleton entries entry ih =>
    rw [insertAll_concat,insert]
    split
    · exact ih
    · exact ih

theorem rowsOf_insertAll_blank (timestamp : Option DateTime)
    (entries : List (Resource × List Row)) (resource : Resource) :
    ((blank timestamp).insertAll entries).rowsOf resource = rowsAmong entries resource := by
  have found : ∀ keys : List Resource,
      (keys.map fun key => (key,rowsAmong entries key)).lookup resource =
        if resource ∈ keys then some (rowsAmong entries resource) else none := by
    intro keys
    induction keys with
    | nil => rfl
    | cons key keys ih =>
      by_cases same : resource = key
      · simp [same]
      · have apart : (resource == key) = false := beq_false_of_ne same
        simp [List.lookup_cons,apart,same,ih]
  rw [rowsOf,insertAll_blank,found]
  by_cases listed : resource ∈ contributors entries
  · simp [listed]
  · simp [listed,rowsAmong_eq_nil.mpr listed]

private theorem addRows_size (resource : Resource) (rows : List Row)
    (held : List (Resource × List Row)) :
    ((addRows resource rows held).map fun entry => entry.2.length).sum =
      (held.map fun entry => entry.2.length).sum + rows.length := by
  induction held with
  | nil => simp [addRows]
  | cons entry held ih =>
    unfold addRows
    split
    · simp only [List.map_cons,List.sum_cons,List.length_append]
      omega
    · simp only [List.map_cons,List.sum_cons,ih]
      omega

theorem insert_size (p : Point) (resource : Resource) (rows : List Row) :
    (p.insert resource rows).size = p.size + rows.length := by
  unfold insert
  split
  · rename_i void
    simp [List.isEmpty_iff.mp void]
  · exact addRows_size resource rows p.resources

theorem insertAll_size (p : Point) (entries : List (Resource × List Row)) :
    (p.insertAll entries).size = p.size + (entries.map fun entry => entry.2.length).sum := by
  induction entries using List.reverseRecOn with
  | nil => simp [insertAll]
  | append_singleton entries entry ih =>
    rw [insertAll_concat,insert_size,ih]
    simp [Nat.add_assoc]

end Point
end ScopedAnalytics
