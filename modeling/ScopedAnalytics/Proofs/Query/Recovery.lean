import Mathlib.Data.Set.List
import ScopedAnalytics.Proofs.Query.Naming
import ScopedAnalytics.Proofs.Service.Planning

/-! The selection of a query. A query that is built gives back what it was built of, whatever the
selection holds, and any other query has a selection exactly if all of its measures are measures. -/
namespace ScopedAnalytics

theorem Measure.mapM_read_ok_iff {names : List String} {measures : List Measure} :
    names.mapM Measure.read = .ok measures ↔ names = measures.map Measure.text := by
  rw [mapM_ok_iff,← List.forall₂_eq_eq_eq,List.forall₂_map_right_iff]
  simp only [Measure.read_ok_iff]

/-- The first of some names that is no measure, with all names before it measures, is refused. -/
def Measure.RefusesFirst (names : List String) (fault : UnknownWord) : Prop :=
  ∃ before name after, names = before ++ name :: after ∧
    (∀ earlier ∈ before, ∃ m : Measure, earlier = m.text) ∧ Measure.Refuses name fault

namespace Query
variable {q : Query} {s : Selection}

/-- The selection of a query is printed as the query is. -/
theorem selection_ok_iff : q.selection = .ok s ↔ q.measures = s.measures.map Measure.text ∧
    s.dimensions = q.dimensions ∧ s.resource = q.resource ∧
      s.hasTimestamp = q.timeDimension.granularity.isSome := by
  rw [selection,except_bind_ok_iff]
  simp only [Measure.mapM_read_ok_iff]
  constructor
  · rintro ⟨measures,read,ok⟩
    obtain rfl := Except.ok.inj ok
    exact ⟨read,rfl,rfl,rfl⟩
  · rintro ⟨read,dimensions,resource,timestamp⟩
    exact ⟨s.measures,read,congrArg Except.ok (by cases s; simp_all)⟩

theorem selection_error_iff {fault : UnknownWord} :
    q.selection = .error fault ↔ Measure.RefusesFirst q.measures fault := by
  rw [selection,except_bind_error,mapM_error]
  simp only [Measure.read_ok_iff,Measure.read_error_iff]
  constructor
  · rintro (refused | ⟨_,_,impossible⟩)
    · exact refused
    · cases impossible
  · exact .inl

theorem exists_selection_iff :
    (∃ s, q.selection = .ok s) ↔ ∀ name ∈ q.measures, ∃ m : Measure, name = m.text := by
  have printed : (∃ measures : List Measure, q.measures = measures.map Measure.text) ↔
      ∀ name ∈ q.measures, ∃ m : Measure, name = m.text := by
    have range := Set.ext_iff.mp (Set.range_list_map Measure.text) q.measures
    simpa only [Set.mem_range,Set.mem_ofPred_eq,eq_comm] using range
  rw [← printed]
  constructor
  · rintro ⟨s,ok⟩
    exact ⟨s.measures,(selection_ok_iff.mp ok).1⟩
  · rintro ⟨measures,read⟩
    exact ⟨⟨q.resource,measures,q.dimensions,_⟩,selection_ok_iff.mpr ⟨read,rfl,rfl,rfl⟩⟩

theorem selection_of_build {scope : Scope} {window : Window} {order : Option SortOrder}
    {limit : Option Int} (built : build s scope window order limit = .ok q) : q.selection = .ok s := by
  obtain ⟨_,rfl⟩ := build_ok_iff.mp built
  refine selection_ok_iff.mpr ⟨rfl,rfl,rfl,?_⟩
  cases timed : s.hasTimestamp <;> simp

/-- A selection is recovered from its query. Any selection has one for every scope, window and direction
and for a limit that is positive, if there is one, and that query has this selection. Whatever the query,
its selection is there exactly if its measures all are texts of measures, and then it has these measures
and the dimensions, the resource and the timestamp of the query; else the first name that is no measure is
refused. -/
theorem selection_is_recovered :
    (∀ (s : Selection) (scope : Scope) (window : Window) (order : Option SortOrder) (limit : Option Int),
      (∀ n, limit = some n → 0 < n) →
        ∃ q, build s scope window order limit = .ok q ∧ q.selection = .ok s) ∧
    ∀ q : Query,
      ((∃ s, q.selection = .ok s) ↔ ∀ name ∈ q.measures, ∃ m : Measure, name = m.text) ∧
      (∀ s, q.selection = .ok s → s.measures.map Measure.text = q.measures ∧
        s.dimensions = q.dimensions ∧ s.resource = q.resource ∧
        (s.hasTimestamp = true ↔ ∃ granularity, q.timeDimension.granularity = some granularity)) ∧
      ∀ fault, q.selection = .error fault ↔ Measure.RefusesFirst q.measures fault := by
  refine ⟨fun s scope window order limit positive => ?_,
    fun q => ⟨exists_selection_iff,fun s ok => ?_,fun _ => selection_error_iff⟩⟩
  · obtain ⟨q,built⟩ : ∃ q, build s scope window order limit = .ok q := ⟨_,build_ok_iff.mpr ⟨positive,rfl⟩⟩
    exact ⟨q,built,selection_of_build built⟩
  · obtain ⟨measures,dimensions,resource,timestamp⟩ := selection_ok_iff.mp ok
    rw [timestamp,Option.isSome_iff_exists]
    exact ⟨measures.symm,dimensions,resource,Iff.rfl⟩

/-- A selection of mints that has measures of other resources, and some twice. -/
def foreign : Selection :=
  ⟨.mints,[⟨.wallets,.change⟩,⟨.mints,.count⟩,⟨.wallets,.change⟩],["mints.project_id","","mints.project_id"],
    true⟩

/-- It is recovered from its query, and not from one with a name that has two points. -/
theorem selection_is_recovered_foreign :
    (∀ n : Int, some 1 = some n → 0 < n) ∧
    ∃ q, build foreign ⟨"p",.project⟩ ⟨.day,.named .all⟩ none (some 1) = .ok q ∧ q.selection = .ok foreign ∧
      { q with measures := ["mints.change","mints.count.x"] }.selection = .error ⟨"Operation","count.x"⟩ := by
  have positive : ∀ n : Int, some 1 = some n → 0 < n := by
    rintro n ⟨⟩
    decide
  obtain ⟨q,built,recovered⟩ := selection_is_recovered.1 foreign ⟨"p",.project⟩ ⟨.day,.named .all⟩ none
    (some 1) positive
  refine ⟨positive,q,built,recovered,((selection_is_recovered.2 _).2.2 _).mpr ?_⟩
  refine ⟨["mints.change"],"mints.count.x",[],rfl,?_,"mints","count.x",⟨by decide,.inl rfl⟩,.inr ?_⟩
  · intro earlier member
    exact ⟨⟨.mints,.change⟩,List.mem_singleton.mp member⟩
  · refine ⟨⟨.mints,rfl⟩,fun operation => ?_,rfl⟩
    cases operation <;> decide

end Query
end ScopedAnalytics
