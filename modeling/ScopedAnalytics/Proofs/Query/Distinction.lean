import ScopedAnalytics.Proofs.Calendar.TextOrder
import ScopedAnalytics.Proofs.Json.Same
import ScopedAnalytics.Proofs.Query.Naming
import ScopedAnalytics.Proofs.Service.Planning

/-! What the rendering of a query tells. No two queries that differ in more than their resource are
rendered to the same object, and the members of a query that is built tell its resource as well, so that
requests that differ are never rendered alike. -/
namespace ScopedAnalytics

section Words

theorem Granularity.name_injective : Function.Injective Granularity.name :=
  Vocabulary.word_injective fun g : Granularity => by cases g <;> decide

theorem SortOrder.name_injective : Function.Injective SortOrder.name :=
  Vocabulary.word_injective fun order : SortOrder => by cases order <;> decide

theorem ScopeKey.name_injective : Function.Injective ScopeKey.name :=
  Vocabulary.word_injective fun key : ScopeKey => by cases key <;> decide

theorem Interval.name_injective : Function.Injective Interval.name :=
  Vocabulary.word_injective fun interval : Interval => by cases interval <;> decide

end Words

namespace Window
variable {w w' : Window}

private theorem dateRange_named (granularity : Granularity) (interval : Interval) :
    dateRange ⟨granularity,.named interval⟩ =
      if interval = .all then none else some (.named interval.name) := by
  cases interval <;> rfl

/-- A date range tells the range of its window: all time has none, any other interval one of words, and
two dates one of theirs. -/
theorem dateRange_inj : w.dateRange = w'.dateRange ↔ w.range = w'.range := by
  obtain ⟨granularity,range⟩ := w
  obtain ⟨granularity',range'⟩ := w'
  constructor
  · intro same
    cases range with
    | named interval =>
      cases range' with
      | named other =>
        rw [dateRange_named,dateRange_named] at same
        by_cases all : interval = .all <;> by_cases all' : other = .all <;> simp [all,all'] at same
        · rw [all,all']
        · rw [Interval.name_injective same]
      | dates start finish =>
        rw [dateRange_named] at same
        split at same <;> simp [dateRange] at same
    | dates start finish =>
      cases range' with
      | named other =>
        rw [dateRange_named] at same
        split at same <;> simp [dateRange] at same
      | dates start' finish' =>
        simp only [dateRange,Option.some.injEq,DateRange.between.injEq,List.cons.injEq,and_true] at same
        rw [Date.iso_injective same.1,Date.iso_injective same.2]
  · rintro rfl
    rfl

end Window

namespace Query
open Json

section Rendering

theorem dateRangeJson_inj {range other : Window.DateRange}
    (same : Same (dateRangeJson range) (dateRangeJson other)) : range = other := by
  cases range with
  | named words =>
    cases other with
    | named words' => rw [Same.str_inj.mp same]
    | between dates => cases same
  | between dates =>
    cases other with
    | named words => cases same
    | between dates' => rw [Same.strs_inj same]

private theorem mem_timeDimension {d : TimeDimension} {name : String} {value : Json} :
    (name,value) ∈ [("dimension",Json.str d.dimension)] ++
        (d.granularity.map fun g => ("granularity",Json.str g.name)).toList ++
        (d.dateRange.map fun range => ("dateRange",dateRangeJson range)).toList ↔
      name = "dimension" ∧ value = .str d.dimension ∨
        (∃ g, d.granularity = some g ∧ name = "granularity" ∧ value = .str g.name) ∨
        ∃ range, d.dateRange = some range ∧ name = "dateRange" ∧ value = dateRangeJson range := by
  cases d.granularity <;> cases d.dateRange <;> simp

private theorem timeDimension_tells {d d' : TimeDimension} (same : Same d.toJson d'.toJson) :
    d.dimension = d'.dimension ∧ (∀ g, d.granularity = some g → d'.granularity = some g) ∧
      ∀ range, d.dateRange = some range → d'.dateRange = some range := by
  refine ⟨?_,fun g given => ?_,fun range given => ?_⟩
  · exact Same.str_inj.mp (same.values "dimension" (.str d.dimension) (.str d'.dimension) (by simp)
      (by simp))
  · obtain ⟨value,there,alike⟩ := same.member _ _ (mem_timeDimension.mpr (.inr (.inl ⟨g,given,rfl,rfl⟩)))
    obtain ⟨other,held,rfl⟩ : ∃ g, d'.granularity = some g ∧ value = .str g.name := by
      simpa using mem_timeDimension.mp there
    rw [held,Granularity.name_injective (Same.str_inj.mp alike)]
  · obtain ⟨value,there,alike⟩ := same.member _ _
      (mem_timeDimension.mpr (.inr (.inr ⟨range,given,rfl,rfl⟩)))
    obtain ⟨other,held,rfl⟩ : ∃ range, d'.dateRange = some range ∧ value = dateRangeJson range := by
      simpa using mem_timeDimension.mp there
    rw [held,dateRangeJson_inj alike]

theorem TimeDimension.toJson_inj {d d' : TimeDimension} (same : Same d.toJson d'.toJson) : d = d' := by
  obtain ⟨dimension,granularity,dateRange⟩ := timeDimension_tells same
  obtain ⟨_,granularity',dateRange'⟩ := timeDimension_tells same.symm
  have buckets : d.granularity = d'.granularity := Option.ext fun g => ⟨granularity g,granularity' g⟩
  have range : d.dateRange = d'.dateRange := Option.ext fun range => ⟨dateRange range,dateRange' range⟩
  cases d
  cases d'
  simp_all

theorem Filter.toJson_inj {f f' : Filter} (same : Same f.toJson f'.toJson) : f = f' := by
  have member := Same.str_inj.mp (same.values "member" (.str f.member) (.str f'.member) (by simp) (by simp))
  have operator := Same.str_inj.mp
    (same.values "operator" (.str f.operator) (.str f'.operator) (by simp) (by simp))
  have values := Same.strs_inj (same.values "values" (.strs f.values) (.strs f'.values) (by simp) (by simp))
  cases f
  cases f'
  simp_all

theorem order_inj {order order' : String × SortOrder}
    (same : Same (.ofMembers [(order.1,.str order.2.name)]) (.ofMembers [(order'.1,.str order'.2.name)])) :
    order = order' := by
  obtain ⟨direction,there,alike⟩ := same.member order.1 (.str order.2.name) (by simp)
  obtain ⟨field,rfl⟩ : order.1 = order'.1 ∧ direction = .str order'.2.name := by simpa using there
  exact Prod.ext field (SortOrder.name_injective (Same.str_inj.mp alike))

/-- What is rendered of a query are all of its parts but the resource. -/
theorem toJson_inj {q q' : Query} (same : Same q.toJson q'.toJson) :
    q.measures = q'.measures ∧ q.dimensions = q'.dimensions ∧ q.timeDimension = q'.timeDimension ∧
      q.filters = q'.filters ∧ q.order = q'.order ∧ q.limit = q'.limit := by
  have measures := same.values "measures" (.strs q.measures) (.strs q'.measures) (by simp) (by simp)
  have dimensions := same.values "dimensions" (.strs q.dimensions) (.strs q'.dimensions) (by simp) (by simp)
  have times := same.values "timeDimensions" (.list [q.timeDimension.toJson])
    (.list [q'.timeDimension.toJson]) (by simp) (by simp)
  have filters := same.values "filters" (.list (q.filters.map Filter.toJson))
    (.list (q'.filters.map Filter.toJson)) (by simp) (by simp)
  have order := same.values "order" (.ofMembers [(q.order.1,.str q.order.2.name)])
    (.ofMembers [(q'.order.1,.str q'.order.2.name)]) (by simp) (by simp)
  have limit := same.values "limit" (.int q.limit) (.int q'.limit) (by simp) (by simp)
  exact ⟨Same.strs_inj measures,Same.strs_inj dimensions,
    TimeDimension.toJson_inj (times.items.2 0 _ _ rfl rfl),
    Same.list_inj (fun _ _ => Filter.toJson_inj) filters,order_inj order,Same.int_inj.mp limit⟩

end Rendering

section Building
variable {s s' : Selection} {scope scope' : Scope} {window window' : Window}
  {order order' : Option SortOrder} {limit limit' : Option Int} {q q' : Query}

private theorem timeDimension_inj (same : TimeDimension.mk (s.resource.member "timestamp")
        (if s.hasTimestamp then some window.granularity else none) window.dateRange =
      ⟨s'.resource.member "timestamp",if s'.hasTimestamp then some window'.granularity else none,
        window'.dateRange⟩) :
    s.resource = s'.resource ∧ s.hasTimestamp = s'.hasTimestamp ∧ window.range = window'.range ∧
      (s.hasTimestamp = true → window.granularity = window'.granularity) := by
  obtain ⟨dimension,granularity,dateRange⟩ := TimeDimension.mk.inj same
  refine ⟨(Resource.member_inj.mp dimension).1,?_,Window.dateRange_inj.mp dateRange,fun timed => ?_⟩
  · cases timed : s.hasTimestamp <;> cases timed' : s'.hasTimestamp <;> simp [timed,timed'] at granularity ⊢
  · cases timed' : s'.hasTimestamp <;> simp [timed,timed'] at granularity
    exact granularity

private theorem filters_inj {r r' : Resource}
    (same : [Filter.mk (r.member scope.key.name) "equals" [scope.id]] =
      [⟨r'.member scope'.key.name,"equals",[scope'.id]⟩]) : scope = scope' := by
  simp only [List.cons.injEq,Filter.mk.injEq,and_true,true_and] at same
  obtain ⟨member,id⟩ := same
  have key := ScopeKey.name_injective (Resource.member_inj.mp member).2
  cases scope
  cases scope'
  simp_all

/-- Queries that are built are rendered alike exactly if they are built of the same selection, scope,
direction, limit and range, and of the same granularity if there is to be a time series. -/
theorem rendering_distinguishes (built : build s scope window order limit = .ok q)
    (built' : build s' scope' window' order' limit' = .ok q') :
    Same q.toJson q'.toJson ↔ s = s' ∧ scope = scope' ∧
      order.getD defaultOrder = order'.getD defaultOrder ∧
      limit.getD defaultLimit = limit'.getD defaultLimit ∧ window.range = window'.range ∧
      (s.hasTimestamp = true → window.granularity = window'.granularity) := by
  obtain ⟨_,rfl⟩ := build_ok_iff.mp built
  obtain ⟨_,rfl⟩ := build_ok_iff.mp built'
  constructor
  · intro same
    obtain ⟨measures,dimensions,time,filters,orders,limits⟩ := toJson_inj same
    obtain ⟨resource,timed,range,granularity⟩ := timeDimension_inj time
    refine ⟨?_,filters_inj filters,(Prod.mk.inj orders).2,limits,range,granularity⟩
    have measured := List.map_injective_iff.mpr Measure.text_injective measures
    cases s
    cases s'
    simp_all
  · rintro ⟨rfl,rfl,orders,limits,range,granularity⟩
    have buckets : (if s.hasTimestamp then some window.granularity else none) =
        if s.hasTimestamp then some window'.granularity else none := by
      split
      · rename_i timed
        rw [granularity timed]
      · rfl
    rw [orders,limits,Window.dateRange_inj.mpr range,buckets]
    exact .refl _

/-- The direction and the limit of a request that gives none are those of one that gives the defaults, and
the granularity makes no difference without a time series; a date range does. -/
theorem rendering_distinguishes_today : ∃ q q' q'',
    build (.blank .mints) ⟨"p",.project⟩ ⟨.hour,.named .today⟩ none none = .ok q ∧
    build (.blank .mints) ⟨"p",.project⟩ ⟨.day,.named .today⟩ (some .descending) (some 100) = .ok q' ∧
    build (.blank .mints) ⟨"p",.project⟩ ⟨.hour,.named .all⟩ none none = .ok q'' ∧
    Same q.toJson q'.toJson ∧ ¬Same q.toJson q''.toJson := by
  obtain ⟨q,built⟩ : ∃ q, build (.blank .mints) ⟨"p",.project⟩ ⟨.hour,.named .today⟩ none none = .ok q :=
    ⟨_,rfl⟩
  obtain ⟨q',built'⟩ : ∃ q, build (.blank .mints) ⟨"p",.project⟩ ⟨.day,.named .today⟩ (some .descending)
    (some 100) = .ok q := ⟨_,rfl⟩
  obtain ⟨q'',built''⟩ : ∃ q, build (.blank .mints) ⟨"p",.project⟩ ⟨.hour,.named .all⟩ none none = .ok q :=
    ⟨_,rfl⟩
  refine ⟨q,q',q'',built,built',built'',(rendering_distinguishes built built').mpr (by decide),?_⟩
  intro same
  have ranges := ((rendering_distinguishes built built'').mp same).2.2.2.2.1
  cases ranges

end Building
end Query
end ScopedAnalytics
