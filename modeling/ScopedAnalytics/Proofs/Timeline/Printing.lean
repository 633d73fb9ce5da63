import ScopedAnalytics.Proofs.Calendar.TextOrder
import ScopedAnalytics.Proofs.Timeline.Merging

/-! Times as they are printed. The texts of the points of a series stand in the direction asked for, as
texts, and are those of their rows; the texts of a range of dates ascend and tell the dates. -/
namespace ScopedAnalytics

def Json.get? : Json → String → Option Json
  | .object members, name => Json.member? members name
  | _, _ => none

/-- Whether a text comes before another one in a direction. -/
def SortOrder.TextBefore : SortOrder → String → String → Prop
  | ascending, a, b => a < b
  | descending, a, b => b < a

theorem SortOrder.textBefore_iso {order : SortOrder} {a b : DateTime} :
    order.TextBefore a.iso b.iso ↔ order.Before a b := by
  cases order with
  | ascending => exact DateTime.iso_lt
  | descending => exact DateTime.iso_lt

section Members

theorem Json.get?_ofMembers (members : List (String × Json)) (name : String) :
    (Json.ofMembers members).get? name =
      (members.find? fun member => member.1 == name).map (·.2) := by
  simp [get?,ofMembers,member?,List.find?_map,Function.comp_def]

private theorem find?_field {α : Type} (field name : String) (encode : α → Json)
    (value : Option α) : (Row.field field encode value).find? (fun member => member.1 == name) =
      if field = name then value.map fun x => (field,encode x) else none := by
  cases value with
  | none => simp [Row.field]
  | some x =>
    by_cases same : field = name
    · simp [Row.field,same]
    · simp [Row.field,same]

theorem Row.toJson_timestamp (row : Row) :
    row.toJson.get? "timestamp" = row.timestamp.map fun t => .str t.iso := by
  simp [toJson,Json.get?_ofMembers,members,List.find?_append,find?_field,Function.comp_def]

theorem Point.toJson_timestamp {p : Point} {t : DateTime} (stamped : p.timestamp = some t) :
    p.toJson.get? "timestamp" = some (.str t.iso) := by
  simp [toJson,Json.get?_ofMembers,stamped]

end Members

namespace Timeline

/-- Whether the points of a series are printed in a direction: the texts of their timestamps stand in
it, and each is the text that the rows of its point are printed with. -/
structure IsPrintedIn (order : SortOrder) (points : List Point) : Prop where
  texts : ∃ texts : List String,
    (points.map fun p => p.toJson.get? "timestamp") = texts.map (fun text => some (.str text)) ∧
      texts.Pairwise order.TextBefore
  rows : ∀ p ∈ points, ∀ entry ∈ p.resources, ∀ row ∈ entry.2,
    row.toJson.get? "timestamp" = p.toJson.get? "timestamp"

theorem IsSeriesOf.isPrintedIn {answers : List Answered} {order : SortOrder} {points : List Point}
    (series : IsSeriesOf answers order points) : IsPrintedIn order points := by
  obtain ⟨times,same,sorted,_⟩ := series.times
  have stamped : ∀ p ∈ points, ∃ t, p.timestamp = some t := by
    intro p member
    have listed : p.timestamp ∈ times.map some := same ▸ List.mem_map_of_mem member
    obtain ⟨t,_,found⟩ := List.mem_map.mp listed
    exact ⟨t,found.symm⟩
  constructor
  case texts =>
    refine ⟨times.map DateTime.iso,?_,?_⟩
    · calc (points.map fun p => p.toJson.get? "timestamp")
        _ = (points.map (·.timestamp)).map (Option.map fun t => .str t.iso) := by
          rw [List.map_map]
          refine List.map_congr_left fun p member => ?_
          obtain ⟨t,found⟩ := stamped p member
          rw [Point.toJson_timestamp found,Function.comp_apply,found,Option.map_some]
        _ = (times.map DateTime.iso).map fun text => some (.str text) := by
          simp [same,Function.comp_def]
    · exact List.pairwise_map.mpr (sorted.imp SortOrder.textBefore_iso.mpr)
  case rows =>
    intro p member entry held row inside
    obtain ⟨t,found⟩ := stamped p member
    rw [Row.toJson_timestamp,(series.rows p member entry held).2 row inside,found,
      Point.toJson_timestamp found,Option.map_some]

end Timeline

namespace Window
variable {given : Given} {window : Window} {start finish : Date}

/-- A request with a window gives two dates in order, or an interval and none. -/
private theorem resolve_cases (resolved : resolve given = .ok window) :
    (∃ start finish, given.start = some start ∧ given.finish = some finish ∧ start ≤ finish ∧
      window.range = .dates start finish) ∨
    given.start = none ∧ ∃ interval, window.range = .named interval := by
  unfold resolve at resolved
  split at resolved
  · rename_i start finish started finished
    split at resolved
    · cases resolved
    · split at resolved
      · cases resolved
      · rename_i inOrder
        obtain rfl := Except.ok.inj resolved
        exact .inl ⟨start,finish,started,finished,Nat.not_lt.mp inOrder,rfl⟩
  · rename_i started _
    split at resolved
    · obtain rfl := Except.ok.inj resolved
      exact .inr ⟨started,_,rfl⟩
    · cases resolved
  · cases resolved

/-- A range of dates is stated by their texts, which ascend. -/
theorem dateRange_of_dates (started : given.start = some start)
    (finished : given.finish = some finish) (resolved : resolve given = .ok window) :
    window.dateRange = some (.between [start.iso,finish.iso]) ∧ start.iso ≤ finish.iso := by
  rcases resolve_cases resolved with ⟨_,_,started',finished',inOrder,range⟩ | ⟨none,_⟩
  · obtain rfl := Option.some.inj (started.symm.trans started')
    obtain rfl := Option.some.inj (finished.symm.trans finished')
    exact ⟨by rw [dateRange,range],Date.iso_le.mpr inOrder⟩
  · cases started.symm.trans none

theorem dates_of_dateRange (resolved : resolve given = .ok window)
    (stated : window.dateRange = some (.between [start.iso,finish.iso])) :
    given.start = some start ∧ given.finish = some finish := by
  rcases resolve_cases resolved with ⟨_,_,started,finished,_,range⟩ | ⟨_,interval,range⟩
  · simp only [dateRange,range,Option.some.injEq,DateRange.between.injEq,List.cons.injEq,
      and_true] at stated
    rw [started,finished,Date.iso_injective stated.1,Date.iso_injective stated.2]
    exact ⟨rfl,rfl⟩
  · cases interval <;> simp [dateRange,range] at stated

end Window

/-- Times are ordered as their texts are, and so are the times that are printed. The points of a time
series have timestamps whose texts go in the direction asked for, each the text of all the rows in its
point; a window of dates is stated by two texts, the first not after the second, and no other dates are
stated by them. -/
theorem times_printed_in_order :
    (∀ a b : DateTime, a < b ↔ a.iso < b.iso) ∧ (∀ a b : Date, a < b ↔ a.iso < b.iso) ∧
    (∀ (answers : List Answered) (order : SortOrder),
      (∃ a ∈ answers, a.selection.hasTimestamp = true) →
        Timeline.IsPrintedIn order (Timeline.points answers order)) ∧
    ∀ (given : Window.Given) (window : Window) (start finish : Date),
      given.start = some start → given.finish = some finish → Window.resolve given = .ok window →
        window.dateRange = some (.between [start.iso,finish.iso]) ∧ start.iso ≤ finish.iso ∧
        ∀ given' window', Window.resolve given' = .ok window' →
          window'.dateRange = window.dateRange →
            given'.start = some start ∧ given'.finish = some finish := by
  refine ⟨fun _ _ => DateTime.iso_lt.symm,fun _ _ => Date.iso_lt.symm,?_,?_⟩
  · intro answers order asked
    have series : Timeline.isSeries answers = true := by simpa [Timeline.isSeries] using asked
    rw [Timeline.points,if_pos series]
    exact (Timeline.isSeriesOf_buckets answers order).isPrintedIn
  · intro given window start finish started finished resolved
    obtain ⟨stated,inOrder⟩ := Window.dateRange_of_dates started finished resolved
    refine ⟨stated,inOrder,fun given' window' resolved' same => ?_⟩
    exact Window.dates_of_dateRange resolved' (same.trans stated)

section Midnight

def leapDay : Date := ⟨2000,2,29,by decide⟩

def dayAfter : Date := ⟨2000,3,1,by decide⟩

/-- The last microsecond of a leap day. Its text is longer than that of the midnight after it. -/
def beforeMidnight : DateTime := ⟨leapDay,⟨23,59,59,999999,by decide⟩⟩

def midnight : DateTime := ⟨dayAfter,⟨0,0,0,0,by decide⟩⟩

/-- A time series with a row on either side of midnight. -/
def aroundMidnight : List Answered :=
  [⟨⟨.mints,[],[],true⟩,[{ Row.empty with timestamp := some midnight },
    { Row.empty with timestamp := some beforeMidnight }]⟩]

theorem times_printed_around_midnight : beforeMidnight.iso < midnight.iso ∧
    leapDay.iso < dayAfter.iso ∧
    Timeline.IsPrintedIn .descending (Timeline.points aroundMidnight .descending) ∧
    Window.resolve ⟨none,some leapDay,some dayAfter,none⟩ = .ok ⟨.day,.dates leapDay dayAfter⟩ ∧
    leapDay.iso ≤ dayAfter.iso := by
  obtain ⟨instants,days,series,windows⟩ := times_printed_in_order
  have resolved : Window.resolve ⟨none,some leapDay,some dayAfter,none⟩ =
      .ok ⟨.day,.dates leapDay dayAfter⟩ := by decide
  have asked : ∃ a ∈ aroundMidnight, a.selection.hasTimestamp = true :=
    ⟨_,List.mem_singleton.mpr rfl,rfl⟩
  exact ⟨(instants _ _).mp (by decide),(days _ _).mp (by decide),series _ _ asked,resolved,
    (windows _ _ _ _ rfl rfl resolved).2.1⟩

end Midnight

end ScopedAnalytics
