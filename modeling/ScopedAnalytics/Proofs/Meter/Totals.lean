import Mathlib.Algebra.GroupWithZero.Nat
import ScopedAnalytics.Meter

/-! What a meter shows after measurements. What is counted under a label is the fold of the
measurements that bear it, in their order, whatever else is counted in between. -/
namespace ScopedAnalytics

namespace Quantity

/-- Whether a quantity is a size that a histogram has a bucket for. -/
def isSortable (q : Quantity) : Bool := q.approximate?.any (· != .nan)

end Quantity

theorem Duration.isSortable (d : Duration) : Quantity.isSortable (.real d.seconds) = true := by
  have proper := d.isProper
  cases seconds : d.seconds <;>
    simp_all [Quantity.isSortable,Quantity.approximate?,Binary64.isFinite]

namespace Measurement

/-- The rows of a query under a label, none if its duration keeps them from being counted. -/
def rowsUnder? (label : String) : Measurement → Option Quantity
  | .query resource duration rows =>
    if resource = label ∧ duration.approximate?.isSome = true then some rows else none
  | _ => none

/-- Whether the query under a label is of a duration that a histogram has a bucket for. -/
def queryUnder? (label : String) : Measurement → Option Bool
  | .query resource duration _ => if resource = label then some duration.isSortable else none
  | _ => none

def failureOf? (kind : String) : Measurement → Option Unit
  | .failure other => if other = kind then some () else none
  | _ => none

def points? : Measurement → Option Quantity
  | .points number => some number
  | _ => none

end Measurement

namespace Histogram

/-- A histogram with a count for every bound. -/
def IsFull (h : Histogram) : Prop := h.counts.length = bounds.length

theorem empty_isFull : empty.IsFull := by
  simp [IsFull,empty]

private theorem place_length (x : Binary64) (bounds : List (Binary64 × String))
    (counts : List Nat) : (place x bounds counts).length = counts.length := by
  induction bounds generalizing counts with
  | nil => rfl
  | cons bound bounds ih =>
    cases counts with
    | nil => rfl
    | cons count counts =>
      rw [place]
      split
      · rfl
      · rw [List.length_cons,ih,List.length_cons]

theorem observe_isFull {h : Histogram} (full : h.IsFull) (x : Binary64) : (h.observe x).IsFull :=
  (place_length x bounds h.counts).trans full

private theorem place_sum {x : Binary64} {bounds : List (Binary64 × String)}
    (fits : ∃ bound ∈ bounds, x.le bound.1 = true) {counts : List Nat}
    (full : counts.length = bounds.length) : (place x bounds counts).sum = counts.sum + 1 := by
  induction bounds generalizing counts with
  | nil =>
    obtain ⟨bound,member,_⟩ := fits
    cases member
  | cons bound bounds ih =>
    obtain ⟨count,counts,rfl⟩ := List.exists_cons_of_length_eq_add_one full
    rw [place]
    split
    · simp only [List.sum_cons]
      omega
    · rename_i passes
      have later : ∃ bound ∈ bounds, x.le bound.1 = true := by
        obtain ⟨other,member,fits⟩ := fits
        rcases List.mem_cons.mp member with rfl | inside
        · exact absurd fits passes
        · exact ⟨other,inside,fits⟩
      simp only [List.sum_cons,ih later (Nat.succ.inj full)]
      omega

private theorem place_undefined (bounds : List (Binary64 × String)) (counts : List Nat) :
    place .nan bounds counts = counts := by
  induction bounds generalizing counts with
  | nil => rfl
  | cons bound bounds ih =>
    cases counts with
    | nil => rfl
    | cons count counts =>
      rw [place,if_neg (by simp [Binary64.le]),ih]

/-- A duration is counted in exactly one bucket unless it is undefined. -/
theorem observe_size {h : Histogram} (full : h.IsFull) (x : Binary64) :
    (h.observe x).size = h.size + (x != .nan).toNat := by
  cases defined : x != .nan with
  | false =>
    obtain rfl : x = .nan := by simpa using defined
    rw [size,observe,place_undefined]
    rfl
  | true =>
    have last : (.infinite false,"+Inf") ∈ bounds := by simp [bounds]
    have fits : x.le (.infinite false) = true := by
      cases x with
      | nan => cases defined
      | infinite negative => cases negative <;> rfl
      | finite negative significand power => rfl
    exact place_sum ⟨_,last,fits⟩ full

end Histogram

namespace Meter

section Labels
variable {α : Type}

theorem lookup_put (label other : String) (total : α) (totals : List (String × α)) :
    (put label total totals).lookup other =
      if label = other then some total else totals.lookup other := by
  induction totals with
  | nil =>
    by_cases same : other = label
    · simp [put,same]
    · simp [put,Ne.symm same,List.lookup_cons,beq_eq_false_iff_ne.mpr same]
  | cons entry totals ih =>
    obtain ⟨name,held⟩ := entry
    rw [put]
    by_cases own : name = label
    · subst own
      by_cases same : other = name
      · simp [same]
      · simp [Ne.symm same,List.lookup_cons,beq_eq_false_iff_ne.mpr same]
    · rw [if_neg own]
      by_cases here : other = name
      · subst here
        simp [Ne.symm own]
      · simp only [List.lookup_cons,beq_eq_false_iff_ne.mpr here,ih]

theorem mem_put {label : String} {total : α} {totals : List (String × α)} {entry : String × α}
    (member : entry ∈ put label total totals) : entry = (label,total) ∨ entry ∈ totals := by
  induction totals with
  | nil => exact .inl (List.mem_singleton.mp member)
  | cons first totals ih =>
    rw [put] at member
    split at member
    · rcases List.mem_cons.mp member with same | inside
      · exact .inl same
      · exact .inr (List.mem_cons_of_mem _ inside)
    · rcases List.mem_cons.mp member with same | inside
      · exact .inr (List.mem_cons.mpr (.inl same))
      · exact (ih inside).imp_right (List.mem_cons_of_mem _)

theorem mem_put_of_ne {label : String} {total : α} {totals : List (String × α)}
    {entry : String × α} (member : entry ∈ totals) (other : entry.1 ≠ label) :
    entry ∈ put label total totals := by
  induction totals with
  | nil => cases member
  | cons first totals ih =>
    rw [put]
    rcases List.mem_cons.mp member with rfl | inside
    · rw [if_neg other]
      exact List.mem_cons_self
    · split
      · exact List.mem_cons_of_mem _ inside
      · exact List.mem_cons_of_mem _ (ih inside)

end Labels

/-- A meter all of whose histograms are full. -/
def IsSound (m : Meter) : Prop := ∀ entry ∈ m.durations, entry.2.IsFull

theorem empty_isSound : empty.IsSound := nofun

theorem IsSound.under {m : Meter} (sound : m.IsSound) (label : String) :
    (under .empty m.durations label).IsFull := by
  rw [Meter.under]
  cases found : m.durations.lookup label with
  | none => exact Histogram.empty_isFull
  | some h =>
    obtain ⟨before,after,same,_⟩ := List.lookup_eq_some_iff.mp found
    exact sound (label,h) (by simp [same])

private theorem recordDuration_isSound {m : Meter} (sound : m.IsSound) (resource : String)
    (duration : Quantity) : (m.recordDuration resource duration).1.IsSound := by
  unfold recordDuration
  cases duration.approximate? with
  | none =>
    intro entry member
    rcases mem_put member with rfl | held
    · exact sound.under resource
    · exact sound entry held
  | some x =>
    intro entry member
    rcases mem_put member with rfl | held
    · exact Histogram.observe_isFull (sound.under resource) x
    · exact sound entry held

private theorem recordDuration_eq (m : Meter) (resource : String) (duration : Quantity) :
    (m.recordDuration resource duration).1 =
      { m with durations := (m.recordDuration resource duration).1.durations } := by
  unfold recordDuration
  dsimp only
  split <;> rfl

private theorem recordRows_eq (m : Meter) (resource : String) (rows : Quantity) :
    (m.recordRows resource rows).1 =
      { m with rows := (m.recordRows resource rows).1.rows } := by
  unfold recordRows
  dsimp only
  split <;> rfl

theorem record_isSound {m : Meter} (sound : m.IsSound) (x : Measurement) :
    (m.record x).1.IsSound := by
  cases x with
  | query resource duration rows =>
    have timed := recordDuration_isSound sound resource duration
    rw [record]
    generalize m.recordDuration resource duration = next at timed
    obtain ⟨next,fault⟩ := next
    cases fault with
    | some fault => exact timed
    | none =>
      rw [recordRows_eq]
      exact timed
  | failure kind => exact sound
  | points number =>
    rw [record]
    split <;> exact sound

theorem recordAll_isSound {m : Meter} (sound : m.IsSound) (measurements : List Measurement) :
    (m.recordAll measurements).IsSound := by
  induction measurements generalizing m with
  | nil => exact sound
  | cons x measurements ih => exact ih (record_isSound sound x)

section Views
variable {α β : Type}

/-- A view that each measurement changes by its own mark, if it has one, is changed by measurements
as by their marks in order. -/
theorem recordAll_view (view : Meter → β) {mark? : Measurement → Option α} {add : β → α → β}
    (step : ∀ (m : Meter) (x : Measurement), m.IsSound →
      view (m.record x).1 = (mark? x).elim (view m) (add (view m)))
    {m : Meter} (sound : m.IsSound) (measurements : List Measurement) :
    view (m.recordAll measurements) = (measurements.filterMap mark?).foldl add (view m) := by
  induction measurements generalizing m with
  | nil => rfl
  | cons x measurements ih =>
    have rest := ih (record_isSound sound x)
    have here := step m x sound
    cases mark : mark? x with
    | none =>
      rw [mark] at here
      rw [List.filterMap_cons_none mark,← show view (m.record x).1 = view m from here]
      exact rest
    | some a =>
      rw [mark] at here
      rw [List.filterMap_cons_some mark,List.foldl_cons,
        ← show view (m.record x).1 = add (view m) a from here]
      exact rest

def addRows (held : Option Binary64) (rows : Quantity) : Option Binary64 :=
  match increase (held.getD (.zero false)) rows with
  | .ok total => some total
  | .error _ => some (held.getD (.zero false))

/-- The number of durations under a label after one more query. -/
def addQuery (held : Option Nat) (isCounted : Bool) : Option Nat :=
  some (held.getD 0 + isCounted.toNat)

def addFailure (held : Option Binary64) (_ : Unit) : Option Binary64 :=
  some (held.getD (.zero false) + .ofInt 1)

def addPoints (held : Binary64) (number : Quantity) : Binary64 :=
  match increase held number with
  | .ok total => total
  | .error _ => held

private theorem recordDuration_fault (m : Meter) (resource : String) (duration : Quantity) :
    (m.recordDuration resource duration).2 =
      if duration.approximate?.isSome then none else some .tooLarge := by
  unfold recordDuration
  dsimp only
  cases duration.approximate? <;> rfl

private theorem recordRows_lookup (m : Meter) (resource label : String) (rows : Quantity) :
    (m.recordRows resource rows).1.rows.lookup label =
      if resource = label then addRows (m.rows.lookup label) rows else m.rows.lookup label := by
  unfold recordRows addRows under
  dsimp only
  by_cases same : resource = label
  · subst same
    rw [if_pos rfl]
    generalize increase ((m.rows.lookup resource).getD (.zero false)) rows = next
    cases next <;> exact (lookup_put ..).trans (if_pos rfl)
  · rw [if_neg same]
    generalize increase ((m.rows.lookup resource).getD (.zero false)) rows = next
    cases next <;> exact (lookup_put ..).trans (if_neg same)

theorem record_rows (m : Meter) (x : Measurement) (label : String) :
    (m.record x).1.rows.lookup label =
      (x.rowsUnder? label).elim (m.rows.lookup label) (addRows (m.rows.lookup label)) := by
  cases x with
  | query resource duration rows =>
    have held := congrArg Meter.rows (recordDuration_eq m resource duration)
    have fault := recordDuration_fault m resource duration
    rw [record]
    generalize m.recordDuration resource duration = next at held fault
    obtain ⟨next,trouble⟩ := next
    dsimp only at held fault
    cases proper : duration.approximate?.isSome with
    | false =>
      obtain rfl : trouble = some .tooLarge := by simpa [proper] using fault
      simp [Measurement.rowsUnder?,proper,held]
    | true =>
      obtain rfl : trouble = none := by simpa [proper] using fault
      dsimp only
      rw [recordRows_lookup,held]
      by_cases same : resource = label
      · simp [Measurement.rowsUnder?,proper,same]
      · simp [Measurement.rowsUnder?,same]
  | failure kind => rfl
  | points number =>
    rw [record]
    split <;> rfl

theorem size_under (m : Meter) (label : String) : (under .empty m.durations label).size =
    ((m.durations.lookup label).map Histogram.size).getD 0 := by
  rw [under]
  cases m.durations.lookup label <;> rfl

private theorem recordDuration_size {m : Meter} (sound : m.IsSound) (resource label : String)
    (duration : Quantity) :
    ((m.recordDuration resource duration).1.durations.lookup label).map Histogram.size =
      if resource = label then addQuery ((m.durations.lookup label).map Histogram.size)
        duration.isSortable
      else (m.durations.lookup label).map Histogram.size := by
  have full := sound.under resource
  have put : ∃ h : Histogram, (m.recordDuration resource duration).1.durations =
      put resource h m.durations ∧
        h.size = (under .empty m.durations resource).size + duration.isSortable.toNat := by
    unfold recordDuration
    dsimp only
    cases approximate : duration.approximate? with
    | none => exact ⟨_,rfl,by simp [Quantity.isSortable,approximate]⟩
    | some x =>
      exact ⟨_,rfl,by simp [Quantity.isSortable,approximate,Histogram.observe_size full]⟩
  obtain ⟨h,durations,size⟩ := put
  rw [durations,lookup_put]
  split
  · rename_i same
    subst same
    rw [Option.map_some,size,size_under,addQuery]
  · rfl

theorem record_queries {m : Meter} (x : Measurement) (sound : m.IsSound)
    (label : String) :
    ((m.record x).1.durations.lookup label).map Histogram.size =
      (x.queryUnder? label).elim ((m.durations.lookup label).map Histogram.size)
        (addQuery ((m.durations.lookup label).map Histogram.size)) := by
  cases x with
  | query resource duration rows =>
    have size := recordDuration_size sound resource label duration
    have same : (m.record (.query resource duration rows)).1.durations =
        (m.recordDuration resource duration).1.durations := by
      rw [record]
      generalize m.recordDuration resource duration = next
      obtain ⟨next,trouble⟩ := next
      cases trouble with
      | none =>
        dsimp only
        rw [recordRows_eq]
      | some fault => rfl
    rw [same,size]
    by_cases here : resource = label
    · simp [Measurement.queryUnder?,here]
    · simp [Measurement.queryUnder?,here]
  | failure kind => rfl
  | points number =>
    rw [record]
    split <;> rfl

theorem record_query_others (m : Meter) (resource : String) (duration rows : Quantity) :
    (m.record (.query resource duration rows)).1.failures = m.failures ∧
      (m.record (.query resource duration rows)).1.points = m.points := by
  have timed := recordDuration_eq m resource duration
  rw [record]
  generalize m.recordDuration resource duration = next at timed
  obtain ⟨next,trouble⟩ := next
  dsimp only at timed
  cases trouble with
  | some fault =>
    rw [timed]
    exact ⟨rfl,rfl⟩
  | none =>
    dsimp only
    rw [recordRows_eq,timed]
    exact ⟨rfl,rfl⟩

theorem record_failures (m : Meter) (x : Measurement) (kind : String) :
    (m.record x).1.failures.lookup kind =
      (x.failureOf? kind).elim (m.failures.lookup kind) (addFailure (m.failures.lookup kind)) := by
  cases x with
  | query resource duration rows =>
    exact congrArg (List.lookup kind) (record_query_others m resource duration rows).1
  | points number =>
    rw [record]
    split <;> rfl
  | failure other =>
    rw [record,lookup_put]
    by_cases same : other = kind
    · subst same
      simp [Measurement.failureOf?,addFailure,under]
    · simp [Measurement.failureOf?,same]

theorem record_points (m : Meter) (x : Measurement) :
    (m.record x).1.points = x.points?.elim m.points (addPoints m.points) := by
  cases x with
  | query resource duration rows => exact (record_query_others m resource duration rows).2
  | failure kind => rfl
  | points number =>
    cases increased : increase m.points number <;>
      simp [record,Measurement.points?,addPoints,increased]

theorem recordAll_rows {m : Meter} (sound : m.IsSound) (measurements : List Measurement)
    (label : String) :
    (m.recordAll measurements).rows.lookup label =
      (measurements.filterMap (Measurement.rowsUnder? label)).foldl addRows (m.rows.lookup label) :=
  recordAll_view (fun m => m.rows.lookup label) (fun m x _ => record_rows m x label) sound
    measurements

theorem recordAll_queries {m : Meter} (sound : m.IsSound) (measurements : List Measurement)
    (label : String) :
    ((m.recordAll measurements).durations.lookup label).map Histogram.size =
      (measurements.filterMap (Measurement.queryUnder? label)).foldl addQuery
        ((m.durations.lookup label).map Histogram.size) :=
  recordAll_view (fun m => (m.durations.lookup label).map Histogram.size)
    (fun _ x sound => record_queries x sound label) sound measurements

theorem recordAll_failures {m : Meter} (sound : m.IsSound) (measurements : List Measurement)
    (kind : String) :
    (m.recordAll measurements).failures.lookup kind =
      (measurements.filterMap (Measurement.failureOf? kind)).foldl addFailure
        (m.failures.lookup kind) :=
  recordAll_view (fun m => m.failures.lookup kind) (fun m x _ => record_failures m x kind) sound
    measurements

theorem recordAll_points {m : Meter} (sound : m.IsSound) (measurements : List Measurement) :
    (m.recordAll measurements).points =
      (measurements.filterMap Measurement.points?).foldl addPoints m.points :=
  recordAll_view Meter.points (fun m x _ => record_points m x) sound measurements

/-- Two meters that show the same, as long as the durations themselves are not looked at. -/
structure Agree (m n : Meter) : Prop where
  rows : ∀ label, m.rows.lookup label = n.rows.lookup label
  queries : ∀ label, (m.durations.lookup label).map Histogram.size =
    (n.durations.lookup label).map Histogram.size
  failures : ∀ kind, m.failures.lookup kind = n.failures.lookup kind
  points : m.points = n.points

/-- A meter shows the same after measurements that are the same under each label. -/
theorem recordAll_agree {m : Meter} (sound : m.IsSound) {first second : List Measurement}
    (rows : ∀ label, first.filterMap (Measurement.rowsUnder? label) =
      second.filterMap (Measurement.rowsUnder? label))
    (queries : ∀ label, first.filterMap (Measurement.queryUnder? label) =
      second.filterMap (Measurement.queryUnder? label))
    (failures : ∀ kind, first.filterMap (Measurement.failureOf? kind) =
      second.filterMap (Measurement.failureOf? kind))
    (points : first.filterMap Measurement.points? = second.filterMap Measurement.points?) :
    (m.recordAll first).Agree (m.recordAll second) where
  rows label := by rw [recordAll_rows sound,recordAll_rows sound,rows]
  queries label := by rw [recordAll_queries sound,recordAll_queries sound,queries]
  failures kind := by rw [recordAll_failures sound,recordAll_failures sound,failures]
  points := by rw [recordAll_points sound,recordAll_points sound,points]

end Views

end Meter
end ScopedAnalytics
