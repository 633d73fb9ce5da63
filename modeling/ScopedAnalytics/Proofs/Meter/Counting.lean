import ScopedAnalytics.Proofs.Meter.Totals
import ScopedAnalytics.Proofs.Numeral.Whole

/-! What a meter counts, in whole numbers. Each measurement raises the counters that it is about,
and what a counter shows is the sum of that as long as a floating-point number holds it. -/
namespace ScopedAnalytics

/-- One of the numbers that a meter counts. -/
inductive Counter where
  | queries (resource : String)
  | rows (resource : String)
  | failures (kind : String)
  | points
deriving DecidableEq, Repr

namespace Measurement

def count : Quantity → Nat
  | .whole n => n.toNat
  | .real _ => 0

def raises : Measurement → Counter → Nat
  | query resource _ _, .queries label => if resource = label then 1 else 0
  | query resource _ rows, .rows label => if resource = label then count rows else 0
  | failure kind, .failures other => if kind = other then 1 else 0
  | points number, .points => count number
  | _, _ => 0

/-- A measurement of whole numbers, and of a duration that is counted. -/
def IsWhole : Measurement → Prop
  | query _ duration rows => duration.isSortable = true ∧ ∃ n : Nat, rows = .whole n
  | failure _ => True
  | points number => ∃ n : Nat, number = .whole n

def raisesAll (measurements : List Measurement) (counter : Counter) : Nat :=
  (measurements.map (·.raises counter)).sum

theorem raisesAll_append (first second : List Measurement) (counter : Counter) :
    raisesAll (first ++ second) counter = raisesAll first counter + raisesAll second counter := by
  simp [raisesAll]

theorem raisesAll_perm {first second : List Measurement} (same : first.Perm second)
    (counter : Counter) : raisesAll first counter = raisesAll second counter := by
  induction same with
  | nil => rfl
  | cons x _ ih => exact congrArg (x.raises counter + ·) ih
  | swap x y rest => exact Nat.add_left_comm _ _ _
  | trans _ _ first second => exact first.trans second

end Measurement

namespace Meter
variable {m : Meter} {x : Measurement} {counter : Counter} {total : Counter → Nat}

/-- What a meter shows of a counter, none of what it has not counted yet. -/
def shown (m : Meter) : Counter → Binary64
  | .queries label => .ofInt (under .empty m.durations label).size
  | .rows label => under (.zero false) m.rows label
  | .failures kind => under (.zero false) m.failures kind
  | .points => m.points

/-- Whether a meter shows totals: those of the queries, and every other one that a floating-point
number holds. -/
structure Shows (m : Meter) (total : Counter → Nat) : Prop where
  sizes : ∀ label, (under .empty m.durations label).size = total (.queries label)
  whole : ∀ counter, total counter ≤ Binary64.lastWhole → m.shown counter = .ofInt (total counter)

theorem empty_shows : empty.Shows fun _ => 0 where
  sizes label := size_under empty label
  whole counter _ := by
    cases counter with
    | queries label => exact congrArg (fun n : Nat => Binary64.ofInt n) (size_under empty label)
    | rows label => exact Binary64.ofInt_zero.symm
    | failures kind => exact Binary64.ofInt_zero.symm
    | points => exact Binary64.ofInt_zero.symm

private theorem increase_whole {n : Nat} (bounded : n ≤ Binary64.lastWhole) (held : Binary64) :
    increase held (.whole n) = .ok (held + .ofInt n) := by
  have positive : Quantity.isNegative (.whole n) = false := by simp [Quantity.isNegative]
  rw [increase,positive,if_neg Bool.false_ne_true,Quantity.approximate?,
    Binary64.ofInt?_eq_some bounded]

private theorem isSome_of_isSortable {q : Quantity} (sortable : q.isSortable = true) :
    q.approximate?.isSome = true := by
  cases approximate : q.approximate? with
  | none => simp [Quantity.isSortable,approximate] at sortable
  | some x => rfl

private theorem record_shown_rows (whole : x.IsWhole) (label : String)
    (bounded : x.raises (.rows label) ≤ Binary64.lastWhole) :
    (m.record x).1.shown (.rows label) = m.shown (.rows label) ∧ x.raises (.rows label) = 0 ∨
      (m.record x).1.shown (.rows label) =
        m.shown (.rows label) + .ofInt (x.raises (.rows label)) := by
  simp only [shown,under,record_rows]
  cases x with
  | query resource duration rows =>
    obtain ⟨sortable,n,rfl⟩ := whole
    have timed := isSome_of_isSortable sortable
    by_cases same : resource = label
    · right
      have raised : (Measurement.query resource duration (.whole n)).raises (.rows label) = n := by
        simp [Measurement.raises,Measurement.count,same]
      rw [raised] at bounded ⊢
      have marked : (Measurement.query resource duration (.whole n)).rowsUnder? label =
          some (.whole n) := if_pos ⟨same,timed⟩
      rw [marked,Option.elim_some,addRows,increase_whole bounded]
      rfl
    · left
      simp [Measurement.rowsUnder?,Measurement.raises,same]
  | failure kind => exact .inl ⟨rfl,rfl⟩
  | points number => exact .inl ⟨rfl,rfl⟩

private theorem record_shown_failures (kind : String) :
    (m.record x).1.shown (.failures kind) = m.shown (.failures kind) ∧
        x.raises (.failures kind) = 0 ∨
      (m.record x).1.shown (.failures kind) =
        m.shown (.failures kind) + .ofInt (x.raises (.failures kind)) := by
  simp only [shown,under,record_failures]
  cases x with
  | failure own =>
    by_cases same : own = kind
    · right
      simp [Measurement.failureOf?,Measurement.raises,same,addFailure]
    · left
      simp [Measurement.failureOf?,Measurement.raises,same]
  | query resource duration rows => exact .inl ⟨rfl,rfl⟩
  | points number => exact .inl ⟨rfl,rfl⟩

private theorem record_shown_points (whole : x.IsWhole)
    (bounded : x.raises .points ≤ Binary64.lastWhole) :
    (m.record x).1.shown .points = m.shown .points ∧ x.raises .points = 0 ∨
      (m.record x).1.shown .points = m.shown .points + .ofInt (x.raises .points) := by
  simp only [shown,record_points]
  cases x with
  | points number =>
    obtain ⟨n,rfl⟩ := whole
    right
    have raised : (Measurement.points (.whole n)).raises .points = n := by
      simp [Measurement.raises,Measurement.count]
    rw [raised] at bounded ⊢
    rw [Measurement.points?,Option.elim_some,addPoints,increase_whole bounded]
  | query resource duration rows => exact .inl ⟨rfl,rfl⟩
  | failure kind => exact .inl ⟨rfl,rfl⟩

private theorem record_shown (whole : x.IsWhole) (bounded : x.raises counter ≤ Binary64.lastWhole)
    (other : ∀ label, counter ≠ .queries label) :
    (m.record x).1.shown counter = m.shown counter ∧ x.raises counter = 0 ∨
      (m.record x).1.shown counter = m.shown counter + .ofInt (x.raises counter) := by
  cases counter with
  | queries label => exact absurd rfl (other label)
  | rows label => exact record_shown_rows whole label bounded
  | failures kind => exact record_shown_failures kind
  | points => exact record_shown_points whole bounded

private theorem record_sizes (sound : m.IsSound) (whole : x.IsWhole) (label : String) :
    (under .empty (m.record x).1.durations label).size =
      (under .empty m.durations label).size + x.raises (.queries label) := by
  rw [size_under,size_under,record_queries x sound label]
  cases x with
  | query resource duration rows =>
    by_cases same : resource = label
    · simp [Measurement.queryUnder?,Measurement.raises,same,addQuery,whole.1]
    · simp [Measurement.queryUnder?,Measurement.raises,same]
  | failure kind => rfl
  | points number => rfl

theorem Shows.record (shows : m.Shows total) (sound : m.IsSound) (whole : x.IsWhole) :
    (m.record x).1.Shows fun counter => total counter + x.raises counter := by
  have sizes (label : String) : (under .empty (m.record x).1.durations label).size =
      total (.queries label) + x.raises (.queries label) := by
    rw [record_sizes sound whole,shows.sizes]
  refine ⟨sizes,fun counter bounded => ?_⟩
  by_cases own : ∃ label, counter = .queries label
  · obtain ⟨label,rfl⟩ := own
    exact congrArg (fun n : Nat => Binary64.ofInt n) (sizes label)
  · have before := shows.whole counter (by omega)
    rcases record_shown (m := m) whole (by omega) fun label same => own ⟨label,same⟩ with
      ⟨same,nothing⟩ | same
    · rw [same,before,nothing,Nat.add_zero]
    · rw [same,before,Binary64.ofInt_add bounded]

/-- The totals that a meter shows grow by what all measurements raise their counters by. -/
theorem Shows.recordAll (shows : m.Shows total) (sound : m.IsSound) {measurements : List Measurement}
    (whole : ∀ x ∈ measurements, x.IsWhole) :
    (m.recordAll measurements).Shows fun counter =>
      total counter + Measurement.raisesAll measurements counter := by
  induction measurements generalizing m total with
  | nil => exact shows
  | cons x measurements ih =>
    have here := shows.record sound (whole x List.mem_cons_self)
    have rest := ih here (record_isSound sound x)
      fun y member => whole y (List.mem_cons_of_mem _ member)
    simp only [Measurement.raisesAll,List.map_cons,List.sum_cons,← Nat.add_assoc]
    exact rest

end Meter
end ScopedAnalytics
