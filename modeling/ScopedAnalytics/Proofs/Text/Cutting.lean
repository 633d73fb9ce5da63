import Mathlib.Data.List.TakeDrop
import Mathlib.Data.List.TakeWhile

/-! How a text is cut where a mark stands first in it. -/
namespace ScopedAnalytics.Text

variable {mark : Char} {cs before before' after tail tail' : List Char}

private theorem bne_of_absent (absent : mark ∉ cs) : ∀ c ∈ cs, (c != mark) = true :=
  fun _ member => bne_iff_ne.mpr fun same => absent (same ▸ member)

theorem takeWhile_absent (absent : mark ∉ cs) : cs.takeWhile (· != mark) = cs :=
  List.takeWhile_eq_self_iff.mpr (bne_of_absent absent)

theorem takeWhile_ends (absent : mark ∉ before) (ends : ∀ c ∈ tail.head?, c = mark) :
    (before ++ tail).takeWhile (· != mark) = before := by
  rw [List.takeWhile_append_of_pos (bne_of_absent absent)]
  cases tail with
  | nil => rw [List.takeWhile_nil,List.append_nil]
  | cons c tail =>
    obtain rfl : c = mark := ends c rfl
    simp

theorem takeWhile_mark (absent : mark ∉ before) :
    (before ++ mark :: after).takeWhile (· != mark) = before :=
  takeWhile_ends absent (by simp)

theorem span_absent (absent : mark ∉ cs) : cs.span (· != mark) = (cs,[]) := by
  rw [List.span_eq_takeWhile_dropWhile,takeWhile_absent absent,
    List.dropWhile_eq_nil_iff.mpr (bne_of_absent absent)]

theorem span_mark (absent : mark ∉ before) :
    (before ++ mark :: after).span (· != mark) = (before,mark :: after) := by
  rw [List.span_eq_takeWhile_dropWhile,takeWhile_mark absent,
    List.dropWhile_append_of_pos (bne_of_absent absent)]
  simp

/-- A text does not hold a mark, or it can be cut where the mark stands first. -/
theorem mark_cases (mark : Char) (cs : List Char) :
    mark ∉ cs ∨ ∃ before after, cs = before ++ mark :: after ∧ mark ∉ before := by
  by_cases member : mark ∈ cs
  · exact .inr (List.eq_append_cons_of_mem member)
  · exact .inl member

theorem cut_unique (absent : mark ∉ before) (absent' : mark ∉ before')
    (ends : ∀ c ∈ tail.head?, c = mark) (ends' : ∀ c ∈ tail'.head?, c = mark)
    (same : before ++ tail = before' ++ tail') : before = before' ∧ tail = tail' := by
  have front : before = before' := by
    rw [← takeWhile_ends absent ends,same,takeWhile_ends absent' ends']
  exact ⟨front,List.append_cancel_left (front ▸ same)⟩

end ScopedAnalytics.Text
