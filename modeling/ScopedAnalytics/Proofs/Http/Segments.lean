import Mathlib.Algebra.GroupWithZero.Nat
import ScopedAnalytics.Http.Url

/-! Paths by their segments. Leaving out dot segments makes a path shorter, so one that keeps its
length has none, and nor has it with more segments below it. -/
namespace ScopedAnalytics

namespace Address
variable {separator : Char} {cs : List Char}

theorem splitAtChar_ne_nil (separator : Char) (cs : List Char) : splitAtChar separator cs ≠ [] := by
  cases cs with
  | nil => simp [splitAtChar]
  | cons c rest =>
    rw [splitAtChar]
    split
    · simp
    · split <;> simp

theorem splitAtChar_append (separator : Char) (first second : List Char) :
    splitAtChar separator (first ++ separator :: second) =
      splitAtChar separator first ++ splitAtChar separator second := by
  induction first with
  | nil => simp [splitAtChar]
  | cons c rest ih =>
    rw [List.cons_append,splitAtChar,splitAtChar,ih]
    by_cases own : c = separator
    · simp [own]
    · simp only [own,if_false]
      cases parts : splitAtChar separator rest with
      | nil => exact absurd parts (splitAtChar_ne_nil separator rest)
      | cons part others => rfl

theorem mem_of_mem_splitAtChar {part : List Char} {c : Char} (held : part ∈ splitAtChar separator cs)
    (member : c ∈ part) : c ∈ cs := by
  induction cs generalizing part with
  | nil =>
    rw [splitAtChar,List.mem_singleton] at held
    exact held ▸ member
  | cons d rest ih =>
    rw [splitAtChar] at held
    split at held
    · rcases List.mem_cons.mp held with rfl | held
      · cases member
      · exact List.mem_cons_of_mem _ (ih held member)
    · split at held
      · rename_i none
        exact absurd none (splitAtChar_ne_nil separator rest)
      · rename_i first others parts
        rcases List.mem_cons.mp held with rfl | held
        · rcases List.mem_cons.mp member with rfl | member
          · exact List.mem_cons_self
          · exact List.mem_cons_of_mem _ (ih (parts ▸ List.mem_cons_self) member)
        · exact List.mem_cons_of_mem _ (ih (parts ▸ List.mem_cons_of_mem _ held) member)

end Address

namespace Url
open Address

def joined (segments : List (List Char)) : List Char := (segments.intersperse ['/']).flatten

section Joining
variable {segments : List (List Char)} {c : Char}

theorem joined_cons_cons (first second : List Char) (rest : List (List Char)) :
    joined (first :: second :: rest) = first ++ '/' :: joined (second :: rest) := by
  simp [joined]

theorem joined_splitAtChar (path : List Char) : joined (splitAtChar '/' path) = path := by
  induction path with
  | nil => rfl
  | cons c rest ih =>
    rw [splitAtChar]
    cases parts : splitAtChar '/' rest with
    | nil => exact absurd parts (splitAtChar_ne_nil '/' rest)
    | cons part others =>
      rw [parts] at ih
      split
      · rename_i own
        rw [joined_cons_cons,ih,own]
        rfl
      · cases others with
        | nil =>
          rw [← ih]
          simp [joined]
        | cons next others =>
          rw [joined_cons_cons] at ih ⊢
          rw [List.cons_append,ih]

theorem mem_joined (member : c ∈ joined segments) : c = '/' ∨ ∃ s ∈ segments, c ∈ s := by
  induction segments with
  | nil => cases member
  | cons first rest ih =>
    cases rest with
    | nil => exact .inr ⟨first,List.mem_cons_self,by simpa [joined] using member⟩
    | cons second rest =>
      rw [joined_cons_cons,List.mem_append,List.mem_cons] at member
      rcases member with member | rfl | member
      · exact .inr ⟨first,List.mem_cons_self,member⟩
      · exact .inl rfl
      · refine (ih member).imp_right ?_
        rintro ⟨s,held,member⟩
        exact ⟨s,List.mem_cons_of_mem _ held,member⟩

/-- The length of segments with a slash after each. -/
def extent (segments : List (List Char)) : Nat := (segments.map fun s => s.length + 1).sum

theorem joined_length (some : segments ≠ []) : (joined segments).length + 1 = extent segments := by
  induction segments with
  | nil => exact absurd rfl some
  | cons first rest ih =>
    cases rest with
    | nil => simp [joined,extent]
    | cons second rest =>
      have tail := ih (by simp)
      rw [joined_cons_cons]
      simp only [extent,List.map_cons,List.sum_cons,List.length_append,List.length_cons] at tail ⊢
      omega

end Joining

section Dots
variable {kept segments : List (List Char)} {rooted : Bool} {path more : List Char} {c : Char}

def isDots (segment : List Char) : Bool := segment == ['.'] || segment == ['.','.']

theorem dropDots_eq (plain : ∀ s ∈ segments, isDots s = false) :
    dropDots kept segments = kept ++ segments := by
  fun_induction dropDots kept segments with
  | case1 => simp
  | case2 kept rest => simp [isDots] at plain
  | case3 kept rest => simp [isDots] at plain
  | case4 kept segment rest _ _ ih =>
    rw [ih fun s held => plain s (List.mem_cons_of_mem _ held),List.append_assoc]
    rfl

private theorem extent_append (first second : List (List Char)) :
    extent (first ++ second) = extent first + extent second := by
  simp [extent]

private theorem extent_dropLast_le (segments : List (List Char)) :
    extent segments.dropLast ≤ extent segments := by
  rcases List.eq_nil_or_concat segments with rfl | ⟨before,last,rfl⟩
  · exact Nat.le_refl _
  · simp [extent]

/-- Each dot segment that is left out makes a path shorter by two characters at least. -/
theorem extent_dropDots_le (kept segments : List (List Char)) :
    extent (dropDots kept segments) + 2 * segments.countP isDots ≤ extent kept + extent segments := by
  fun_induction dropDots kept segments with
  | case1 => simp [extent]
  | case2 kept rest ih =>
    have dots : isDots ['.'] = true := rfl
    simp only [List.countP_cons,dots,if_true]
    have first : extent (['.'] :: rest) = 2 + extent rest := rfl
    omega
  | case3 kept rest ih =>
    have dots : isDots ['.','.'] = true := rfl
    simp only [List.countP_cons,dots,if_true]
    have first : extent (['.','.'] :: rest) = 3 + extent rest := rfl
    have back : extent (if kept = [[]] then kept else kept.dropLast) ≤ extent kept := by
      split
      · exact Nat.le_refl _
      · exact extent_dropLast_le kept
    omega
  | case4 kept segment rest one two ih =>
    have plain : isDots segment = false := by
      cases dots : isDots segment with
      | false => rfl
      | true =>
        simp only [isDots,Bool.or_eq_true,beq_iff_eq] at dots
        rcases dots with rfl | rfl
        · exact (one rfl).elim
        · exact (two rfl).elim
    simp only [List.countP_cons,plain,Bool.false_eq_true,if_false]
    rw [extent_append] at ih
    have first : extent (segment :: rest) = (segment.length + 1) + extent rest := rfl
    have single : extent [segment] = segment.length + 1 := by simp [extent]
    omega

theorem mem_dropDots {segment : List Char} (held : segment ∈ dropDots kept segments) :
    segment ∈ kept ∨ segment ∈ segments := by
  fun_induction dropDots kept segments with
  | case1 => exact .inl held
  | case2 kept rest ih => exact (ih held).imp_right (List.mem_cons_of_mem _)
  | case3 kept rest ih =>
    rcases ih held with before | inside
    · refine .inl ?_
      split at before
      · exact before
      · exact (List.dropLast_sublist kept).subset before
    · exact .inr (List.mem_cons_of_mem _ inside)
  | case4 kept first rest _ _ ih =>
    rcases ih held with before | inside
    · rcases List.mem_append.mp before with before | single
      · exact .inl before
      · exact .inr (List.mem_cons.mpr (.inl (List.mem_singleton.mp single)))
    · exact .inr (List.mem_cons_of_mem _ inside)

theorem dropDots_root (segments kept : List (List Char)) :
    ∃ more, dropDots ([] :: kept) segments = [] :: more := by
  generalize same : [] :: kept = held
  fun_induction dropDots held segments generalizing kept with
  | case1 => exact ⟨kept,same.symm⟩
  | case2 held rest ih => exact ih kept same
  | case3 held rest ih =>
    subst same
    cases kept with
    | nil => exact ih [] rfl
    | cons next kept => exact ih (next :: kept).dropLast rfl
  | case4 held segment rest _ _ ih =>
    subst same
    exact ih (kept ++ [segment]) rfl

theorem readPath_eq (rooted : Bool) (path : List Char) : readPath rooted path =
    if rooted then joined (dropDots [] (splitAtChar '/' path)) else path := rfl

theorem mem_readPath (member : c ∈ readPath rooted path) : c = '/' ∨ c ∈ path := by
  rw [readPath_eq] at member
  split at member
  · refine (mem_joined member).imp_right ?_
    rintro ⟨s,held,member⟩
    rcases mem_dropDots held with before | inside
    · cases before
    · exact mem_of_mem_splitAtChar inside member
  · exact .inr member

private theorem readPath_length (path : List Char) : (readPath true path).length = 0 ∨
    (readPath true path).length + 2 * (splitAtChar '/' path).countP isDots ≤ path.length := by
  have bound := extent_dropDots_le [] (splitAtChar '/' path)
  have whole := joined_length (splitAtChar_ne_nil '/' path)
  have nothing : extent [] = 0 := rfl
  rw [joined_splitAtChar] at whole
  rw [readPath_eq,if_pos rfl]
  cases result : dropDots [] (splitAtChar '/' path) with
  | nil => exact .inl rfl
  | cons first rest =>
    have short : (joined (first :: rest)).length + 1 = extent (first :: rest) :=
      joined_length (by simp)
    rw [result] at bound
    exact .inr (by omega)

theorem readPath_length_le (rooted : Bool) (path : List Char) :
    (readPath rooted path).length ≤ path.length := by
  cases rooted with
  | false => exact Nat.le_refl _
  | true => rcases readPath_length path with void | bound <;> omega

/-- A path that is read as it is stays so with segments below it that are no dot segments. -/
theorem readPath_append (own : readPath rooted path = path)
    (plain : ∀ s ∈ splitAtChar '/' more, isDots s = false) :
    readPath rooted (path ++ '/' :: more) = path ++ '/' :: more := by
  cases rooted with
  | false => rfl
  | true =>
    have undotted : ∀ s ∈ splitAtChar '/' path, isDots s = false := by
      rcases readPath_length path with void | bound
      · rw [own] at void
        rw [List.eq_nil_of_length_eq_zero void]
        decide
      · rw [own] at bound
        have none : (splitAtChar '/' path).countP isDots = 0 := by omega
        exact fun s held => by simpa using List.countP_eq_zero.mp none s held
    have all : ∀ s ∈ splitAtChar '/' (path ++ '/' :: more), isDots s = false := by
      rw [splitAtChar_append]
      intro s held
      rcases List.mem_append.mp held with inside | inside
      · exact undotted s inside
      · exact plain s inside
    rw [readPath_eq,if_pos rfl,dropDots_eq all,List.nil_append,joined_splitAtChar]

theorem readPath_root (root : path = [] ∨ path.head? = some '/') :
    readPath rooted path = [] ∨ (readPath rooted path).head? = some '/' := by
  cases rooted with
  | false => exact root
  | true =>
    rcases root with rfl | root
    · exact .inl rfl
    · obtain ⟨rest,rfl⟩ : ∃ rest, path = '/' :: rest := by
        cases path with
        | nil => cases root
        | cons c rest => exact ⟨rest,by rw [Option.some.inj root]⟩
      have first : splitAtChar '/' ('/' :: rest) = [] :: splitAtChar '/' rest := by simp [splitAtChar]
      have kept : dropDots [] ([] :: splitAtChar '/' rest) = dropDots [[]] (splitAtChar '/' rest) := rfl
      rw [readPath_eq,if_pos rfl,first,kept]
      obtain ⟨more,same⟩ := dropDots_root (splitAtChar '/' rest) []
      rw [same]
      cases more with
      | nil => exact .inl rfl
      | cons next more => exact .inr (by rw [joined_cons_cons]; rfl)

end Dots

end Url
end ScopedAnalytics
