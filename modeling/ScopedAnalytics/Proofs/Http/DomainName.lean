import ScopedAnalytics.Http.Url.DomainName

/-! Names of hosts are written in ASCII, whatever the characters of their labels. -/
namespace ScopedAnalytics

def IsAscii (cs : List Char) : Prop := ∀ c ∈ cs, c.toNat < 0x80

instance (cs : List Char) : Decidable (IsAscii cs) :=
  decidable_of_iff (cs.all (·.toNat < 0x80) = true) (by simp [IsAscii])

namespace IsAscii
variable {first second : List Char}

theorem nil : IsAscii [] := nofun

theorem append (here : IsAscii first) (there : IsAscii second) : IsAscii (first ++ second) := by
  intro c member
  rcases List.mem_append.mp member with inside | inside
  · exact here c inside
  · exact there c inside

end IsAscii

namespace Punycode
variable {state : Writing} {codes : List Nat} {label : List Char}

private theorem threshold_le (bias place : Nat) : threshold bias place ≤ 26 := by
  unfold threshold
  split
  · omega
  · split <;> omega

private theorem digit_isAscii : ∀ value < 36, (digit value).toNat < 0x80 := by decide

private theorem number_isAscii (bias place value : Nat) : IsAscii (number bias place value) := by
  fun_induction number bias place value with
  | case1 place value limit below =>
    have bound := threshold_le bias place
    intro c member
    rw [List.mem_singleton.mp member]
    exact digit_isAscii _ (by omega)
  | case2 place value limit above ih =>
    have bound := threshold_le bias place
    have rest : (value - limit) % (36 - limit) < 36 - limit := Nat.mod_lt _ (by omega)
    intro c member
    rcases List.mem_cons.mp member with rfl | member
    · exact digit_isAscii _ (by omega)
    · exact ih c member

private theorem pass_isAscii (code : Nat) (codes : List Nat) (ascii : IsAscii state.written) :
    IsAscii (state.pass code codes).written := by
  fun_induction Writing.pass code state codes with
  | case1 => exact ascii
  | case2 state c rest _ ih => exact ih ascii
  | case3 state rest _ ih => exact ih (ascii.append (number_isAscii _ _ _))
  | case4 state c rest _ _ ih => exact ih ascii

theorem encode_isAscii (label : List Char) : IsAscii (encode label) := by
  have basic : IsAscii (label.filter (·.toNat < 0x80)) := by
    intro c member
    simpa using (List.mem_filter.mp member).2
  have steps (codes others : List Nat) (last : Nat × Writing) (ascii : IsAscii last.2.written) :
      IsAscii (others.foldl (Writing.step codes) last).2.written := by
    induction others generalizing last with
    | nil => exact ascii
    | cons code others ih => exact ih _ (pass_isAscii code codes ascii)
  refine (basic.append ?_).append (steps _ _ _ .nil)
  split
  · exact .nil
  · decide

end Punycode

namespace DomainName
variable {label form name : List Char}

private theorem encodeLabel?_isAscii (written : encodeLabel? label = some form) : IsAscii form := by
  have ascii :
      IsAscii (if label.all (·.toNat < 0x80) then label else mark ++ Punycode.encode label) := by
    split
    · rename_i all
      exact fun c member => by simpa using List.all_eq_true.mp all c member
    · exact IsAscii.append (by decide) (Punycode.encode_isAscii label)
  simp only [encodeLabel?] at written
  generalize (if label.all (·.toNat < 0x80) then label else mark ++ Punycode.encode label) = text
    at ascii written
  split at written
  · split at written
    · exact Option.some.inj written ▸ ascii
    · cases written
  · cases written

private theorem mapM_isAscii {parts labels : List (List Char)}
    (written : parts.mapM encodeLabel? = some labels) : ∀ label ∈ labels, IsAscii label := by
  induction parts generalizing labels with
  | nil =>
    obtain rfl : [] = labels := by simpa using written
    exact nofun
  | cons part parts ih =>
    rw [List.mapM_cons] at written
    obtain ⟨first,here,written⟩ := Option.bind_eq_some_iff.mp written
    obtain ⟨rest,there,written⟩ := Option.bind_eq_some_iff.mp written
    obtain rfl := Option.some.inj written
    intro label held
    rcases List.mem_cons.mp held with rfl | held
    · exact encodeLabel?_isAscii here
    · exact ih there label held

private theorem intersperse_isAscii {labels : List (List Char)}
    (each : ∀ label ∈ labels, IsAscii label) :
    IsAscii (labels.intersperse ['.']).flatten := by
  induction labels with
  | nil => exact .nil
  | cons first rest ih =>
    have tail := ih fun label held => each label (List.mem_cons_of_mem _ held)
    have here := each first List.mem_cons_self
    cases rest with
    | nil => simpa using here
    | cons second rest =>
      rw [List.intersperse_cons_cons,List.flatten_cons,List.flatten_cons]
      exact here.append (IsAscii.append (by decide) tail)

theorem encode?_isAscii (written : encode? name = some form) : IsAscii form := by
  unfold encode? at written
  split at written
  · cases written
  · obtain ⟨labels,read,written⟩ := Option.bind_eq_some_iff.mp written
    have ascii (ending : Bool) :
        IsAscii ((labels.intersperse ['.']).flatten ++ if ending then ['.'] else []) := by
      refine (intersperse_isAscii (mapM_isAscii read)).append ?_
      split
      · decide
      · exact .nil
    obtain ⟨_,same⟩ := Option.ite_none_right_eq_some.mp written
    exact Option.some.inj same ▸ ascii _

end DomainName
end ScopedAnalytics
