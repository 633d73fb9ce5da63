import ScopedAnalytics.Http.Url
import ScopedAnalytics.Proofs.Except
import ScopedAnalytics.Proofs.Http.DomainName
import ScopedAnalytics.Proofs.Http.Percent
import ScopedAnalytics.Proofs.Text.Cutting

/-! How a URL is taken apart, and what its parts are made of. Where they end is told by characters that
do not stand in what comes before. -/
namespace ScopedAnalytics.Url

variable {cs : List Char} {c mark : Char} {u : Url}

/-- Whether a character ends an authority. -/
def isDelimiter (c : Char) : Bool := c == '/' || c == '?' || c == '#'

section Cutting

theorem splitScheme_cases (cs : List Char) :
    (∃ rest, cs = ':' :: rest ∧ splitScheme cs = ([],rest)) ∨
    (∃ scheme rest, scheme ≠ [] ∧ (∀ c ∈ scheme, inScheme c = true) ∧
      cs = scheme ++ ':' :: rest ∧ splitScheme cs = (scheme,rest)) ∨
    splitScheme cs = ([],cs) := by
  have whole := List.takeWhile_append_dropWhile (p := inScheme) (l := cs)
  have scheme : ∀ c ∈ cs.takeWhile inScheme, inScheme c = true := fun _ => List.mem_takeWhile_imp
  rw [splitScheme,List.span_eq_takeWhile_dropWhile]
  generalize cs.takeWhile inScheme = before at whole scheme
  generalize cs.dropWhile inScheme = after at whole
  split
  · rename_i rest same
    obtain ⟨rfl,rfl⟩ := Prod.mk.inj same
    exact .inl ⟨rest,whole.symm,rfl⟩
  · rename_i first more rest same
    obtain ⟨rfl,rfl⟩ := Prod.mk.inj same
    split
    · exact .inr (.inl ⟨first :: more,rest,by simp,scheme,whole.symm,rfl⟩)
    · exact .inr (.inr rfl)
  · exact .inr (.inr rfl)

/-- Whether a text is empty or begins where an authority ends. -/
def Ends (cs : List Char) : Prop := cs = [] ∨ ∃ c rest, cs = c :: rest ∧ isDelimiter c = true

theorem splitAuthority_cases (cs : List Char) :
    (∃ authority rest, cs = '/' :: '/' :: (authority ++ rest) ∧
      (∀ c ∈ authority, isDelimiter c = false) ∧ Ends rest ∧
      splitAuthority cs = (authority,rest)) ∨
    (∀ rest, cs ≠ '/' :: '/' :: rest) ∧ splitAuthority cs = ([],cs) := by
  unfold splitAuthority
  split
  · rename_i rest
    have inner : (fun c => c != '/' && c != '?' && c != '#') = fun c => !isDelimiter c := by
      funext c
      simp [isDelimiter,Bool.and_assoc,bne]
    rw [inner,List.span_eq_takeWhile_dropWhile]
    refine .inl ⟨_,_,by rw [List.takeWhile_append_dropWhile],?_,?_,rfl⟩
    · intro c member
      simpa using List.mem_takeWhile_imp member
    · cases after : rest.dropWhile fun c => !isDelimiter c with
      | nil => exact .inl rfl
      | cons c more =>
        have ends := List.head_dropWhile_not (fun c => !isDelimiter c) (l := rest) (by simp [after])
        simp only [after,List.head_cons] at ends
        exact .inr ⟨c,more,rfl,by simpa using ends⟩
  · rename_i other
    exact .inr ⟨other,rfl⟩

theorem authority_unique {first second rest rest' : List Char}
    (inside : ∀ c ∈ first, isDelimiter c = false) (inside' : ∀ c ∈ second, isDelimiter c = false)
    (ends : Ends rest) (ends' : Ends rest') (same : first ++ rest = second ++ rest') :
    first = second ∧ rest = rest' := by
  induction first generalizing second with
  | nil =>
    cases second with
    | nil => exact ⟨rfl,same⟩
    | cons c second =>
      rcases ends with rfl | ⟨d,more,rfl,delimits⟩
      · cases same
      · obtain ⟨rfl,_⟩ := List.cons.inj same
        simp [inside' d List.mem_cons_self] at delimits
  | cons c first ih =>
    cases second with
    | nil =>
      rcases ends' with rfl | ⟨d,more,rfl,delimits⟩
      · cases same
      · obtain ⟨rfl,_⟩ := List.cons.inj same
        simp [inside c List.mem_cons_self] at delimits
    | cons d second =>
      obtain ⟨rfl,tail⟩ := List.cons.inj same
      obtain ⟨rfl,rfl⟩ := ih (fun c member => inside c (List.mem_cons_of_mem _ member))
        (fun c member => inside' c (List.mem_cons_of_mem _ member)) tail
      exact ⟨rfl,rfl⟩

theorem splitMark_absent (absent : mark ∉ cs) : splitMark mark cs = (cs,none) := by
  rw [splitMark,Text.span_absent absent]

theorem splitMark_whole (whole : (splitMark mark cs).2 = none) : (splitMark mark cs).1 = cs := by
  have front := List.takeWhile_append_dropWhile (p := (· != mark)) (l := cs)
  rw [splitMark,List.span_eq_takeWhile_dropWhile] at whole ⊢
  cases rest : cs.dropWhile (· != mark) with
  | nil => simpa [rest] using front
  | cons c more => simp [rest] at whole

theorem splitLast?_eq {before after : List Char}
    (found : splitLast? mark cs = some (before,after)) : cs = before ++ mark :: after := by
  have whole := List.takeWhile_append_dropWhile (p := (· != mark)) (l := cs.reverse)
  rw [splitLast?,List.span_eq_takeWhile_dropWhile] at found
  cases rest : cs.reverse.dropWhile (· != mark) with
  | nil => simp [rest] at found
  | cons d more =>
    have last := List.head_dropWhile_not (· != mark) (l := cs.reverse) (by simp [rest])
    obtain rfl : d = mark := by simpa [rest] using last
    simp only [rest,Option.some.injEq,Prod.mk.injEq] at found
    obtain ⟨rfl,rfl⟩ := found
    have back := congrArg List.reverse whole
    simp only [rest,List.reverse_append,List.reverse_cons,List.reverse_reverse,List.append_assoc,
      List.cons_append,List.nil_append] at back
    exact back.symm

end Cutting

section Sites
variable {host name authority : List Char} {scheme : String} {site : Site}

private theorem mem_splitHost (member : c ∈ (splitHost cs).1) : c ∈ cs := by
  unfold splitHost at member
  dsimp only at member
  split at member
  · rename_i host rest found
    have whole := splitLast?_eq found
    rw [whole]
    rcases List.mem_append.mp member with inside | single
    · exact List.mem_append_left _ inside
    · rw [List.mem_singleton.mp single]
      simp
  · rw [List.span_eq_takeWhile_dropWhile] at member
    exact (List.takeWhile_prefix _).subset member

/-- A host is made of characters that are written, or of those that may stand in one, or it is a name
in ASCII for one that was not. -/
private theorem readHost_cases (read : readHost host = .ok name) :
    (∀ c ∈ name, c ∈ host ∨ Percent.isWritten Percent.inHost c = true) ∨
      IsAscii name ∧ ¬IsAscii host := by
  unfold readHost at read
  split at read
  · obtain rfl := Except.ok.inj read
    exact .inl nofun
  · split at read
    · split at read
      · obtain rfl := Except.ok.inj read
        exact .inl fun c member => .inl member
      · cases read
    · split at read
      · dsimp only at read
        split at read
        · obtain rfl := Except.ok.inj read
          refine .inl fun c member => .inl ?_
          exact List.mem_of_mem_tail ((List.dropLast_sublist _).subset member)
        · cases read
      · split at read
        · obtain rfl := Except.ok.inj read
          exact .inl fun c member => .inr (Percent.encode_isWritten _ _ c member)
        · rename_i beyond
          split at read
          · rename_i form written
            obtain rfl := Except.ok.inj read
            refine .inr ⟨DomainName.encode?_isAscii written,fun ascii => beyond ?_⟩
            exact List.all_eq_true.mpr fun c member => by simpa using ascii c member
          · cases read

theorem readSite_cases (read : readSite scheme authority = .ok site) :
    (∀ c ∈ site.userInfo, Percent.isWritten Percent.inUserInfo c = true) ∧
      ((∀ c ∈ site.host, c ∈ authority ∨ Percent.isWritten Percent.inHost c = true) ∨
        IsAscii site.host ∧ ¬IsAscii authority) := by
  unfold readSite at read
  dsimp only at read
  obtain ⟨name,named,read⟩ := except_bind_ok read
  obtain ⟨port,_,read⟩ := except_bind_ok read
  obtain rfl := Except.ok.inj read
  refine ⟨Percent.encode_isWritten _ _,?_⟩
  have inside : ∀ c ∈ ((splitLast? '@' authority).getD ([],authority)).2, c ∈ authority := by
    intro c member
    cases found : splitLast? '@' authority with
    | none => simpa [found] using member
    | some halves =>
      obtain ⟨before,after⟩ := halves
      rw [found] at member
      rw [splitLast?_eq found]
      exact List.mem_append_right _ (List.mem_cons_of_mem _ member)
  rcases readHost_cases named with written | ⟨ascii,beyond⟩
  · exact .inl fun c member => (written c member).imp_left fun held => inside c (mem_splitHost held)
  · exact .inr ⟨ascii,fun all => beyond fun c member => all c (inside c (mem_splitHost member))⟩

end Sites

section Texts

private theorem mem_toString {n : Int} (member : c ∈ (toString n).toList) :
    c = '-' ∨ c.isDigit = true := by
  have digits (n : Nat) (member : c ∈ (toString n).toList) : c.isDigit = true := by
    have same : (toString n).toList = Nat.toDigits 10 n := by simp [toString,Nat.repr]
    exact Nat.isDigit_of_mem_toDigits (by omega) (by omega) (same ▸ member)
  cases n with
  | ofNat n => exact .inr (digits n member)
  | negSucc n =>
    have same : (toString (Int.negSucc n)).toList = '-' :: (toString (n + 1)).toList := by
      have text : toString (Int.negSucc n) = "-" ++ toString (n + 1) := rfl
      rw [text,String.toList_append]
      rfl
    rw [same] at member
    rcases List.mem_cons.mp member with rfl | member
    · exact .inl rfl
    · exact .inr (digits _ member)

theorem mem_authority (member : c ∈ u.authority.toList) :
    c ∈ u.userInfo.toList ∨ c ∈ u.host.toList ∨ c ∈ ['@','[',']',':','-'] ∨ c.isDigit = true := by
  rw [authority,String.toList_append,List.mem_append] at member
  rcases member with member | member
  · split at member
    · cases member
    · rw [String.toList_append,List.mem_append] at member
      rcases member with member | sign
      · exact .inl member
      · obtain rfl : c = '@' := by simpa using sign
        exact .inr (.inr (.inl (by simp)))
  · rw [hostAndPort,String.toList_append,List.mem_append] at member
    rcases member with member | member
    · split at member
      · simp only [String.toList_append,List.mem_append] at member
        rcases member with (sign | member) | sign
        · obtain rfl : c = '[' := by simpa using sign
          exact .inr (.inr (.inl (by simp)))
        · exact .inr (.inl member)
        · obtain rfl : c = ']' := by simpa using sign
          exact .inr (.inr (.inl (by simp)))
      · exact .inr (.inl member)
    · split at member
      · rw [String.toList_append,List.mem_append] at member
        rcases member with sign | member
        · obtain rfl : c = ':' := by simpa using sign
          exact .inr (.inr (.inl (by simp)))
        · rcases mem_toString member with rfl | digit
          · exact .inr (.inr (.inl (by simp)))
          · exact .inr (.inr (.inr digit))
      · cases member

theorem authority_eq_empty : u.authority = "" ↔ u.userInfo = "" ∧ u.host = "" ∧ u.port = none := by
  simp only [authority,hostAndPort,String.append_eq_empty_iff]
  constructor
  · rintro ⟨userInfo,host,port⟩
    refine ⟨?_,?_,?_⟩
    · split at userInfo
      · exact String.isEmpty_iff.mp ‹_›
      · simp at userInfo
    · split at host
      · simp at host
      · exact host
    · cases named : u.port with
      | none => rfl
      | some number => simp [named] at port
  · rintro ⟨userInfo,host,port⟩
    simp [userInfo,host,port]

end Texts

end ScopedAnalytics.Url
