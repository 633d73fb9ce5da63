import ScopedAnalytics.Proofs.Http.Segments
import ScopedAnalytics.Proofs.Http.Splitting

/-! URLs that are read from their own text. Such a text is taken apart into the very parts of its URL,
so a longer path makes the URL of a longer text and leaves everything else as it is. -/
namespace ScopedAnalytics.Url

variable {u : Url} {parts : Parts} {cs path more : List Char} {c : Char}

/-- A URL without query and fragment whose text is in the normal form. -/
structure IsNormal (u : Url) : Prop where
  read : read u.text = .ok u
  query : u.query = none
  fragment : u.fragment = none

section Reading

/-- An authority with the slashes before it. -/
def slashed (authority : List Char) : List Char :=
  if authority = [] then [] else '/' :: '/' :: authority

def front (u : Url) : List Char :=
  (if u.scheme.toList = [] then [] else u.scheme.toList ++ [':']) ++ slashed u.authority.toList

theorem text_toList (query : u.query = none) (fragment : u.fragment = none) :
    u.text.toList = u.front ++ u.path.toList := by
  rw [text,query,fragment]
  simp only [front,slashed,String.toList_append,String.isEmpty_iff,String.toList_eq_nil_iff]
  split <;> split <;> simp

/-- What the parts of a text make of a URL. -/
structure IsRead (parts : Parts) (u : Url) (site : Site) : Prop where
  sited : readSite (String.ofList parts.scheme) parts.authority = .ok site
  checked : checkPath (!parts.scheme.isEmpty) (!site.isEmpty) parts.path = .ok ()
  scheme : u.scheme.toList = parts.scheme.map Char.toLower
  userInfo : u.userInfo.toList = site.userInfo
  host : u.host.toList = site.host
  port : u.port = site.port
  path : u.path.toList =
    Percent.encode Percent.inPath (readPath (!parts.scheme.isEmpty || !site.isEmpty) parts.path)
  query : u.query = none ↔ parts.query = none
  fragment : u.fragment = none ↔ parts.fragment = none

theorem ofParts_ok (ok : ofParts parts = .ok u) : ∃ site, IsRead parts u site := by
  unfold ofParts at ok
  obtain ⟨site,read,ok⟩ := except_bind_ok ok
  obtain ⟨_,checked,ok⟩ := except_bind_ok ok
  obtain rfl := Except.ok.inj ok
  exact ⟨site,read,checked,by simp,by simp,by simp,rfl,by simp,by simp,by simp⟩

theorem read_ok {t : String} (ok : read t = .ok u) :
    t.toList.length ≤ lengthLimit ∧ ofParts (split t.toList) = .ok u := by
  unfold read at ok
  dsimp only at ok
  split at ok
  · cases ok
  · split at ok
    · cases ok
    · exact ⟨by omega,ok⟩

theorem split_unmarked (query : (split cs).query = none) (fragment : (split cs).fragment = none) :
    splitAuthority (splitScheme cs).2 = ((split cs).authority,(split cs).path) := by
  have path : (split cs).path = (splitAuthority (splitScheme cs).2).2 :=
    (splitMark_whole query).trans (splitMark_whole fragment)
  rw [path]
  rfl

namespace IsRead
variable {site : Site}

theorem inPath (read : IsRead parts u site) : ∀ c ∈ u.path.toList, Percent.inPath c = true := by
  intro c member
  rw [read.path] at member
  exact Percent.inPath_of_isWritten (Percent.encode_isWritten _ _ c member)

theorem authority_eq_empty (read : IsRead parts u site) : u.authority = "" ↔ site.isEmpty = true := by
  rw [Url.authority_eq_empty,← String.toList_inj,← String.toList_inj,read.userInfo,read.host,
    read.port,Site.isEmpty]
  simp [and_assoc]

theorem own (read : IsRead parts u site) (inside : ∀ c ∈ parts.path, c ∈ u.path.toList) :
    u.path.toList = readPath (!parts.scheme.isEmpty || !site.isEmpty) parts.path := by
  rw [read.path]
  refine Percent.encode_eq_self Percent.inPath_percent ?_
  intro c member
  rcases mem_readPath member with rfl | held
  · exact Percent.inPath_slash
  · exact read.inPath c (inside c held)

theorem path_length_le (read : IsRead parts u site)
    (inside : ∀ c ∈ parts.path, c ∈ u.path.toList) : u.path.toList.length ≤ parts.path.length := by
  rw [read.own inside]
  exact readPath_length_le _ _

theorem path_ends (read : IsRead parts u site) (sited : u.authority ≠ "") : Ends u.path.toList := by
  have there : site.isEmpty = false := by simpa using mt read.authority_eq_empty.mpr sited
  have root : parts.path = [] ∨ parts.path.head? = some '/' := by
    have checked := read.checked
    unfold checkPath at checked
    split at checked
    · cases checked
    · rename_i rooted
      simpa [there,or_iff_not_imp_left] using rooted
  have sign : isDelimiter '/' = true := rfl
  rw [read.path]
  rcases readPath_root root with void | first
  · rw [void]
    exact .inl rfl
  · obtain ⟨rest,same⟩ := List.head?_eq_some_iff.mp first
    rw [same,Percent.encode_cons (by decide) Percent.inPath_slash]
    exact .inr ⟨'/',_,rfl,sign⟩

end IsRead

end Reading

section Authority
variable {site : Site}

private theorem splitScheme_inScheme (cs : List Char) :
    ∀ c ∈ (splitScheme cs).1, inScheme c = true := by
  rcases splitScheme_cases cs with ⟨rest,_,same⟩ | ⟨scheme,rest,_,inside,_,same⟩ | same
  · rw [same]
    exact nofun
  · rw [same]
    exact inside
  · rw [same]
    exact nofun

private theorem split_scheme (cs : List Char) : (split cs).scheme = (splitScheme cs).1 := rfl

private theorem splitScheme_suffix (cs : List Char) : (splitScheme cs).2 <:+ cs := by
  rcases splitScheme_cases cs with ⟨rest,rfl,same⟩ | ⟨scheme,rest,_,_,rfl,same⟩ | same
  · rw [same]
    exact List.suffix_cons _ _
  · rw [same]
    exact (List.suffix_cons _ _).trans (List.suffix_append _ _)
  · exact ⟨[],congrArg Prod.snd same⟩

private theorem split_authority (cs : List Char) :
    (∀ c ∈ (split cs).authority, isDelimiter c = false) ∧ (split cs).authority ⊆ cs := by
  have suffix := (splitScheme_suffix cs).subset
  have same : (split cs).authority = (splitAuthority (splitScheme cs).2).1 := rfl
  rw [same]
  rcases splitAuthority_cases (splitScheme cs).2 with ⟨authority,rest,whole,inside,_,cut⟩ | ⟨_,cut⟩
  · rw [cut]
    refine ⟨inside,fun c member => suffix ?_⟩
    rw [whole]
    simp [show c ∈ authority from member]
  · rw [cut]
    exact ⟨nofun,List.nil_subset _⟩

private theorem isAscii_toLower (own : inScheme c = true) : c.toLower.toNat < 0x80 := by
  have ascii : c.toNat < 0x80 := by
    simp only [inScheme,Bool.or_eq_true,beq_iff_eq] at own
    rcases own with ((alphanum | rfl) | rfl) | rfl
    · exact isAscii_of_isAlphanum alphanum
    all_goals decide
  exact ascii_forall (P := fun c => c.toLower.toNat < 0x80) (by decide) ascii

private theorem text_isAscii (read : IsRead (split cs) u site) (query : u.query = none)
    (fragment : u.fragment = none) (host : IsAscii site.host) : IsAscii u.text.toList := by
  have scheme : IsAscii u.scheme.toList := by
    rw [read.scheme]
    intro c member
    obtain ⟨d,held,rfl⟩ := List.mem_map.mp member
    exact isAscii_toLower (splitScheme_inScheme cs d held)
  have userInfo : IsAscii u.userInfo.toList := by
    rw [read.userInfo]
    exact fun c member => Percent.isAscii_of_isWritten (fun _ => Percent.isAscii_of_inUserInfo)
      ((readSite_cases read.sited).1 c member)
  have authority : IsAscii u.authority.toList := by
    intro c member
    rcases mem_authority member with inside | inside | sign | digit
    · exact userInfo c inside
    · exact host c (read.host ▸ inside)
    · exact (by decide : IsAscii ['@','[',']',':','-']) c sign
    · exact isAscii_of_isAlphanum (by simp [Char.isAlphanum,digit])
  have path : IsAscii u.path.toList := fun c member => Percent.isAscii_of_inPath (read.inPath c member)
  rw [text_toList query fragment,front,slashed]
  refine (IsAscii.append ?_ ?_).append path
  · split
    · exact .nil
    · exact scheme.append (by decide)
  · split
    · exact .nil
    · exact (by decide : IsAscii ['/','/']).append authority

private theorem undelimited_of_isWritten {plain : Char → Bool}
    (signs : ['/','?','#'].any (Percent.isWritten plain) = false)
    (written : Percent.isWritten plain c = true) : isDelimiter c = false := by
  cases delimits : isDelimiter c with
  | false => rfl
  | true =>
    have sign : c ∈ ['/','?','#'] := by simpa [isDelimiter,or_assoc] using delimits
    exact absurd written (List.any_eq_false.mp signs c sign)

/-- Nothing in the authority of a URL in the normal form ends it. -/
theorem IsNormal.undelimited (normal : IsNormal u) :
    ∀ c ∈ u.authority.toList, isDelimiter c = false := by
  obtain ⟨site,read⟩ := ofParts_ok (read_ok normal.read).2
  obtain ⟨inside,within⟩ := split_authority u.text.toList
  obtain ⟨userInfo,host⟩ := readSite_cases read.sited
  intro c member
  rcases mem_authority member with held | held | sign | digit
  · refine undelimited_of_isWritten ?_ (userInfo c (read.userInfo ▸ held))
    simp only [List.any_cons,List.any_nil,Percent.isWritten,Percent.isUnreserved,
      Percent.inUserInfo,Percent.inPath,Percent.inQuery]
    decide
  · rw [read.host] at held
    rcases host with written | ⟨ascii,beyond⟩
    · rcases written c held with own | written
      · exact inside c own
      · refine undelimited_of_isWritten ?_ written
        simp only [List.any_cons,List.any_nil,Percent.isWritten,Percent.isUnreserved,
          Percent.inHost]
        decide
    · have all := text_isAscii read normal.query normal.fragment ascii
      exact absurd (fun d member => all d (within member)) beyond
  · exact mem_forall (P := fun c => isDelimiter c = false) (by decide) c sign
  · have ascii := isAscii_of_isAlphanum (c := c) (by simp [Char.isAlphanum,digit])
    exact ascii_forall (P := fun c => c.isDigit = true → isDelimiter c = false) (by decide) ascii digit

end Authority

section Normal

namespace IsNormal
variable {site : Site}

theorem text_eq (normal : IsNormal u) : u.text.toList = u.front ++ u.path.toList :=
  text_toList normal.query normal.fragment

private theorem exists_read (normal : IsNormal u) : ∃ site, IsRead (split u.text.toList) u site :=
  ofParts_ok (read_ok normal.read).2

private theorem cut_eq (normal : IsNormal u) : splitAuthority (splitScheme u.text.toList).2 =
    ((split u.text.toList).authority,(split u.text.toList).path) := by
  obtain ⟨site,read⟩ := normal.exists_read
  exact split_unmarked (read.query.mp normal.query) (read.fragment.mp normal.fragment)

/-- The path of a URL in the normal form is not read from a shorter part of it. -/
private theorem path_not_within (normal : IsNormal u)
    (within : (split u.text.toList).path <:+ u.path.toList)
    (other : (split u.text.toList).path ≠ u.path.toList) : False := by
  obtain ⟨site,read⟩ := normal.exists_read
  have bound := read.path_length_le fun c member => within.subset member
  exact other (within.eq_of_length_le bound)

private theorem splitAuthority_suffix (cs : List Char) : (splitAuthority cs).2 <:+ cs := by
  rcases splitAuthority_cases cs with ⟨authority,rest,whole,_,_,cut⟩ | ⟨_,cut⟩
  · rw [cut,whole]
    exact ⟨'/' :: '/' :: authority,by simp⟩
  · exact ⟨[],congrArg Prod.snd cut⟩

/-- A leading colon would stand in the path, and the path would be read from what follows it. -/
private theorem text_ne_colon (normal : IsNormal u) (rest : List Char) :
    u.text.toList ≠ ':' :: rest := by
  intro whole
  obtain ⟨site,read⟩ := normal.exists_read
  have scheme := read.scheme
  have both := normal.cut_eq
  have text := normal.text_eq
  have cut : splitScheme (':' :: rest) = ([],rest) := rfl
  rw [split_scheme,whole,cut] at scheme
  rw [whole,cut] at both
  rw [whole,front,if_pos (by simpa using scheme),List.nil_append,slashed] at text
  split at text
  · have within := splitAuthority_suffix rest
    have path : (split u.text.toList).path = (splitAuthority rest).2 := by rw [whole,both]
    refine normal.path_not_within ?_ fun same => ?_
    · rw [path,← List.nil_append u.path.toList,← text]
      exact within.trans (List.suffix_cons _ _)
    · have long := congrArg List.length text
      have short := within.length_le
      rw [← path,same] at short
      simp only [List.length_cons,List.nil_append] at long
      omega
  · simp at text

private theorem scheme_eq (normal : IsNormal u) :
    (split u.text.toList).scheme = u.scheme.toList ∧
      (splitScheme u.text.toList).2 = slashed u.authority.toList ++ u.path.toList := by
  obtain ⟨site,read⟩ := normal.exists_read
  have scheme := read.scheme
  have text := normal.text_eq
  rw [front] at text
  rw [split_scheme] at scheme ⊢
  rcases splitScheme_cases u.text.toList with ⟨rest,whole,_⟩ | ⟨name,rest,some,_,whole,cut⟩ | cut
  · exact absurd whole (normal.text_ne_colon rest)
  · rw [cut] at scheme ⊢
    have there : u.scheme.toList ≠ [] := by
      rw [scheme]
      simpa using some
    rw [if_neg there,whole,List.append_assoc,List.append_assoc,List.singleton_append] at text
    obtain ⟨same,tail⟩ := List.append_inj text (by simp [scheme])
    exact ⟨same,(List.cons.inj tail).2⟩
  · rw [cut] at scheme ⊢
    have none : u.scheme.toList = [] := scheme
    refine ⟨none.symm,text.trans ?_⟩
    rw [if_pos none,List.nil_append]

private theorem authority_eq (normal : IsNormal u) :
    (split u.text.toList).authority = u.authority.toList ∧
      (split u.text.toList).path = u.path.toList := by
  obtain ⟨site,read⟩ := normal.exists_read
  have cut := normal.cut_eq
  rw [normal.scheme_eq.2] at cut
  rcases splitAuthority_cases (slashed u.authority.toList ++ u.path.toList) with
    ⟨authority,rest,whole,inside,ends,both⟩ | ⟨other,both⟩
  · obtain ⟨authorityEq,pathEq⟩ := Prod.mk.inj (both.symm.trans cut)
    rw [slashed] at whole
    split at whole
    · exfalso
      have within : rest <:+ u.path.toList := ⟨'/' :: '/' :: authority,by simpa using whole.symm⟩
      refine normal.path_not_within (pathEq ▸ within) fun same => ?_
      have long := congrArg List.length whole
      rw [← pathEq] at same
      rw [← same] at long
      simp at long
      omega
    · rename_i there
      simp only [List.cons_append,List.cons.injEq,true_and] at whole
      obtain ⟨same,tail⟩ := authority_unique normal.undelimited inside
        (read.path_ends (mt String.toList_eq_nil_iff.mpr there)) ends whole
      exact ⟨authorityEq.symm.trans same.symm,pathEq.symm.trans tail.symm⟩
  · obtain ⟨authorityEq,pathEq⟩ := Prod.mk.inj (both.symm.trans cut)
    rw [slashed] at other pathEq
    split at other
    · rename_i void
      rw [if_pos void] at pathEq
      exact ⟨authorityEq.symm.trans void.symm,pathEq.symm⟩
    · exact absurd rfl (other _)

/-- A text in the normal form is taken apart into the parts that it was written from. -/
theorem split_eq (normal : IsNormal u) : split u.text.toList =
    ⟨u.scheme.toList,u.authority.toList,u.path.toList,none,none⟩ := by
  obtain ⟨site,read⟩ := normal.exists_read
  obtain ⟨scheme,_⟩ := normal.scheme_eq
  obtain ⟨authority,path⟩ := normal.authority_eq
  have query := read.query.mp normal.query
  have fragment := read.fragment.mp normal.fragment
  generalize split u.text.toList = parts at *
  cases parts
  simp only at scheme authority path query fragment
  rw [scheme,authority,path,query,fragment]

end IsNormal

end Normal

end ScopedAnalytics.Url
