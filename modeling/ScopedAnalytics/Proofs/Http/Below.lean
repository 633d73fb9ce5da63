import ScopedAnalytics.Proofs.Http.Normal

/-! What stands below a URL in the normal form. Its path is longer by the path that is put below it,
and everything else of it stays. -/
namespace ScopedAnalytics.Url

variable {u base : Url} {path more : List Char}

/-- A path that can be put below another one as it is, behind a slash. -/
structure IsPlain (more : List Char) : Prop where
  own : ∀ c ∈ more, Percent.inPath c = true
  undotted : ∀ s ∈ Address.splitAtChar '/' more, isDots s = false
  unslashed : more.head? ≠ some '/'

theorem IsPlain.nil : IsPlain [] := ⟨nofun,by decide,nofun⟩

def longer (u : Url) (more : List Char) : Url :=
  { u with path := u.path ++ String.ofList ('/' :: more) }

theorem longer_path (u : Url) (more : List Char) :
    (u.longer more).path.toList = u.path.toList ++ '/' :: more := by
  simp [longer]

theorem longer_text (query : u.query = none) (fragment : u.fragment = none) :
    (u.longer more).text = u.text ++ String.ofList ('/' :: more) := by
  rw [← String.toList_inj,text_toList (u := u.longer more) query fragment,longer_path,
    String.toList_append,text_toList query fragment,List.append_assoc,String.toList_ofList]
  rfl

private theorem checkPath_append {hasScheme hasAuthority : Bool}
    (ok : checkPath hasScheme hasAuthority path = .ok ()) (unslashed : path.getLast? ≠ some '/')
    (apart : more.head? ≠ some '/') :
    checkPath hasScheme hasAuthority (path ++ '/' :: more) = .ok () := by
  cases path with
  | nil =>
    cases more with
    | nil => simp [checkPath]
    | cons c more => simp_all [checkPath]
  | cons c path =>
    cases path with
    | nil => simp_all [checkPath]
    | cons d path => simpa [checkPath] using ok

private theorem endsWith_slash_iff {t : String} :
    t.endsWith "/" = true ↔ t.toList.getLast? = some '/' := by
  rw [String.endsWith_eq_endsWith_toSlice,String.Slice.endsWith_string_iff,
    List.getLast?_eq_some_iff]
  simp [List.IsSuffix,eq_comm]

private theorem check_eq {scheme authority : List Char} (short : scheme.length ≤ lengthLimit)
    (brief : authority.length ≤ lengthLimit) (path : List Char) :
    (Parts.mk scheme authority path none none).check =
      if lengthLimit < path.length then .error (.partTooLong "path") else .ok () := by
  have none : ¬lengthLimit < ([] : List Char).length := by decide
  by_cases long : lengthLimit < path.length
  · simp [Parts.check,List.find?,Nat.not_lt.mpr short,Nat.not_lt.mpr brief,long]
  · simp [Parts.check,List.find?,Nat.not_lt.mpr short,Nat.not_lt.mpr brief,long]

namespace IsNormal

private theorem parts_read (normal : IsNormal u) : ∃ site,
    IsRead ⟨u.scheme.toList,u.authority.toList,u.path.toList,none,none⟩ u site :=
  normal.split_eq ▸ ofParts_ok (read_ok normal.read).2

theorem ofParts_longer (normal : IsNormal u) (unslashed : u.path.toList.getLast? ≠ some '/')
    (plain : IsPlain more) :
    ofParts ⟨u.scheme.toList,u.authority.toList,u.path.toList ++ '/' :: more,none,none⟩ =
      .ok (u.longer more) := by
  obtain ⟨site,read⟩ := normal.parts_read
  have checked := checkPath_append read.checked unslashed plain.unslashed
  have own := read.own fun _ member => member
  have path := readPath_append own.symm plain.undotted
  have written : Percent.encode Percent.inPath (u.path.toList ++ '/' :: more) =
      u.path.toList ++ '/' :: more := by
    refine Percent.encode_eq_self Percent.inPath_percent fun c member => ?_
    rcases List.mem_append.mp member with before | after
    · exact read.inPath c before
    · rcases List.mem_cons.mp after with rfl | after
      · exact Percent.inPath_slash
      · exact plain.own c after
  have same : u.longer more = ⟨String.ofList (u.scheme.toList.map Char.toLower),
      String.ofList site.userInfo,String.ofList site.host,site.port,
      String.ofList (u.path.toList ++ '/' :: more),none,none⟩ := by
    rw [← read.scheme,← read.userInfo,← read.host,← read.port,longer,normal.query,normal.fragment]
    simp
  unfold ofParts
  rw [read.sited,same]
  simp only [bind,Except.bind,checked,path,written]
  rfl

private theorem part_lengths (normal : IsNormal u) :
    u.scheme.toList.length ≤ lengthLimit ∧ u.authority.toList.length ≤ lengthLimit := by
  have bound := (read_ok normal.read).1
  have scheme : u.scheme.toList.length ≤
      (if u.scheme.toList = [] then [] else u.scheme.toList ++ [':']).length := by
    split <;> simp_all
  have authority : u.authority.toList.length ≤ (slashed u.authority.toList).length := by
    rw [slashed]
    split
    · simp_all
    · simp only [List.length_cons]
      omega
  rw [normal.text_eq,front,List.length_append,List.length_append] at bound
  omega

/-- A longer target makes the URL with the longer path, unless the path gets too long. -/
theorem withTarget_longer (normal : IsNormal u) (unslashed : u.path.toList.getLast? ≠ some '/')
    (plain : IsPlain more) {target : String} (path : String)
    (longer : target.toList = u.path.toList ++ '/' :: more) :
    ({ u with path := path } : Url).withTarget target =
      if lengthLimit < target.toList.length then .error (.partTooLong "path")
      else .ok (u.longer more) := by
  obtain ⟨site,read⟩ := normal.parts_read
  have unmarked : '?' ∉ target.toList := by
    intro member
    rw [longer,List.mem_append,List.mem_cons] at member
    have own : Percent.inPath '?' = true := by
      rcases member with before | impossible | after
      · exact read.inPath _ before
      · cases impossible
      · exact plain.own _ after
    simp [Percent.inPath] at own
  obtain ⟨scheme,authority⟩ := normal.part_lengths
  have parts : ({ u with path := path } : Url).withTarget target =
      ((Parts.mk u.scheme.toList u.authority.toList target.toList none none).check >>= fun _ =>
        ofParts ⟨u.scheme.toList,u.authority.toList,target.toList,none,none⟩) := by
    rw [withTarget,splitMark_absent unmarked,normal.fragment]
    rfl
  rw [parts,check_eq scheme authority,longer]
  split
  · rfl
  · exact normal.ofParts_longer unslashed plain

theorem asBase_ok (normal : IsNormal u) (unslashed : u.path.toList.getLast? ≠ some '/')
    (ok : u.asBase = .ok base) :
    ∃ path, base = { u with path := path } ∧ base.target.toList = u.path.toList ++ ['/'] := by
  have target : u.target = if u.path.isEmpty then "/" else u.path := by
    simp [Url.target,normal.query]
  rw [asBase,target] at ok
  by_cases void : u.path = ""
  · have slash : "/".endsWith "/" = true := endsWith_slash_iff.mpr rfl
    rw [if_pos (String.isEmpty_iff.mpr void),if_pos slash] at ok
    obtain rfl := Except.ok.inj ok
    refine ⟨u.path,rfl,?_⟩
    rw [target,if_pos (String.isEmpty_iff.mpr void),void]
    rfl
  · have written : ¬u.path.isEmpty := by simpa [String.isEmpty_iff] using void
    have other : ¬u.path.endsWith "/" = true := mt endsWith_slash_iff.mp unslashed
    rw [if_neg written,if_neg other,
      normal.withTarget_longer unslashed IsPlain.nil u.path (by simp)] at ok
    split at ok
    · cases ok
    · obtain rfl := Except.ok.inj ok
      exact ⟨_,rfl,by simp [Url.target,Url.longer,normal.query]⟩

/-- A path below a base is put behind the path of its URL, unless it gets too long there. -/
theorem below_eq (normal : IsNormal u) (unslashed : u.path.toList.getLast? ≠ some '/')
    (ok : u.asBase = .ok base) (plain : IsPlain more) :
    base.below (String.ofList ('/' :: more)) =
      if lengthLimit < u.path.toList.length + 1 + more.length then .error (.partTooLong "path")
      else .ok (u.longer more) := by
  obtain ⟨path,rfl,target⟩ := normal.asBase_ok unslashed ok
  have rest : ((String.ofList ('/' :: more)).toList.dropWhile (· == '/')) = more := by
    have apart := plain.unslashed
    cases more with
    | nil => rfl
    | cons c more => simp_all
  have whole : (({ u with path := path } : Url).target ++ String.ofList more).toList =
      u.path.toList ++ '/' :: more := by
    rw [String.toList_append,target,String.toList_ofList,List.append_assoc]
    rfl
  rw [below,rest,normal.withTarget_longer unslashed plain path whole,whole]
  simp only [List.length_append,List.length_cons,Nat.add_assoc,Nat.add_comm]

end IsNormal

end ScopedAnalytics.Url
