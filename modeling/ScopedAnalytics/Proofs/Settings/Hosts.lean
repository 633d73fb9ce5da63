import Mathlib.Algebra.GroupWithZero.Nat
import Mathlib.Data.Nat.Digits.Defs
import ScopedAnalytics.CommandLine
import ScopedAnalytics.Program
import ScopedAnalytics.Proofs.Http.Splitting
import ScopedAnalytics.Proofs.Text.Cutting

/-! Which texts are accepted as base URLs, and whether they name a host. What is asked is a scheme of the
web and an authority that is not empty. A host in brackets has to be an address, but without brackets
there may be no host at all, and nothing is asked of a port. -/
namespace ScopedAnalytics.BaseUrl
open Text
open Url (isDelimiter Ends)

variable {text : String}
  {cs scheme lower authority place host port rest tail before after : List Char}

section Schemes

private theorem isAlpha_of_toLower {c : Char} (letter : c.toLower.isAlpha = true) : c.isAlpha = true := by
  unfold Char.toLower at letter
  split at letter
  · rename_i upper
    exact Bool.or_eq_true_iff.mpr (.inl (decide_eq_true upper))
  · exact letter

def IsWeb (scheme : List Char) : Prop :=
  scheme.map Char.toLower = "http".toList ∨ scheme.map Char.toLower = "https".toList

private theorem IsWeb.letters (web : IsWeb scheme) : ∀ c ∈ scheme, c.isAlpha = true := by
  intro c member
  have lowered : c.toLower ∈ scheme.map Char.toLower := List.mem_map_of_mem member
  have letters : ∀ d ∈ ['h','t','t','p','s'], d.isAlpha = true := mem_forall (by decide)
  refine isAlpha_of_toLower (letters _ ?_)
  rcases web with same | same
  · rw [same] at lowered
    exact List.mem_append_left ['s'] lowered
  · rw [same] at lowered
    exact lowered

private theorem IsWeb.splitScheme (web : IsWeb scheme) (rest : List Char) :
    splitScheme (scheme ++ ':' :: rest) = (scheme.map Char.toLower,rest) := by
  have letters := web.letters
  have absent : ':' ∉ scheme := fun member => absurd (letters _ member) (by decide)
  unfold BaseUrl.splitScheme
  rw [span_mark absent]
  cases scheme with
  | nil => rcases web with impossible | impossible <;> cases impossible
  | cons first more =>
    have whole : (first.isAlpha && more.all inScheme) = true := by
      rw [Bool.and_eq_true,List.all_eq_true]
      refine ⟨letters first List.mem_cons_self,fun c member => ?_⟩
      simp [inScheme,Char.isAlphanum,letters c (List.mem_cons_of_mem first member)]
    simp only [whole,if_true]

private theorem of_splitScheme (split : splitScheme cs = (lower,rest)) (filled : lower ≠ []) :
    ∃ scheme, scheme.map Char.toLower = lower ∧ cs = scheme ++ ':' :: rest := by
  unfold splitScheme at split
  rcases mark_cases ':' cs with absent | ⟨before,after,rfl,absent⟩
  · rw [span_absent absent] at split
    cases cs <;> exact absurd (Prod.mk.inj split).1.symm filled
  · rw [span_mark absent] at split
    cases before with
    | nil => exact absurd (Prod.mk.inj split).1.symm filled
    | cons first more =>
      dsimp only at split
      split at split
      · obtain ⟨rfl,rfl⟩ := Prod.mk.inj split
        exact ⟨first :: more,rfl,rfl⟩
      · exact absurd (Prod.mk.inj split).1.symm filled

end Schemes

section Authorities

private theorem authorityOf_eq (cs : List Char) : authorityOf cs = (Url.splitAuthority cs).1 := by
  unfold authorityOf
  split
  · rw [Url.splitAuthority,List.span_eq_takeWhile_dropWhile]
  · rename_i other
    rcases Url.splitAuthority_cases cs with ⟨_,_,same,_⟩ | ⟨_,cut⟩
    · exact absurd same (other _)
    · rw [cut]

/-- The scheme and the authority of a text, as they stand in it once blanks at its front and line breaks
are left out. -/
structure Locates (text : String) (scheme authority : List Char) : Prop where
  web : IsWeb scheme
  inside : ∀ c ∈ authority, isDelimiter c = false
  parts : ∃ rest, significant text = scheme ++ ':' :: '/' :: '/' :: (authority ++ rest) ∧ Ends rest

private theorem authorityOf_parts (inside : ∀ c ∈ authority, isDelimiter c = false) (ends : Ends rest) :
    authorityOf ('/' :: '/' :: (authority ++ rest)) = authority := by
  rw [authorityOf_eq]
  rcases Url.splitAuthority_cases ('/' :: '/' :: (authority ++ rest)) with
    ⟨first,more,same,own,ends',split⟩ | ⟨other,_⟩
  · rw [split]
    have tail := (List.cons.inj (List.cons.inj same).2).2
    exact (Url.authority_unique inside own ends ends' tail).1.symm
  · exact absurd rfl (other _)

theorem Locates.split (locates : Locates text scheme authority) :
    ∃ rest, splitScheme (significant text) = (scheme.map Char.toLower,rest) ∧
      authorityOf rest = authority := by
  obtain ⟨rest,same,ends⟩ := locates.parts
  exact ⟨_,same ▸ locates.web.splitScheme _,authorityOf_parts locates.inside ends⟩

theorem Locates.authority_unique {scheme' authority' : List Char} (locates : Locates text scheme authority)
    (locates' : Locates text scheme' authority') : authority = authority' := by
  obtain ⟨rest,cut,same⟩ := locates.split
  obtain ⟨rest',cut',same'⟩ := locates'.split
  obtain ⟨_,rfl⟩ := Prod.mk.inj (cut.symm.trans cut')
  exact same.symm.trans same'

private theorem locates_of_split (split : splitScheme (significant text) = (lower,rest))
    (web : lower = "http".toList ∨ lower = "https".toList) (filled : authorityOf rest ≠ []) :
    ∃ scheme, Locates text scheme (authorityOf rest) := by
  have letters : lower ≠ [] := by rcases web with rfl | rfl <;> decide
  obtain ⟨scheme,rfl,same⟩ := of_splitScheme split letters
  rw [authorityOf_eq] at filled ⊢
  rcases Url.splitAuthority_cases rest with ⟨authority,more,rfl,inside,ends,cut⟩ | ⟨_,cut⟩
  · rw [cut]
    exact ⟨scheme,web,inside,more,same,ends⟩
  · exact absurd (congrArg Prod.fst cut) filled

end Authorities

section Hosts

/-- What stands in an authority after the user information. -/
def IsPlace (authority place : List Char) : Prop :=
  '@' ∉ place ∧ (authority = place ∨ ∃ user, authority = user ++ '@' :: place)

theorem IsPlace.mem {c : Char} (last : IsPlace authority place) (member : c ∈ place) : c ∈ authority := by
  obtain ⟨_,rfl | ⟨user,rfl⟩⟩ := last
  · exact member
  · exact List.mem_append_right _ (List.mem_cons_of_mem _ member)

/-- What may follow a host: nothing, or a port. A port that is missing is empty. -/
def Follows (tail port : List Char) : Prop := tail = [] ∧ port = [] ∨ tail = ':' :: port

/-- The host and the port that are named after the user information. The host stands in brackets or before
the port. -/
inductive Names : List Char → List Char → List Char → Prop
  | plain {host tail port : List Char} (bare : '[' ∉ host ++ tail) (apart : ':' ∉ host)
      (follows : Follows tail port) : Names (host ++ tail) host port
  -- The only closing bracket can stand in the user information.
  | opened {host : List Char} (inside : ']' ∉ host) : Names ('[' :: host) host []
  | closed {host tail port : List Char} (inside : ']' ∉ host) (follows : Follows tail port) :
      Names ('[' :: (host ++ ']' :: tail)) host port

theorem Follows.ends (follows : Follows tail port) : ∀ c ∈ tail.head?, c = ':' := by
  rcases follows with ⟨rfl,_⟩ | rfl <;> simp

theorem Follows.unique {port' : List Char} (follows : Follows tail port) (follows' : Follows tail port') :
    port = port' := by
  rcases follows with ⟨rfl,rfl⟩ | rfl
  · rcases follows' with ⟨_,rfl⟩ | impossible
    · rfl
    · cases impossible
  · rcases follows' with ⟨impossible,_⟩ | same
    · cases impossible
    · exact (List.cons.inj same).2

theorem Names.unique {place' host' port' : List Char} (names : Names place host port)
    (names' : Names place' host' port') (same : place = place') : host = host' ∧ port = port' := by
  cases names with
  | plain bare apart follows =>
    cases names' with
    | plain _ apart' follows' =>
      obtain ⟨rfl,rfl⟩ := cut_unique apart apart' follows.ends follows'.ends same
      exact ⟨rfl,follows.unique follows'⟩
    | opened => exact absurd (same ▸ List.mem_cons_self) bare
    | closed => exact absurd (same ▸ List.mem_cons_self) bare
  | opened inside =>
    cases names' with
    | plain bare => exact absurd (same ▸ List.mem_cons_self) bare
    | opened => exact ⟨(List.cons.inj same).2,rfl⟩
    | closed => exact absurd ((List.cons.inj same).2 ▸ by simp) inside
  | closed inside follows =>
    cases names' with
    | plain bare => exact absurd (same ▸ List.mem_cons_self) bare
    | opened inside' => exact absurd ((List.cons.inj same).2 ▸ by simp) inside'
    | closed inside' follows' =>
      obtain ⟨rfl,tails⟩ := cut_unique inside inside' (by simp) (by simp) (List.cons.inj same).2
      obtain rfl := (List.cons.inj tails).2
      exact ⟨rfl,follows.unique follows'⟩

theorem isPlace_iff : IsPlace authority place ↔
    (authority.reverse.takeWhile (· != '@')).reverse = place := by
  have cut {place : List Char} (last : IsPlace authority place) :
      (authority.reverse.takeWhile (· != '@')).reverse = place := by
    obtain ⟨absent,same | ⟨user,same⟩⟩ := last
    · rw [same,takeWhile_absent (by simpa using absent),List.reverse_reverse]
    · rw [same,List.reverse_append,List.reverse_cons,List.append_assoc,List.singleton_append,
        takeWhile_mark (by simpa using absent),List.reverse_reverse]
  refine ⟨cut,fun same => ?_⟩
  rcases mark_cases '@' authority.reverse with absent | ⟨before,after,split,absent⟩
  · have last : IsPlace authority authority := ⟨by simpa using absent,.inl rfl⟩
    exact same ▸ (cut last).symm ▸ last
  · have last : IsPlace authority before.reverse := by
      refine ⟨by simpa using absent,.inr ⟨after.reverse,?_⟩⟩
      simpa using congrArg List.reverse split
    exact same ▸ (cut last).symm ▸ last

theorem IsPlace.unique {place' : List Char} (last : IsPlace authority place)
    (last' : IsPlace authority place') : place = place' :=
  (isPlace_iff.mp last).symm.trans (isPlace_iff.mp last')

private theorem hostOf_plain (last : IsPlace authority place) (bare : '[' ∉ place) :
    hostOf authority = .ok (place.takeWhile (· != ':')) := by
  unfold hostOf
  rw [isPlace_iff.mp last]
  dsimp only
  rw [span_absent bare]

private theorem hostOf_within {first : Char} (last : IsPlace authority (first :: before ++ '[' :: rest))
    (bare : '[' ∉ first :: before) : hostOf authority = .error .misplacedBracket := by
  unfold hostOf
  rw [isPlace_iff.mp last]
  dsimp only
  rw [span_mark bare]

private theorem hostOf_open (last : IsPlace authority ('[' :: rest)) (inside : ']' ∉ rest) :
    hostOf authority = .ok rest := by
  unfold hostOf
  rw [isPlace_iff.mp last,← List.nil_append ('[' :: rest)]
  dsimp only
  rw [span_mark List.not_mem_nil]
  dsimp only
  rw [span_absent inside]

private theorem hostOf_closed (last : IsPlace authority ('[' :: (host ++ ']' :: after)))
    (inside : ']' ∉ host) : hostOf authority =
      if after = [] ∨ after.head? = some ':' then .ok host else .error .misplacedBracket := by
  unfold hostOf
  rw [isPlace_iff.mp last,← List.nil_append ('[' :: _)]
  dsimp only
  rw [span_mark List.not_mem_nil]
  dsimp only
  rw [span_mark inside]
  cases after with
  | nil => rfl
  | cons first more =>
    by_cases port : first = ':'
    · subst port
      rfl
    · simp [port]

theorem hostOf_iff (last : IsPlace authority place) :
    hostOf authority = .ok host ↔ ∃ port, Names place host port := by
  constructor
  · intro found
    rcases mark_cases '[' place with bare | ⟨before,inner,rfl,bare⟩
    · obtain rfl := Except.ok.inj ((hostOf_plain last bare).symm.trans found)
      rcases mark_cases ':' place with apart | ⟨host,port,rfl,apart⟩
      · rw [takeWhile_absent apart]
        have names : Names (place ++ []) place [] := .plain (by simpa using bare) apart (.inl ⟨rfl,rfl⟩)
        exact ⟨[],by simpa using names⟩
      · rw [takeWhile_mark apart]
        exact ⟨port,.plain bare apart (.inr rfl)⟩
    · cases before with
      | cons first before => exact absurd ((hostOf_within last bare).symm.trans found) nofun
      | nil =>
        rcases mark_cases ']' inner with inside | ⟨host,after,rfl,inside⟩
        · obtain rfl := Except.ok.inj ((hostOf_open last inside).symm.trans found)
          exact ⟨[],.opened inside⟩
        · rw [hostOf_closed last inside] at found
          split at found
          · rename_i ending
            obtain rfl := Except.ok.inj found
            rcases ending with rfl | marked
            · exact ⟨[],.closed inside (.inl ⟨rfl,rfl⟩)⟩
            · obtain ⟨port,rfl⟩ := List.head?_eq_some_iff.mp marked
              exact ⟨port,.closed inside (.inr rfl)⟩
          · cases found
  · rintro ⟨port,names⟩
    cases names with
    | plain bare apart follows => rw [hostOf_plain last bare,takeWhile_ends apart follows.ends]
    | opened inside => exact hostOf_open last inside
    | closed inside follows =>
      rw [hostOf_closed last inside]
      rcases follows with ⟨rfl,_⟩ | rfl <;> rfl

theorem exists_place (authority : List Char) : ∃ place, IsPlace authority place :=
  ⟨_,isPlace_iff.mpr rfl⟩

/-- What may stand in brackets: an address of version 6, or of a version to come. -/
def IsAddress (host : List Char) : Prop :=
  if host.head? = some 'v' then isFutureAddress host = true
  else Address.isVersion4 host = false ∧ Address.isVersion6 host = true

theorem checkHost_iff : checkHost host = .ok () ↔ IsAddress host := by
  unfold checkHost IsAddress
  split
  · split <;> simp_all
  · split
    · simp_all
    · split <;> simp_all

theorem IsAddress.ne_nil (address : IsAddress host) : host ≠ [] := by
  rintro rfl
  revert address
  unfold IsAddress
  decide

/-- A host is missing where nothing follows the user information, or a port does. -/
theorem Names.nil_iff (names : Names place host port) (address : '[' ∈ place → IsAddress host) :
    host = [] ↔ place = [] ∨ place.head? = some ':' := by
  cases names with
  | @plain host tail port bare apart follows =>
    cases host with
    | nil => rcases follows with ⟨rfl,_⟩ | rfl <;> simp
    | cons c host =>
      have other : c ≠ ':' := fun same => apart (same ▸ List.mem_cons_self)
      simp [other]
  | opened =>
    have filled : host ≠ [] := (address List.mem_cons_self).ne_nil
    simp [filled]
  | closed =>
    have filled : host ≠ [] := (address List.mem_cons_self).ne_nil
    simp [filled]

end Hosts

section Checks

/-- What is asked of an authority: brackets in pairs, in which there is an address, and no character that
stands for text with a delimiter in it. -/
structure IsSound (authority : List Char) : Prop where
  pairs : '[' ∈ authority ↔ ']' ∈ authority
  address : '[' ∈ authority →
    ∃ place host port, IsPlace authority place ∧ Names place host port ∧ IsAddress host
  shown : ∀ c ∈ authority, c.toNat ∉ delimiterForms

private theorem address_iff : (hostOf authority >>= checkHost) = .ok () ↔
    ∃ place host port, IsPlace authority place ∧ Names place host port ∧ IsAddress host := by
  simp only [except_bind_ok_iff,checkHost_iff]
  constructor
  · rintro ⟨host,found,address⟩
    obtain ⟨place,last⟩ := exists_place authority
    obtain ⟨port,names⟩ := (hostOf_iff last).mp found
    exact ⟨place,host,port,last,names,address⟩
  · rintro ⟨place,host,port,last,names,address⟩
    exact ⟨host,(hostOf_iff last).mpr ⟨port,names⟩,address⟩

private theorem unless_ok {P : Prop} [Decidable P] {fault : Fault} :
    (if P then throw fault else pure ()) = (.ok () : Except Fault Unit) ↔ ¬P := by
  split
  · exact ⟨nofun,fun never => absurd ‹P› never⟩
  · exact ⟨fun _ => ‹¬P›,fun _ => rfl⟩

/-- A sound authority names a host, which is missing where nothing stands after the user information or
only a port does. -/
theorem IsSound.names (sound : IsSound authority) (last : IsPlace authority place) :
    ∃ host port, Names place host port ∧ (host = [] ↔ place = [] ∨ place.head? = some ':') := by
  by_cases brackets : '[' ∈ authority
  · obtain ⟨place',host,port,last',names,address⟩ := sound.address brackets
    obtain rfl := last.unique last'
    exact ⟨host,port,names,names.nil_iff fun _ => address⟩
  · have bare : '[' ∉ place := fun member => brackets (last.mem member)
    obtain ⟨port,names⟩ := (hostOf_iff last).mp (hostOf_plain last bare)
    exact ⟨_,port,names,names.nil_iff fun member => absurd member bare⟩

theorem checkAuthority_iff : checkAuthority authority = .ok () ↔ IsSound authority := by
  have paired : (authority.contains '[' != authority.contains ']') = true ↔
      ¬('[' ∈ authority ↔ ']' ∈ authority) := by
    rw [bne_iff_ne,Ne,Bool.eq_iff_iff,List.contains_iff_mem,List.contains_iff_mem]
  have hidden : (authority.any fun c => delimiterForms.contains c.toNat) = true ↔
      ¬∀ c ∈ authority, c.toNat ∉ delimiterForms := by
    simp
  unfold checkAuthority
  simp only [paired,hidden,List.contains_iff_mem]
  by_cases pairs : '[' ∈ authority ↔ ']' ∈ authority
  · rw [if_neg (not_not_intro pairs)]
    by_cases brackets : '[' ∈ authority
    · rw [if_pos brackets,← bind_assoc,except_bind_ok_iff]
      simp only [unless_ok,not_not]
      constructor
      · rintro ⟨_,passed,shown⟩
        exact ⟨pairs,fun _ => address_iff.mp passed,shown⟩
      · intro sound
        exact ⟨(),address_iff.mpr (sound.address brackets),sound.shown⟩
    · rw [if_neg brackets,unless_ok,not_not]
      exact ⟨fun shown => ⟨pairs,fun member => absurd member brackets,shown⟩,IsSound.shown⟩
  · rw [if_pos pairs]
    constructor
    · intro passed
      cases passed
    · exact fun sound => absurd sound.pairs pairs

private theorem isWeb_iff {lower : List Char} :
    ["http","https"].contains (String.ofList lower) = true ↔
      lower = "http".toList ∨ lower = "https".toList := by
  simp [← String.toList_inj]

theorem check_iff : check text = .ok () ↔
    ∃ scheme authority, Locates text scheme authority ∧ authority ≠ [] ∧ IsSound authority := by
  cases cut : splitScheme (significant text) with
  | mk lower rest =>
    have parts : check text = .ok () ↔ IsSound (authorityOf rest) ∧
        (lower = "http".toList ∨ lower = "https".toList) ∧ authorityOf rest ≠ [] := by
      unfold check BaseUrl.split
      rw [cut]
      rw [except_bind_ok_iff,← checkAuthority_iff,← isWeb_iff]
      simp only [unless_ok,Bool.not_eq_true,Bool.or_eq_false_iff,Bool.not_eq_false',
        List.isEmpty_eq_false_iff]
      constructor
      · rintro ⟨halves,passed,web⟩
        obtain ⟨_,sound,same⟩ := except_bind_ok passed
        obtain rfl := Except.ok.inj same
        exact ⟨sound,web⟩
      · rintro ⟨sound,web⟩
        exact ⟨_,except_bind_ok_iff.mpr ⟨_,sound,rfl⟩,web⟩
    rw [parts]
    constructor
    · rintro ⟨sound,web,filled⟩
      obtain ⟨scheme,locates⟩ := locates_of_split cut web filled
      exact ⟨scheme,_,locates,filled,sound⟩
    · rintro ⟨scheme,authority,locates,filled,sound⟩
      obtain ⟨rest',cut',same⟩ := locates.split
      obtain ⟨rfl,rfl⟩ := Prod.mk.inj (cut.symm.trans cut')
      exact same ▸ ⟨sound,locates.web,filled⟩

/-- A character of which nothing is asked in an authority. -/
structure IsPlain (c : Char) : Prop where
  visible : 0x20 < c.toNat
  inside : isDelimiter c = false
  unbracketed : c ≠ '[' ∧ c ≠ ']'
  shown : c.toNat ∉ delimiterForms

private theorem significant_eq (visible : ∀ c ∈ cs, 0x20 < c.toNat) :
    significant (String.ofList cs) = cs := by
  have front : cs.dropWhile (fun c => decide (c.toNat ≤ 0x20)) = cs := by
    cases cs with
    | nil => rfl
    | cons c cs =>
      have mark := visible c List.mem_cons_self
      rw [List.dropWhile_cons_of_neg (by simpa using mark)]
  rw [significant,String.toList_ofList,front,List.filter_eq_self]
  intro c member
  have mark := visible c member
  simp only [Bool.and_eq_true,bne_iff_ne]
  refine ⟨⟨?_,?_⟩,?_⟩ <;> rintro rfl <;> revert mark <;> decide

theorem check_plain (web : IsWeb scheme) (filled : authority ≠ []) (plain : ∀ c ∈ authority, IsPlain c) :
    check (String.ofList (scheme ++ ':' :: '/' :: '/' :: authority)) = .ok () := by
  refine check_iff.mpr ⟨scheme,authority,⟨web,fun c member => (plain c member).inside,[],?_,.inl rfl⟩,
    filled,?_,?_,fun c member => (plain c member).shown⟩
  · rw [List.append_nil]
    refine significant_eq fun c member => ?_
    simp only [List.mem_append,List.mem_cons] at member
    rcases member with letter | rfl | rfl | rfl | member
    · exact Nat.lt_of_lt_of_le (by decide) (code_of_isAlpha (web.letters c letter)).1
    · decide
    · decide
    · decide
    · exact (plain c member).visible
  · exact ⟨fun member => absurd rfl (plain _ member).unbracketed.1,
      fun member => absurd rfl (plain _ member).unbracketed.2⟩
  · exact fun member => absurd rfl (plain _ member).unbracketed.1

end Checks

section Configurations
variable {env : Environment} {options : Options} {s result : Settings} {fault : Fault}

theorem checked_ok (passed : Settings.checked s = .ok result) :
    result = s ∧ check s.baseUrl = .ok () := by
  unfold Settings.checked at passed
  split at passed
  · exact ⟨(Except.ok.inj passed).symm,‹_›⟩
  · cases passed

theorem checked_error (refused : check s.baseUrl = .error fault) :
    Settings.checked s = .error (.baseUrl fault) := by
  rw [Settings.checked,refused]

theorem check_ofEnvironment (passed : Settings.ofEnvironment env = .ok s) :
    check s.baseUrl = .ok () := by
  unfold Settings.ofEnvironment at passed
  dsimp only at passed
  split at passed
  · cases passed
  · obtain ⟨rfl,accepted⟩ := checked_ok passed
    exact accepted

theorem check_settings (passed : CommandLine.settings env options = .ok s) :
    check s.baseUrl = .ok () := by
  obtain ⟨found,environment,passed⟩ := except_bind_ok passed
  dsimp only at passed
  split at passed
  · obtain ⟨located,given,passed⟩ := except_bind_ok passed
    obtain rfl := Except.ok.inj passed
    obtain ⟨rfl,accepted⟩ := checked_ok given
    exact accepted
  · cases passed
  · obtain rfl := Except.ok.inj passed
    have accepted : check found.baseUrl = .ok () := check_ofEnvironment environment
    exact accepted

/-- Whether a text is what the base URL is taken from: by the environment, where the time limit can be
read, or by the command line, where the environment is good. -/
def Offers (env : Environment) (options : Options) (text : String) : Prop :=
  env.baseUrl = some text ∧ (Numeral.readBinary64? (env.timeout.getD "10").toList).isSome ∨
    options.baseUrl = some (.value text) ∧ ∃ found, Settings.ofEnvironment env = .ok found

theorem settings_refused (offers : Offers env options text) (refused : check text = .error fault) :
    CommandLine.settings env options = .error (.baseUrl fault) := by
  unfold CommandLine.settings
  rcases offers with ⟨named,readable⟩ | ⟨named,found,environment⟩
  · obtain ⟨timeout,read⟩ := Option.isSome_iff_exists.mp readable
    have environment : Settings.ofEnvironment env = .error (.baseUrl fault) := by
      unfold Settings.ofEnvironment
      dsimp only
      rw [read]
      refine checked_error ?_
      rw [named]
      exact refused
    rw [environment]
    rfl
  · rw [environment,named]
    exact except_bind_error.mpr (.inr ⟨found,rfl,except_bind_error.mpr (.inl (checked_error refused))⟩)

end Configurations

section Meaning

/-- The parts of a text that tell where it leads to: its authority, what stands there after the user
information, and the host and the port of that. -/
structure Reads (text : String) (authority place host port : List Char) : Prop where
  located : ∃ scheme, Locates text scheme authority
  last : IsPlace authority place
  names : Names place host port

theorem Reads.unique {authority' place' host' port' : List Char}
    (reads : Reads text authority place host port) (reads' : Reads text authority' place' host' port') :
    authority = authority' ∧ place = place' ∧ host = host' ∧ port = port' := by
  obtain ⟨_,located⟩ := reads.located
  obtain ⟨_,located'⟩ := reads'.located
  obtain rfl := located.authority_unique located'
  obtain rfl := reads.last.unique reads'.last
  exact ⟨rfl,rfl,reads.names.unique reads'.names rfl⟩

/-- An accepted text is read, and it is told from its parts whether its host is missing. -/
theorem check_iff_reads : check text = .ok () ↔ ∃ authority place host port,
    Reads text authority place host port ∧ authority ≠ [] ∧ IsSound authority ∧
      (host = [] ↔ place = [] ∨ place.head? = some ':') := by
  rw [check_iff]
  constructor
  · rintro ⟨scheme,authority,located,filled,sound⟩
    obtain ⟨place,last⟩ := exists_place authority
    obtain ⟨host,port,names,missing⟩ := sound.names last
    exact ⟨authority,place,host,port,⟨⟨scheme,located⟩,last,names⟩,filled,sound,missing⟩
  · rintro ⟨authority,_,_,_,⟨⟨scheme,located⟩,_,_⟩,filled,sound,_⟩
    exact ⟨scheme,authority,located,filled,sound⟩

/-- A port that can be: a number up to the greatest port in decimal digits, or an empty one. -/
def IsPort (port : List Char) : Prop :=
  (∀ c ∈ port, c.isDigit = true) ∧
    Nat.ofDigits 10 (port.map fun c => c.toNat - '0'.toNat).reverse ≤ 65535

/-- Whether a text names a host of the web, with a port that can be if there is one. -/
def NamesHost (text : String) : Prop :=
  ∃ authority place host port, Reads text authority place host port ∧ host ≠ [] ∧ IsPort port

theorem Reads.namesHost_iff (reads : Reads text authority place host port) :
    NamesHost text ↔ host ≠ [] ∧ IsPort port := by
  constructor
  · rintro ⟨_,_,_,_,reads',named⟩
    obtain ⟨_,_,rfl,rfl⟩ := reads.unique reads'
    exact named
  · exact fun named => ⟨_,_,_,_,reads,named⟩

/-- A text is accepted if it is an absolute URL of the web whose authority is sound. It then names a host
with a port that can be, except if nothing stands after the user information, if only a port does, or if
the port is none: a port is accepted whatever it is, after any host or none. What is not accepted ends the
program as an invalid value, and all settings have a base URL that is accepted. -/
theorem check_decides (text : String) :
    (check text = .ok () ↔ ∃ scheme authority,
      Locates text scheme authority ∧ authority ≠ [] ∧ IsSound authority) ∧
    ((check text = .ok () → NamesHost text) ↔ ∀ authority place host port, check text = .ok () →
      Reads text authority place host port →
        place ≠ [] ∧ place.head? ≠ some ':' ∧ IsPort port) ∧
    (∀ scheme host port, text.toList = scheme ++ ':' :: '/' :: '/' :: (host ++ ':' :: port) →
      IsWeb scheme → (∀ c ∈ host ++ ':' :: port, IsPlain c) → check text = .ok ()) ∧
    (∀ fault env arguments c exchange, check text = .error fault →
      CommandLine.read arguments = .ok c → Offers env c.options text →
        Program.run env arguments exchange = .early (.broken (.invalidValue fault.message))) ∧
    ∀ env options s, Settings.ofEnvironment env = .ok s ∨ CommandLine.settings env options = .ok s →
      s.baseUrl = text → check text = .ok () := by
  refine ⟨check_iff,⟨?_,?_⟩,?_,?_,?_⟩
  · intro meets authority place host port accepted reads
    obtain ⟨filled,good⟩ := reads.namesHost_iff.mp (meets accepted)
    obtain ⟨_,_,_,_,reads',_,_,missing⟩ := check_iff_reads.mp accepted
    obtain ⟨rfl,rfl,rfl,rfl⟩ := reads.unique reads'
    have stands := not_or.mp (missing.not.mp filled)
    exact ⟨stands.1,stands.2,good⟩
  · intro stands accepted
    obtain ⟨authority,place,host,port,reads,_,_,missing⟩ := check_iff_reads.mp accepted
    obtain ⟨filled,headed,good⟩ := stands authority place host port accepted reads
    exact reads.namesHost_iff.mpr ⟨missing.not.mpr (not_or.mpr ⟨filled,headed⟩),good⟩
  · intro scheme host port written web plain
    rw [← String.ofList_toList (s := text),written]
    exact check_plain web (by simp) plain
  · intro fault env arguments c exchange refused read offers
    unfold Program.run
    rw [read]
    dsimp only
    rw [settings_refused offers refused]
    rfl
  · rintro env options s (passed | passed) rfl
    · exact check_ofEnvironment passed
    · exact check_settings passed

/-- A port alone is accepted as where the semantic layer is, and so is a port that is none. -/
theorem check_port_alone :
    check "http://:4000" = .ok () ∧ ¬NamesHost "http://:4000" ∧
      check "http://cube:99999" = .ok () ∧ ¬NamesHost "http://cube:99999" := by
  have located : Locates "http://:4000" "http".toList ":4000".toList :=
    ⟨.inl (by decide),by simp [isDelimiter],[],by decide,.inl rfl⟩
  have alone : Reads "http://:4000" ":4000".toList ":4000".toList [] "4000".toList := by
    have names : Names ([] ++ ":4000".toList) [] "4000".toList :=
      .plain (by decide) List.not_mem_nil (.inr rfl)
    exact ⟨⟨_,located⟩,⟨by decide,.inl rfl⟩,names⟩
  have located : Locates "http://cube:99999" "http".toList "cube:99999".toList :=
    ⟨.inl (by decide),by simp [isDelimiter],[],by decide,.inl rfl⟩
  have beyond : Reads "http://cube:99999" "cube:99999".toList "cube:99999".toList "cube".toList
      "99999".toList := by
    have names : Names ("cube".toList ++ ":99999".toList) "cube".toList "99999".toList :=
      .plain (by decide) (by decide) (.inr rfl)
    exact ⟨⟨_,located⟩,⟨by decide,.inl rfl⟩,names⟩
  refine ⟨by decide,?_,by decide,?_⟩
  · exact fun named => (alone.namesHost_iff.mp named).1 rfl
  · exact fun named => absurd (beyond.namesHost_iff.mp named).2.2 (by decide)

end Meaning
end ScopedAnalytics.BaseUrl
