import ScopedAnalytics.Proofs.CommandLine.Arrangement
import ScopedAnalytics.Proofs.Settings.Hosts

/-! What an accepted command line comes to. It names one scope, each option holds what the last text of
its flag is read as or else its default, measures are those of all their flags, and what the flags say of
the semantic layer goes before what the environment says. -/
namespace ScopedAnalytics.CommandLine

def HasOneScope (options : Options) : Prop :=
  options.organization ≠ none ∧ options.project = none ∧ options.collection = none ∨
    options.organization = none ∧ options.project ≠ none ∧ options.collection = none ∨
    options.organization = none ∧ options.project = none ∧ options.collection ≠ none

/-- What is accepted is told by the flags with their texts and by the environment. -/
structure IsAccepted (env : Environment) (given : List (Flag × String)) (options : Options)
    (s : Settings) : Prop where
  scope : HasOneScope options
  alone : ∀ flag ∈ scopeFlags, ∀ other ∈ scopeFlags,
    flag ∈ given.map (·.1) → other ∈ given.map (·.1) → other = flag
  held : ∀ place ∈ places, place.2.HoldsLast given noOptions options
  unmeasured : textsOf given .measure = [] → options.measures = none
  measured : textsOf given .measure ≠ [] → ∃ measures, options.measures = some measures ∧
    List.Forall₂ (IsRead measure?) (textsOf given .measure) measures
  baseUrl : s.baseUrl = (textsOf given .baseUrl).getLast?.getD
    (env.baseUrl.getD Settings.defaultBaseUrl)
  checked : BaseUrl.check s.baseUrl = .ok ()
  timeout : IsRead number? ((textsOf given .layerTimeout).getLast?.getD (env.timeout.getD "10"))
    s.layerTimeout

/-- What is held where no flag is given the divider: values that were read, and nothing void. -/
structure HoldsValues (env : Environment) (given : List (Flag × String)) (options : Options)
    (s : Settings) : Prop where
  last : ∀ place ∈ places, ∀ text, (textsOf given place.2.flag).getLast? = some text →
    ∃ a, place.2.read? text = some a ∧ place.2.held options = some (.value a)
  default : ∀ place ∈ places, textsOf given place.2.flag = [] →
    place.2.held options = place.2.held noOptions
  measures : textsOf given .measure ≠ [] → ∃ measures,
    options.measures = some (measures.map .value) ∧
      List.Forall₂ (fun text m => measure? text = some m) (textsOf given .measure) measures
  timeout : ∃ seconds, s.layerTimeout = .value seconds ∧
    number? ((textsOf given .layerTimeout).getLast?.getD (env.timeout.getD "10")) = some seconds

section Settings
variable {env : Environment} {options : Options} {s found : Settings}

theorem ofEnvironment_spec (ok : Settings.ofEnvironment env = .ok found) :
    found.baseUrl = env.baseUrl.getD Settings.defaultBaseUrl ∧
      ∃ seconds, number? (env.timeout.getD "10") = some seconds ∧
        found.layerTimeout = .value seconds := by
  unfold Settings.ofEnvironment at ok
  dsimp only at ok
  split at ok
  · cases ok
  · rename_i seconds read
    obtain ⟨rfl,_⟩ := BaseUrl.checked_ok ok
    exact ⟨rfl,seconds,read,rfl⟩

/-- What flags say of the semantic layer goes before what the environment says. -/
theorem settings_spec (ok : settings env options = .ok s) : ∃ found,
    Settings.ofEnvironment env = .ok found ∧
      (options.baseUrl.map Given.value?).getD (some found.baseUrl) = some s.baseUrl ∧
      s.layerTimeout = options.layerTimeout.getD found.layerTimeout := by
  obtain ⟨found,environment,ok⟩ := except_bind_ok ok
  refine ⟨found,environment,?_⟩
  dsimp only at ok
  cases url : options.baseUrl with
  | none =>
    rw [url] at ok
    obtain rfl := Except.ok.inj ok
    exact ⟨rfl,rfl⟩
  | some g =>
    rw [url] at ok
    cases g with
    | void => cases ok
    | value text =>
      obtain ⟨located,given,ok⟩ := except_bind_ok ok
      obtain rfl := Except.ok.inj ok
      obtain ⟨rfl,_⟩ := BaseUrl.checked_ok given
      exact ⟨rfl,rfl⟩

end Settings

section Acceptance
variable {env : Environment} {arguments : List String} {c : CommandLine} {s : Settings}

theorem resolve_ok_iff : resolve env arguments = .ok (c,s) ↔
    read arguments = .ok c ∧ settings env c.options = .ok s := by
  unfold resolve
  simp only [except_bind_ok_iff,mapError_ok_iff]
  constructor
  · rintro ⟨_,read,_,found,same⟩
    obtain ⟨rfl,rfl⟩ := Prod.mk.inj (Except.ok.inj same)
    exact ⟨read,found⟩
  · rintro ⟨read,found⟩
    exact ⟨c,read,s,found,rfl⟩

private theorem hasOneScope (ok : read arguments = .ok c) : HasOneScope c.options := by
  obtain ⟨_,_,_,_,_,_,flag,scope,has⟩ := read_spec ok
  have taken := read_takeAll ok
  have only := (takeAll_ok_iff.mp ⟨_,taken⟩).2
  have listed := (takeAll_takesAll taken).has
  have absent (other : Flag) (apart : other ≠ flag) : ¬c.options.has other = true := by
    intro also
    simp only [listed,noOptions_has,Bool.false_eq_true,or_false] at has also
    exact apart (only flag scope other also.1 has.2 also.2)
  simp only [scopeFlags,List.mem_cons,List.not_mem_nil,or_false] at scope
  obtain rfl | rfl | rfl := scope
  · have project := absent .project (by simp)
    have collection := absent .collection (by simp)
    simp only [Options.has,Option.isSome_iff_ne_none,ne_eq,not_not] at has project collection
    exact .inl ⟨has,project,collection⟩
  · have organization := absent .organization (by simp)
    have collection := absent .collection (by simp)
    simp only [Options.has,Option.isSome_iff_ne_none,ne_eq,not_not] at has organization collection
    exact .inr (.inl ⟨organization,has,collection⟩)
  · have organization := absent .organization (by simp)
    have project := absent .project (by simp)
    simp only [Options.has,Option.isSome_iff_ne_none,ne_eq,not_not] at has organization project
    exact .inr (.inr ⟨organization,project,has⟩)

variable {given : List (Flag × String)} {options : Options} {found : Settings}

private theorem TakesAll.measures_cases (all : TakesAll given noOptions options) :
    textsOf given .measure = [] ∧ options.measures = none ∨
      textsOf given .measure ≠ [] ∧ ∃ measures, options.measures = some measures ∧
        List.Forall₂ (IsRead measure?) (textsOf given .measure) measures := by
  obtain ⟨added,read,measures⟩ := all.measures
  cases added with
  | nil => exact .inl ⟨List.forall₂_nil_right_iff.mp read,measures⟩
  | cons first rest =>
    refine .inr ⟨?_,first :: rest,measures,read⟩
    rintro none
    rw [none] at read
    cases read

private theorem TakesAll.baseUrl_eq (all : TakesAll given noOptions options)
    (url : (options.baseUrl.map Given.value?).getD (some found.baseUrl) = some s.baseUrl) :
    s.baseUrl = (textsOf given .baseUrl).getLast?.getD found.baseUrl := by
  have held := all.held ⟨_,.baseUrl,some,Options.baseUrl⟩ (by simp [places])
  rcases held.cases with ⟨last,own⟩ | ⟨text,g,last,read,own⟩
  · have none : options.baseUrl = .none := own
    rw [none] at url
    rw [last]
    exact (Option.some.inj url).symm
  · have given : options.baseUrl = some g := own
    rw [given] at url
    rw [last]
    cases read with
    | void => cases url
    | value _ found => exact (Option.some.inj url).symm.trans (Option.some.inj found).symm

private theorem ne_divider_of_number {text : String} {seconds : Binary64}
    (read : number? text = some seconds) : text ≠ Argument.divider := by
  rintro rfl
  have unreadable : number? Argument.divider = none := by decide
  cases read.symm.trans unreadable

/-- The timeout of the semantic layer is read from the text of its flag or else from another one that
counts, which is not the divider. -/
private theorem TakesAll.layerTimeout_read {other : String} {seconds : Binary64}
    (all : TakesAll given noOptions options) (read : number? other = some seconds) :
    IsRead number? ((textsOf given .layerTimeout).getLast?.getD other)
      (options.layerTimeout.getD (.value seconds)) := by
  have held := all.held ⟨_,.layerTimeout,number?,Options.layerTimeout⟩ (by simp [places])
  rcases held.cases with ⟨last,own⟩ | ⟨text,g,last,taken,own⟩
  · have none : options.layerTimeout = .none := own
    rw [last,none]
    exact .value (ne_divider_of_number read) read
  · have given : options.layerTimeout = some g := own
    rw [last,given]
    exact taken

theorem isAccepted (ok : resolve env arguments = .ok (c,s)) :
    IsAccepted env (givenBy arguments) c.options s := by
  obtain ⟨accepted,located⟩ := resolve_ok_iff.mp ok
  have taken := read_takeAll accepted
  have all := takeAll_takesAll taken
  obtain ⟨found,environment,url,timeout⟩ := settings_spec located
  obtain ⟨defaultUrl,seconds,read,defaultTimeout⟩ := ofEnvironment_spec environment
  constructor
  case scope => exact hasOneScope accepted
  case alone => exact (takeAll_ok_iff.mp ⟨_,taken⟩).2
  case held => exact all.held
  case unmeasured =>
    exact fun none => (all.measures_cases.resolve_right fun some => some.1 none).2
  case measured =>
    exact fun some => (all.measures_cases.resolve_left fun none => some none.1).2
  case baseUrl => exact defaultUrl ▸ all.baseUrl_eq url
  case checked => exact BaseUrl.check_settings located
  case timeout =>
    rw [timeout,defaultTimeout]
    exact all.layerTimeout_read read

theorem holdsValues (ok : resolve env arguments = .ok (c,s))
    (apart : ∀ entry ∈ givenBy arguments, entry.2 ≠ Argument.divider) :
    HoldsValues env (givenBy arguments) c.options s := by
  have accepted := isAccepted ok
  have texts (flag : Flag) : ∀ text ∈ textsOf (givenBy arguments) flag, text ≠ Argument.divider :=
    fun _ member => apart _ (mem_textsOf.mp member)
  constructor
  case last =>
    intro place listed text last
    rcases (accepted.held place listed).cases with ⟨none,_⟩ | ⟨_,g,found,read,held⟩
    · cases none.symm.trans last
    · obtain rfl := Option.some.inj (found.symm.trans last)
      obtain ⟨a,found,rfl⟩ := read.of_apart (texts _ _ (List.mem_of_getLast? last))
      exact ⟨a,found,held⟩
  case default =>
    intro place listed none
    rcases (accepted.held place listed).cases with ⟨_,held⟩ | ⟨_,_,found,_⟩
    · exact held
    · rw [none] at found
      cases found
  case measures =>
    intro some
    obtain ⟨given,measures,taken⟩ := accepted.measured some
    obtain ⟨values,rfl,read⟩ := forall₂_of_apart taken (texts .measure)
    exact ⟨values,measures,read⟩
  case timeout =>
    obtain ⟨_,environment,_⟩ := settings_spec (resolve_ok_iff.mp ok).2
    obtain ⟨_,seconds,read,_⟩ := ofEnvironment_spec environment
    have own : (textsOf (givenBy arguments) .layerTimeout).getLast?.getD (env.timeout.getD "10") ≠
        Argument.divider := by
      cases last : (textsOf (givenBy arguments) .layerTimeout).getLast? with
      | none => exact ne_divider_of_number read
      | some text => exact texts _ _ (List.mem_of_getLast? last)
    obtain ⟨seconds,read,held⟩ := accepted.timeout.of_apart own
    exact ⟨seconds,held,read⟩

/-- What an accepted command line and its settings hold is what its flags and the environment say, and
where no flag is given the divider all of it has been read. A scope may be given again, and parts that
keep a flag and its text together may stand in any order. -/
theorem resolve_describes (env : Environment) :
    (∀ arguments c s, resolve env arguments = .ok (c,s) →
      IsAccepted env (givenBy arguments) c.options s ∧
        ((∀ entry ∈ givenBy arguments, entry.2 ≠ Argument.divider) →
          HoldsValues env (givenBy arguments) c.options s)) ∧
    (∀ arguments c flag name text, read arguments = .ok c → flag ∈ scopeFlags →
      c.options.has flag = true → (name,flag) ∈ Flag.spellings → IsPlain text →
        resolve env (name :: text :: arguments) = resolve env arguments) ∧
    ∀ parts other, IsPaired parts → parts.Perm other →
      SameOrMisused (fun m => Refusal.stop (.misuse m)) (resolve env (lineOf parts))
        (resolve env (lineOf other)) := by
  refine ⟨fun _ _ _ ok => ⟨isAccepted ok,holdsValues ok⟩,?_,?_⟩
  · intro arguments c flag name text ok scope has spelt plain
    rw [resolve,resolve,ok,read_repeated ok scope has spelt plain]
  · intro parts other paired permuted
    rcases paired.read_rearranged permuted with same | ⟨m,n,first,second⟩
    · exact .inl (by rw [resolve,resolve,same])
    · exact .inr ⟨m,n,by rw [resolve,first]; rfl,by rw [resolve,second]; rfl⟩

end Acceptance

section Runs

def distantEnvironment : Environment := ⟨some "http://cube.test:4000",none,some "2.5"⟩

def repeatedLine : List String :=
  ["--project-id","a","--measure","mints.change","--limit=3","--measure","mints.count",
    "--project-id","b","--cube.timeout","7","\x7b mints \x7b count \x7d \x7d"]

def repeatedOptions : Options :=
  { noOptions with
    project := some (.value "b")
    limit := some (.value 3)
    measures := some [.value ⟨.mints,.change⟩,.value ⟨.mints,.count⟩]
    layerTimeout := some (.value (.finite false 7881299347898368 1024)) }

def repeatedSettings : Settings where
  baseUrl := "http://cube.test:4000"
  token := ""
  layerTimeout := .value (.finite false 7881299347898368 1024)
  requestTimeout := none
  level := .value .info
  form := .value .console

def orderedParts : List Part :=
  [.pair "--limit" "3",.word "\x7b mints \x7b count \x7d \x7d",.pair "--project-id" "b"]

private theorem orderedParts_paired : IsPaired orderedParts where
  word := ⟨"\x7b mints \x7b count \x7d \x7d",rfl⟩
  plain := by simp [orderedParts,Part.text,IsPlain]
  full := by simp [orderedParts,Part.name?,Flag.spellings]
  distinct := by decide

theorem resolve_describes_repeated :
    resolve distantEnvironment repeatedLine =
      .ok (⟨"\x7b mints \x7b count \x7d \x7d",repeatedOptions⟩,repeatedSettings) ∧
    IsAccepted distantEnvironment (givenBy repeatedLine) repeatedOptions repeatedSettings ∧
    HoldsValues distantEnvironment (givenBy repeatedLine) repeatedOptions repeatedSettings ∧
    resolve distantEnvironment ("--project-id" :: "c" :: repeatedLine) =
      resolve distantEnvironment repeatedLine ∧
    IsPaired orderedParts ∧
    SameOrMisused (fun m => Refusal.stop (.misuse m))
      (resolve distantEnvironment (lineOf orderedParts))
      (resolve distantEnvironment (lineOf orderedParts.reverse)) := by
  have accepted : resolve distantEnvironment repeatedLine =
      .ok (⟨"\x7b mints \x7b count \x7d \x7d",repeatedOptions⟩,repeatedSettings) := by
    decide +kernel
  obtain ⟨describes,repeats,permutes⟩ := resolve_describes distantEnvironment
  have again := repeats repeatedLine _ .project "--project-id" "c" (resolve_ok_iff.mp accepted).1
    (by decide) rfl (by simp [Flag.spellings]) (by simp [IsPlain])
  have ordered := permutes orderedParts orderedParts.reverse orderedParts_paired
    (List.reverse_perm _).symm
  obtain ⟨described,read⟩ := describes _ _ _ accepted
  have apart : ∀ entry ∈ givenBy repeatedLine, entry.2 ≠ Argument.divider := by decide
  exact ⟨accepted,described,read apart,again,orderedParts_paired,ordered⟩

end Runs

end ScopedAnalytics.CommandLine
