import ScopedAnalytics.Proofs.CommandLine.Acceptance

/-! Flags and the variables of the environment that they override. A flag hides the value of its
variable, but not whether the value is fit: the settings of the environment are checked first. -/
namespace ScopedAnalytics.CommandLine

def IsFitUrl (url : Option String) : Prop := ∀ text, url = some text → BaseUrl.check text = .ok ()

def IsFitTimeout (timeout : Option String) : Prop :=
  ∀ text, timeout = some text → ∃ seconds, number? text = some seconds

section Environments
variable {env : Environment} {url timeout : Option String} {fault : BaseUrl.Fault} {text : String}

theorem IsFitUrl.check (fit : IsFitUrl url) :
    BaseUrl.check (url.getD Settings.defaultBaseUrl) = .ok () := by
  cases url with
  | none => decide
  | some text => exact fit text rfl

theorem IsFitTimeout.number (fit : IsFitTimeout timeout) :
    ∃ seconds, number? (timeout.getD "10") = some seconds := by
  cases timeout with
  | none => exact Option.isSome_iff_exists.mp (by decide)
  | some text => exact fit text rfl

theorem not_isFitUrl (unfit : ¬IsFitUrl url) :
    ∃ text fault, url = some text ∧ BaseUrl.check text = .error fault := by
  simp only [IsFitUrl,not_forall] at unfit
  obtain ⟨text,same,refused⟩ := unfit
  cases found : BaseUrl.check text with
  | ok _ => exact absurd found refused
  | error fault => exact ⟨text,fault,same,found⟩

theorem not_isFitTimeout (unfit : ¬IsFitTimeout timeout) :
    ∃ text, timeout = some text ∧ number? text = none := by
  simp only [IsFitTimeout,not_forall,not_exists] at unfit
  obtain ⟨text,same,unreadable⟩ := unfit
  exact ⟨text,same,Option.eq_none_iff_forall_ne_some.mpr unreadable⟩

theorem ofEnvironment_of_fit {seconds : Binary64} (waits : number? (env.timeout.getD "10") = some seconds)
    (fit : IsFitUrl env.baseUrl) :
    Settings.ofEnvironment env = .ok {
      baseUrl := env.baseUrl.getD Settings.defaultBaseUrl
      token := env.token.getD ""
      layerTimeout := .value seconds
      requestTimeout := none
      level := .value .info
      form := .value .console } := by
  unfold number? at waits
  simp only [Settings.ofEnvironment,waits,Settings.checked,fit.check]

theorem ofEnvironment_unread (named : env.timeout = some text) (unreadable : number? text = none) :
    Settings.ofEnvironment env = .error (.timeout text) := by
  unfold number? at unreadable
  simp only [Settings.ofEnvironment,named,Option.getD_some,unreadable]

theorem ofEnvironment_refused (waits : IsFitTimeout env.timeout) (named : env.baseUrl = some text)
    (refused : BaseUrl.check text = .error fault) :
    Settings.ofEnvironment env = .error (.baseUrl fault) := by
  obtain ⟨seconds,read⟩ := waits.number
  unfold number? at read
  simp only [Settings.ofEnvironment,read,named,Option.getD_some]
  exact BaseUrl.checked_error refused

end Environments

section Settings
variable {env other : Environment} {options : Options} {found known : Settings}

theorem settings_hides_url (here : Settings.ofEnvironment env = .ok found)
    (there : Settings.ofEnvironment other = .ok known)
    (alike : ∀ baseUrl, { found with baseUrl } = { known with baseUrl })
    (given : options.baseUrl ≠ none) : settings env options = settings other options := by
  obtain ⟨g,held⟩ := Option.ne_none_iff_exists'.mp given
  cases g with
  | void =>
    simp only [settings,here,there,held]
    rfl
  | value text => simp only [settings,here,there,held,bind,Except.bind,alike text]

theorem settings_hides_timeout (here : Settings.ofEnvironment env = .ok found)
    (there : Settings.ofEnvironment other = .ok known)
    (alike : ∀ layerTimeout, { found with layerTimeout } = { known with layerTimeout })
    (given : options.layerTimeout ≠ none) : settings env options = settings other options := by
  obtain ⟨g,held⟩ := Option.ne_none_iff_exists'.mp given
  obtain ⟨seconds,rfl⟩ : ∃ seconds, found = { known with layerTimeout := seconds } :=
    ⟨_,alike found.layerTimeout⟩
  simp only [settings,here,there,held]
  cases options.baseUrl with
  | none => rfl
  | some g =>
    cases g with
    | void => rfl
    | value text =>
      cases passed : BaseUrl.check text with
      | error fault => simp only [Settings.checked,passed]; rfl
      | ok _ => simp only [Settings.checked,passed]; rfl

end Settings

section Flags
variable {env : Environment} {arguments : List String} {c : CommandLine} {stop : Stop}
  {fault : Settings.Fault} {url timeout : Option String}

theorem held_of_contains (place : Sigma Place) (ok : read arguments = .ok c) (listed : place ∈ places)
    (contains : Contains place.2.flag arguments) : place.2.held c.options ≠ none := by
  have given : textsOf (givenBy arguments) place.2.flag ≠ [] :=
    fun none => textsOf_eq_nil_iff.mp none (mem_givenBy ok contains)
  obtain ⟨text,last⟩ := Option.ne_none_iff_exists'.mp (mt List.getLast?_eq_none_iff.mp given)
  have held := (takeAll_takesAll (read_takeAll ok)).held place listed
  rw [Place.HoldsLast,last] at held
  obtain ⟨g,_,held⟩ := held
  rw [held]
  exact Option.some_ne_none g

theorem resolve_stops (refused : read arguments = .error stop) :
    resolve env arguments = .error (.stop stop) := by
  rw [resolve,refused]
  rfl

theorem resolve_faults (ok : read arguments = .ok c)
    (refused : Settings.ofEnvironment env = .error fault) :
    resolve env arguments = .error (.fault fault) := by
  simp only [resolve,ok,settings,refused]
  rfl

theorem resolve_congr {other : Environment} (alike : ∀ c, read arguments = .ok c →
    settings env c.options = settings other c.options) :
    resolve env arguments = resolve other arguments := by
  cases ok : read arguments with
  | error stop => rw [resolve_stops ok,resolve_stops ok]
  | ok c =>
    simp only [resolve,ok,Except.mapError,bind,Except.bind,alike c ok]

theorem resolve_hides_url (contains : Contains .baseUrl arguments) (waits : IsFitTimeout env.timeout)
    (fit : IsFitUrl env.baseUrl) (also : IsFitUrl url) :
    resolve { env with baseUrl := url } arguments = resolve env arguments := by
  obtain ⟨seconds,read⟩ := waits.number
  apply resolve_congr
  intro c ok
  have given : c.options.baseUrl ≠ none :=
    held_of_contains ⟨_,.baseUrl,some,Options.baseUrl⟩ ok (by simp [places]) contains
  have found : Settings.ofEnvironment { env with baseUrl := url } = _ := ofEnvironment_of_fit read also
  exact settings_hides_url found (ofEnvironment_of_fit read fit) (fun _ => rfl) given

/-- Without a timeout that can be read no base URL counts. -/
theorem resolve_unread_url (waits : ¬IsFitTimeout env.timeout) :
    resolve { env with baseUrl := url } arguments = resolve env arguments := by
  obtain ⟨text,named,unreadable⟩ := not_isFitTimeout waits
  apply resolve_congr
  intro c _
  have hidden : Settings.ofEnvironment { env with baseUrl := url } = _ :=
    ofEnvironment_unread named unreadable
  rw [settings,settings,hidden,ofEnvironment_unread named unreadable]

theorem resolve_hides_timeout (contains : Contains .layerTimeout arguments)
    (waits : IsFitTimeout env.timeout) (also : IsFitTimeout timeout) :
    resolve { env with timeout } arguments = resolve env arguments := by
  obtain ⟨seconds,read⟩ := waits.number
  obtain ⟨others,again⟩ := also.number
  apply resolve_congr
  intro c ok
  have given : c.options.layerTimeout ≠ none :=
    held_of_contains ⟨_,.layerTimeout,number?,Options.layerTimeout⟩ ok (by simp [places]) contains
  by_cases fit : IsFitUrl env.baseUrl
  · have found : Settings.ofEnvironment { env with timeout } = _ := ofEnvironment_of_fit again fit
    exact settings_hides_timeout found (ofEnvironment_of_fit read fit) (fun _ => rfl) given
  · obtain ⟨text,fault,named,refused⟩ := not_isFitUrl fit
    have found : Settings.ofEnvironment { env with timeout } = _ :=
      ofEnvironment_refused also named refused
    rw [settings,settings,found,ofEnvironment_refused waits named refused]

/-- A flag hides every value of its variable that is not set or is fit. Where the command line is refused
the environment does not count at all, and where it is not, a value of the environment that is not fit is
what the run ends with, the timeout first. -/
theorem resolve_overrides :
    (∀ arguments stop, read arguments = .error stop →
      ∀ env, resolve env arguments = .error (.stop stop)) ∧
    (∀ env url arguments, Contains .baseUrl arguments →
      ¬IsFitTimeout env.timeout ∨ IsFitUrl env.baseUrl ∧ IsFitUrl url →
        resolve { env with baseUrl := url } arguments = resolve env arguments) ∧
    (∀ env timeout arguments, Contains .layerTimeout arguments →
      IsFitTimeout env.timeout → IsFitTimeout timeout →
        resolve { env with timeout } arguments = resolve env arguments) ∧
    (∀ env arguments c text, read arguments = .ok c → env.timeout = some text →
      number? text = none → resolve env arguments = .error (.fault (.timeout text))) ∧
    ∀ env arguments c text fault, read arguments = .ok c → IsFitTimeout env.timeout →
      env.baseUrl = some text → BaseUrl.check text = .error fault →
        resolve env arguments = .error (.fault (.baseUrl fault)) := by
  refine ⟨fun _ _ refused _ => resolve_stops refused,?_,?_,?_,?_⟩
  · rintro env url arguments contains (unread | ⟨fit,also⟩)
    · exact resolve_unread_url unread
    · by_cases waits : IsFitTimeout env.timeout
      · exact resolve_hides_url contains waits fit also
      · exact resolve_unread_url waits
  · intro env timeout arguments contains waits also
    exact resolve_hides_timeout contains waits also
  · intro env arguments c text ok named unreadable
    exact resolve_faults ok (ofEnvironment_unread named unreadable)
  · intro env arguments c text fault ok waits named refused
    exact resolve_faults ok (ofEnvironment_refused waits named refused)

end Flags

section Runs

def bareEnvironment : Environment := ⟨none,none,none⟩

/-- An environment with a base URL that has no scheme of the web. -/
def schemelessEnvironment : Environment := { bareEnvironment with baseUrl := some "cube:4000" }

/-- An environment with a timeout that is no number. -/
def wordyEnvironment : Environment := { bareEnvironment with timeout := some "soon" }

def overridingLine : List String :=
  ["--project-id","p","--cube.base-url","http://cube.test:4000","--cube.timeout","3",
    "\x7b mints \x7b count \x7d \x7d"]

private theorem contains_baseUrl : Contains .baseUrl overridingLine :=
  ⟨"--cube.base-url",by simp [overridingLine,Argument.divider],_,_,
    classify_name (by simp [Flag.spellings])⟩

private theorem contains_timeout : Contains .layerTimeout overridingLine :=
  ⟨"--cube.timeout",by simp [overridingLine,Argument.divider],_,_,
    classify_name (by simp [Flag.spellings])⟩

def overridingOptions : Options :=
  { noOptions with
    project := some (.value "p")
    baseUrl := some (.value "http://cube.test:4000")
    layerTimeout := some (.value (.finite false 6755399441055744 1023)) }

theorem resolve_overrides_distant :
    read overridingLine = .ok ⟨"\x7b mints \x7b count \x7d \x7d",overridingOptions⟩ ∧
    read [] = refuse .missingSelection ∧
    resolve wordyEnvironment [] = .error (.stop (.misuse .missingSelection)) ∧
    resolve { bareEnvironment with baseUrl := some "http://cube.test:4001" } overridingLine =
      resolve bareEnvironment overridingLine ∧
    resolve { bareEnvironment with timeout := some "7" } overridingLine =
      resolve bareEnvironment overridingLine ∧
    resolve wordyEnvironment overridingLine = .error (.fault (.timeout "soon")) ∧
    resolve schemelessEnvironment overridingLine =
      .error (.fault (.baseUrl (.notAbsolute "cube:4000"))) := by
  have ok : read overridingLine = .ok ⟨"\x7b mints \x7b count \x7d \x7d",overridingOptions⟩ := by
    decide +kernel
  have empty : read [] = refuse .missingSelection := by decide
  have unset : IsFitTimeout none := by
    intro text impossible
    cases impossible
  have bare : IsFitUrl none := by
    intro text impossible
    cases impossible
  have seven : IsFitTimeout (some "7") := by
    intro text same
    obtain rfl := Option.some.inj same
    exact Option.isSome_iff_exists.mp (by decide)
  have located : IsFitUrl (some "http://cube.test:4001") := by
    intro text same
    obtain rfl := Option.some.inj same
    decide
  obtain ⟨stops,hidesUrl,hidesTimeout,unread,refused⟩ := resolve_overrides
  exact ⟨ok,empty,stops [] _ empty wordyEnvironment,
    hidesUrl bareEnvironment _ _ contains_baseUrl (.inr ⟨bare,located⟩),
    hidesTimeout bareEnvironment _ _ contains_timeout unset seven,
    unread wordyEnvironment _ _ "soon" ok rfl (by decide),
    refused schemelessEnvironment _ _ "cube:4000" _ ok unset rfl (by decide)⟩

/-- Neither flag hides a value of its variable that is not fit. -/
theorem unfit_variables_count :
    (¬∀ env url arguments, Contains .baseUrl arguments →
      resolve { env with baseUrl := url } arguments = resolve env arguments) ∧
    ¬∀ env timeout arguments, Contains .layerTimeout arguments →
      resolve { env with timeout } arguments = resolve env arguments := by
  constructor
  · intro claimed
    have same := claimed bareEnvironment (some "cube:4000") overridingLine contains_baseUrl
    have apart : resolve schemelessEnvironment overridingLine ≠
        resolve bareEnvironment overridingLine := by decide
    exact apart same
  · intro claimed
    have same := claimed bareEnvironment (some "soon") overridingLine contains_timeout
    have apart : resolve wordyEnvironment overridingLine ≠
        resolve bareEnvironment overridingLine := by decide
    exact apart same

end Runs

end ScopedAnalytics.CommandLine
