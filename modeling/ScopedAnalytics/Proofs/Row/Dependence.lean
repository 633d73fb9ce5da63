import ScopedAnalytics.Proofs.Row.Answering

/-! What a decoded row depends on. Of an object only the members of a resource's columns are looked at
and, where the timestamp is missing, the first member with a longer name for it; whatever else it holds,
and in whatever order, the row is the same, and so is the failure. -/
namespace ScopedAnalytics.Row

/-- The value that an object gives to a name; one that it does not have is given null. -/
def Gives (members : List (Text × Json)) (name : String) (value : Json) : Prop :=
  (Text.ofString name,value) ∈ members ∨
    (∀ held, (Text.ofString name,held) ∉ members) ∧ value = .null

/-- Whether a name is one that a resource's timestamp has with a granularity. -/
def isLonger (resource : Resource) (name : Text) : Bool :=
  name.startsWith (resource.member "timestamp" ++ ".")

/-- The value of the first member with a longer name for the timestamp. -/
def FirstLonger (resource : Resource) (members : List (Text × Json)) (value : Json) : Prop :=
  ∃ before name after, members = before ++ (name,value) :: after ∧
    isLonger resource name = true ∧ ∀ other ∈ before, isLonger resource other.1 = false

/-- Whether two objects agree on the columns of a resource. Where the timestamp is missing they also have
to agree on the first member with a longer name for it. -/
structure Agree (resource : Resource) (members members' : List (Text × Json)) : Prop where
  values : ∀ column : Column, column ≠ .timestamp → ∃ value,
    Gives members (column.name resource) value ∧ Gives members' (column.name resource) value
  timestamp : ∀ value, (Text.ofString (resource.member "timestamp"),value) ∈ members ↔
    (Text.ofString (resource.member "timestamp"),value) ∈ members'
  longer : (∀ value, (Text.ofString (resource.member "timestamp"),value) ∉ members) →
    ∀ value, FirstLonger resource members value ↔ FirstLonger resource members' value

/-- Whether a member belongs to another resource. The organization is a column of every resource,
although its name is one of the projects. -/
def isForeign (resource : Resource) (name : Text) : Bool :=
  ((Vocabulary.values : List Resource).any fun other =>
    other != resource && name.startsWith (other.name ++ ".")) &&
    !name.isString (Resource.projects.member ScopeKey.organization.name)

section Reading
variable {resource : Resource} {members members' : List (Text × Json)}

/-- Rows are decoded alike where what is read of each column is alike. -/
theorem decode_congr
    (values : ∀ column : Column, column ≠ .timestamp →
      valueOf members (column.name resource) = valueOf members' (column.name resource))
    (timestamp : timestampValue resource members = timestampValue resource members') :
    decode resource (.object members) = decode resource (.object members') := by
  have count : valueOf members (resource.member "count") =
      valueOf members' (resource.member "count") := values (.measure .count) (by simp)
  have change : valueOf members (resource.member "change") =
      valueOf members' (resource.member "change") := values (.measure .change) (by simp)
  have organization : valueOf members (Resource.projects.member ScopeKey.organization.name) =
      valueOf members' (Resource.projects.member ScopeKey.organization.name) :=
    values (.identifier .organization) (by simp)
  have project : valueOf members (resource.member ScopeKey.project.name) =
      valueOf members' (resource.member ScopeKey.project.name) :=
    values (.identifier .project) (by simp)
  have collection : valueOf members (resource.member ScopeKey.collection.name) =
      valueOf members' (resource.member ScopeKey.collection.name) :=
    values (.identifier .collection) (by simp)
  rw [decode,decode,decodeMembers,decodeMembers,count,change,organization,project,collection,
    timestamp]

/-- What is read of the timestamp, by its own name or else by the first longer one. -/
theorem timestampValue_eq (resource : Resource) (members : List (Text × Json)) :
    timestampValue resource members =
      ((Json.member? members (resource.member "timestamp")).or
        ((members.find? fun member => isLonger resource member.1).map (·.2))).getD .null := by
  unfold timestampValue isLonger
  dsimp only
  cases Json.member? members (resource.member "timestamp") <;> rfl

theorem firstLonger_iff {value : Json} : FirstLonger resource members value ↔
    (members.find? fun member => isLonger resource member.1).map (·.2) = some value := by
  rw [Option.map_eq_some_iff]
  constructor
  · rintro ⟨before,name,after,rfl,longer,others⟩
    refine ⟨(name,value),List.find?_eq_some_iff_append.mpr ⟨longer,before,after,rfl,?_⟩,rfl⟩
    intro other member
    simp [others other member]
  · rintro ⟨⟨name,_⟩,found,rfl⟩
    obtain ⟨longer,before,after,same,others⟩ := List.find?_eq_some_iff_append.mp found
    exact ⟨before,name,after,same,longer,fun other member => by simpa using others other member⟩

end Reading

section Agreement
variable {resource : Resource} {members members' : List (Text × Json)} {name : String} {value : Json}

private theorem valueOf_of_gives (distinct : (members.map (·.1)).Nodup)
    (gives : Gives members name value) : valueOf members name = value := by
  rcases gives with member | ⟨absent,rfl⟩
  · exact valueOf_of_mem distinct member
  · exact valueOf_of_absent absent

theorem member?_eq_some_iff (distinct : (members.map (·.1)).Nodup) :
    Json.member? members name = some value ↔ (Text.ofString name,value) ∈ members :=
  ⟨mem_of_member?,member?_of_mem distinct⟩

private theorem member?_congr (distinct : (members.map (·.1)).Nodup)
    (distinct' : (members'.map (·.1)).Nodup)
    (same : ∀ value, (Text.ofString name,value) ∈ members ↔ (Text.ofString name,value) ∈ members') :
    Json.member? members name = Json.member? members' name := by
  refine Option.ext fun value => ?_
  rw [member?_eq_some_iff distinct,same,member?_eq_some_iff distinct']

/-- Objects that agree on the columns of a resource are decoded alike. -/
theorem decode_of_agree (distinct : (members.map (·.1)).Nodup)
    (distinct' : (members'.map (·.1)).Nodup) (agree : Agree resource members members') :
    decode resource (.object members) = decode resource (.object members') := by
  refine decode_congr (fun column other => ?_) ?_
  · obtain ⟨value,gives,gives'⟩ := agree.values column other
    rw [valueOf_of_gives distinct gives,valueOf_of_gives distinct' gives']
  · rw [timestampValue_eq,timestampValue_eq,← member?_congr distinct distinct' agree.timestamp]
    cases found : Json.member? members (resource.member "timestamp") with
    | some value => rfl
    | none =>
      have longer := agree.longer (absent_of_member? distinct found)
      simp only [firstLonger_iff] at longer
      rw [Option.ext longer]

end Agreement

section Foreign
variable {resource other : Resource} {members : List (Text × Json)} {name : Text}

theorem startsWith_iff_letters {before : String} :
    name.startsWith before = true ↔ (Text.ofString before).letters <+: name.letters :=
  List.isPrefixOf_iff_prefix

private theorem resource_unique (first : name.startsWith (resource.name ++ ".") = true)
    (second : name.startsWith (other.name ++ ".") = true) : resource = other := by
  rw [startsWith_iff_letters] at first second
  have one : (Text.ofString (resource.name ++ ".")).letters <+:
        (Text.ofString (other.name ++ ".")).letters ∨
      (Text.ofString (other.name ++ ".")).letters <+:
        (Text.ofString (resource.name ++ ".")).letters :=
    List.prefix_or_prefix_of_prefix first second
  clear first second
  revert one
  cases resource <;> cases other <;> decide

private theorem not_isForeign_of_own (own : name.startsWith (resource.name ++ ".") = true) :
    isForeign resource name = false := by
  have none : ((Vocabulary.values : List Resource).any fun other =>
      other != resource && name.startsWith (other.name ++ ".")) = false := by
    rw [List.any_eq_false]
    intro other _ both
    obtain ⟨different,starts⟩ := Bool.and_eq_true_iff.mp both
    exact absurd (resource_unique starts own) (by simpa using different)
  rw [isForeign,none,Bool.false_and]

private theorem not_isForeign_of_longer (longer : isLonger resource name = true) :
    isForeign resource name = false := by
  refine not_isForeign_of_own ?_
  rw [isLonger,startsWith_iff_letters] at longer
  rw [startsWith_iff_letters]
  refine List.IsPrefix.trans ⟨(Text.ofString "timestamp.").letters,?_⟩ longer
  simp [Text.ofString,Resource.member]

private theorem not_isForeign_of_column (column : Column) :
    isForeign resource (Text.ofString (column.name resource)) = false := by
  have own (field : String) : isForeign resource (Text.ofString (resource.member field)) = false := by
    refine not_isForeign_of_own (startsWith_iff.mpr ⟨field.toList,?_⟩)
    simp [Resource.member]
  cases column with
  | measure operation => exact own _
  | timestamp => exact own _
  | identifier key =>
    cases key with
    | organization => simp [isForeign,Column.name,Selection.dimensionOf]
    | project => exact own _
    | collection => exact own _

private theorem find?_own {p : Text × Json → Bool}
    (own : ∀ member, p member = true → isForeign resource member.1 = false) :
    (members.filter fun member => !isForeign resource member.1).find? p = members.find? p := by
  rw [List.find?_filter]
  congr 1
  funext member
  by_cases taken : p member = true
  · simp [taken,own member taken]
  · simp [taken]

private theorem member?_own (column : Column) :
    Json.member? (members.filter fun member => !isForeign resource member.1)
      (column.name resource) = Json.member? members (column.name resource) := by
  rw [Json.member?,Json.member?,find?_own]
  rintro ⟨key,value⟩ named
  obtain rfl : key = Text.ofString (column.name resource) := by
    simpa [Text.isString] using named
  exact not_isForeign_of_column column

/-- The members of other resources can be left out. -/
theorem decode_own (resource : Resource) (members : List (Text × Json)) :
    decode resource (.object (members.filter fun member => !isForeign resource member.1)) =
      decode resource (.object members) := by
  refine decode_congr (fun column _ => ?_) ?_
  · rw [valueOf,valueOf,member?_own]
  · have plain : Json.member? (members.filter fun member => !isForeign resource member.1)
        (resource.member "timestamp") = Json.member? members (resource.member "timestamp") :=
      member?_own .timestamp
    rw [timestampValue_eq,timestampValue_eq,plain,
      find?_own fun _ longer => not_isForeign_of_longer longer]

end Foreign

section Order
variable {resource : Resource} {members members' : List (Text × Json)}

private theorem eq_of_perm_of_length_le_one {α : Type} {items items' : List α}
    (perm : items.Perm items') (short : items.length ≤ 1) : items = items' := by
  cases items with
  | nil => exact perm.nil_eq
  | cons item items =>
    obtain rfl : items = [] := List.length_eq_zero_iff.mp (by simpa using short)
    exact (List.perm_singleton.mp perm.symm).symm

/-- The order of the members matters only among longer names for a timestamp that is missing. -/
theorem decode_perm (perm : members.Perm members') (distinct : (members.map (·.1)).Nodup)
    (settled : (∃ value, (Text.ofString (resource.member "timestamp"),value) ∈ members) ∨
      (members.filter fun member => isLonger resource member.1).length ≤ 1) :
    decode resource (.object members) = decode resource (.object members') := by
  have distinct' : (members'.map (·.1)).Nodup := (perm.map _).nodup_iff.mp distinct
  have same (name : String) : Json.member? members name = Json.member? members' name :=
    member?_congr distinct distinct' fun _ => perm.mem_iff
  refine decode_congr (fun column _ => by rw [valueOf,valueOf,same]) ?_
  rw [timestampValue_eq,timestampValue_eq,← same]
  rcases settled with ⟨value,member⟩ | single
  · rw [member?_of_mem distinct member]
    rfl
  · rw [← List.head?_filter,← List.head?_filter,
      eq_of_perm_of_length_le_one (perm.filter _) single]

end Order

/-- What the row of a resource depends on. Two objects that agree on its columns are decoded to one row,
or fail alike. So members of other resources can come and go, and the members can stand in any order if
the timestamp has its own name or at most one longer one. -/
theorem decode_depends (resource : Resource) :
    (∀ members members' : List (Text × Json), (members.map (·.1)).Nodup →
      (members'.map (·.1)).Nodup → Agree resource members members' →
        decode resource (.object members) = decode resource (.object members')) ∧
    (∀ members members' : List (Text × Json),
      (members.filter fun member => !isForeign resource member.1) =
        (members'.filter fun member => !isForeign resource member.1) →
      decode resource (.object members) = decode resource (.object members')) ∧
    ∀ members members' : List (Text × Json), members.Perm members' →
      (members.map (·.1)).Nodup →
      ((∃ value, (Text.ofString (resource.member "timestamp"),value) ∈ members) ∨
        (members.filter fun member => isLonger resource member.1).length ≤ 1) →
      decode resource (.object members) = decode resource (.object members') := by
  refine ⟨fun _ _ => decode_of_agree,fun members members' own => ?_,fun _ _ => decode_perm⟩
  rw [← decode_own,own,decode_own]

section Mints

/-- A row of mints with its project stated to be null. -/
def unprojected : List (Text × Json) := ("mints.project_id",.null) :: mintsMembers

private theorem unprojected_distinct : (unprojected.map (·.1)).Nodup := by decide

private theorem mintsMembers_distinct : (mintsMembers.map (·.1)).Nodup := by decide

private theorem gives_of_member? {members : List (Text × Json)} {name : String} {value : Json}
    (found : Json.member? members name = some value) : Gives members name value :=
  .inl (mem_of_member? found)

private theorem unprojected_agrees : Agree .mints unprojected mintsMembers where
  values := by
    intro column other
    rcases column with (_ | _) | (_ | _ | _) | _
    · exact ⟨_,gives_of_member? rfl,gives_of_member? rfl⟩
    · exact ⟨_,gives_of_member? rfl,gives_of_member? rfl⟩
    · exact ⟨_,gives_of_member? rfl,gives_of_member? rfl⟩
    · exact ⟨.null,gives_of_member? rfl,.inr ⟨absent_of_member? mintsMembers_distinct rfl,rfl⟩⟩
    · exact ⟨.null,.inr ⟨absent_of_member? unprojected_distinct rfl,rfl⟩,
        .inr ⟨absent_of_member? mintsMembers_distinct rfl,rfl⟩⟩
    · exact absurd rfl other
  timestamp value := ⟨fun member => absurd member (absent_of_member? unprojected_distinct rfl value),
    fun member => absurd member (absent_of_member? mintsMembers_distinct rfl value)⟩
  longer _ value := by
    rw [firstLonger_iff,firstLonger_iff]
    rfl

/-- A null project, a member of wallets and the order of the members make no difference to the row. -/
theorem decode_depends_mints :
    decode .mints (.object unprojected) = decode .mints (.object mintsMembers) ∧
    decode .mints (.object (("wallets.count",.bool true) :: mintsMembers)) =
      decode .mints (.object mintsMembers) ∧
    decode .mints (.object mintsMembers) = decode .mints (.object mintsMembers.reverse) := by
  obtain ⟨agreeing,foreign,ordered⟩ := decode_depends .mints
  exact ⟨agreeing _ _ unprojected_distinct mintsMembers_distinct unprojected_agrees,
    foreign _ _ rfl,
    ordered _ _ (List.reverse_perm _).symm mintsMembers_distinct (.inr (by decide))⟩

end Mints

end ScopedAnalytics.Row
