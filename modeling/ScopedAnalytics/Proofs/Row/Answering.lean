import ScopedAnalytics.Proofs.Service.Planning
import ScopedAnalytics.Row.Decoding

/-! The members that a query asks for are those that a row is decoded from. What a document and the
added measures ask of a resource comes back in the fields of the row, and nothing else does. -/
namespace ScopedAnalytics

inductive Column where
  | measure (operation : Operation)
  | identifier (key : ScopeKey)
  | timestamp
deriving DecidableEq

namespace Query

/-- The names under which a query can be given a timestamp, the second with the granularity. -/
def timestampNames (q : Query) : List String :=
  match q.timeDimension.granularity with
  | some granularity =>
    [q.resource.member "timestamp",q.resource.member "timestamp" ++ "." ++ granularity.name]
  | none => []

end Query

namespace Column

/-- The member name of a column in the queries on a resource. -/
def name (resource : Resource) : Column → String
  | measure operation => (Measure.mk resource operation).text
  | identifier key => Selection.dimensionOf resource key
  | timestamp => resource.member "timestamp"

/-- The names under which the answer to a query can hold a column. -/
def names (q : Query) : Column → List String
  | timestamp => q.timestampNames
  | column => [column.name q.resource]

/-- Whether a column of a resource is asked for, by a field of the document or by a measure. -/
def IsAsked (nodes : List Document.Node) (measures : List Measure) (resource : Resource) :
    Column → Prop
  | measure operation => ⟨resource,operation⟩ ∈ measures ∨
      operation = .count ∧ "count" ∈ Document.namesOf nodes resource
  | identifier key => Vocabulary.word (RequestedField.ofKey key) ∈ Document.namesOf nodes resource
  | timestamp => "timestamp" ∈ Document.namesOf nodes resource

instance (nodes : List Document.Node) (measures : List Measure) (resource : Resource) :
    (column : Column) → Decidable (column.IsAsked nodes measures resource)
  | measure _ => inferInstanceAs (Decidable (_ ∨ _ ∧ _))
  | identifier _ | timestamp => inferInstanceAs (Decidable (_ ∈ _))

def word : Column → String
  | measure operation => Vocabulary.word operation
  | identifier key => key.name
  | timestamp => "timestamp"

private theorem word_injective : Function.Injective word := by
  intro one other
  rcases one with (_ | _) | (_ | _ | _) | _ <;>
    rcases other with (_ | _) | (_ | _ | _) | _ <;> decide

private theorem toList_member (resource : Resource) (field : String) :
    (resource.member field).toList = resource.name.toList ++ '.' :: field.toList := by
  simp [Resource.member]

private theorem dropWhile_member (resource : Resource) (field : List Char) :
    (resource.name.toList ++ '.' :: field).dropWhile (· ≠ '.') = '.' :: field := by
  cases resource <;> simp [Resource.name]

private theorem toList_name (resource : Resource) (column : Column) : ∃ home : Resource,
    (column.name resource).toList = home.name.toList ++ '.' :: column.word.toList := by
  cases column with
  | measure operation => exact ⟨resource,toList_member _ _⟩
  | timestamp => exact ⟨resource,toList_member _ _⟩
  | identifier key =>
    cases key with
    | organization => exact ⟨.projects,toList_member _ _⟩
    | project => exact ⟨resource,toList_member _ _⟩
    | collection => exact ⟨resource,toList_member _ _⟩

theorem name_injective (resource : Resource) : Function.Injective (name resource) := by
  intro one other same
  obtain ⟨home,spelled⟩ := toList_name resource one
  obtain ⟨home',spelled'⟩ := toList_name resource other
  have fields : one.word.toList = other.word.toList := by
    have dropped := dropWhile_member home one.word.toList
    rw [← spelled,same,spelled',dropWhile_member] at dropped
    exact (List.cons.inj dropped).2.symm
  exact word_injective (String.toList_injective fields)

/-- No other column can be taken for a timestamp with its granularity. -/
theorem not_startsWith (resource : Resource) (column : Column) :
    ¬(resource.member "timestamp" ++ ".").toList <+: (column.name resource).toList := by
  rintro ⟨rest,same⟩
  obtain ⟨home,spelled⟩ := toList_name resource column
  have fields : column.word.toList = "timestamp".toList ++ '.' :: rest := by
    have dropped := dropWhile_member resource ("timestamp".toList ++ '.' :: rest)
    have written : resource.name.toList ++ '.' :: ("timestamp".toList ++ '.' :: rest) =
        home.name.toList ++ '.' :: column.word.toList := by
      rw [← spelled,← same,String.toList_append,toList_member]
      simp
    rw [written,dropWhile_member] at dropped
    exact (List.cons.inj dropped).2
  have point : '.' ∈ column.word.toList := by simp [fields]
  rcases column with (_ | _) | (_ | _ | _) | _ <;> revert point <;> decide

end Column

section Values
variable {α : Type}

/-- A value that is the text of something. -/
def StatesText (read? : List Char → Option α) (value : Json) (x : α) : Prop :=
  ∃ text, value = .str text ∧ read? text.toList = some x

/-- A value that is a count: an integer that is not negative, or the text of one. -/
def StatesCount (value : Json) (n : Int) : Prop :=
  0 ≤ n ∧ (value = .int n ∨ StatesText Numeral.readInteger? value n)

/-- A value that is a change: a finite number, an integer that has one next to it, or the text of
one. -/
def StatesChange (value : Json) (x : Binary64) : Prop :=
  x.isFinite = true ∧ (value = .float x ∨ (∃ n, value = .int n ∧ Binary64.ofInt? n = some x) ∨
    StatesText Numeral.readBinary64? value x)

/-- Whether a value is well-formed for a column. -/
def Column.Accepts : Column → Json → Prop
  | .measure .count, value => ∃ n, StatesCount value n
  | .measure .change, value => ∃ x, StatesChange value x
  | .identifier _, value => ∃ id, StatesText Uuid.read? value id
  | .timestamp, value => ∃ t, StatesText DateTime.read? value t

end Values

/-- An object that answers a query. It has a member for every measure and dimension, one or two that
agree for the timestamp if the query has a granularity, and no other, each of them well-formed. -/
structure Query.Answer (q : Query) (members : List (Text × Json)) : Prop where
  distinct : (members.map (·.1)).Nodup
  complete : ∀ name ∈ q.measures ++ q.dimensions, ∃ value, (Text.ofString name,value) ∈ members
  dated : q.timeDimension.granularity.isSome = true →
    ∃ name ∈ q.timestampNames, ∃ value, (Text.ofString name,value) ∈ members
  agreeing : ∀ one ∈ q.timestampNames, ∀ other ∈ q.timestampNames, ∀ value value',
    (Text.ofString one,value) ∈ members → (Text.ofString other,value') ∈ members → value = value'
  exact : ∀ member ∈ members,
    ∃ name ∈ q.measures ++ q.dimensions ++ q.timestampNames, member.1 = Text.ofString name
  wellFormed : ∀ column : Column, ∀ name ∈ column.names q, ∀ value,
    (Text.ofString name,value) ∈ members → column.Accepts value

/-- A field of a row holds what all members under its names state if it is asked for, and nothing
if it is not. -/
structure Holds {α : Type} (members : List (Text × Json)) (names : List String)
    (States : Json → α → Prop) (isAsked : Prop) (field : Option α) : Prop where
  asked : isAsked → ∃ x, field = some x ∧
    (∃ name ∈ names, ∃ value, (Text.ofString name,value) ∈ members) ∧
    ∀ name ∈ names, ∀ value, (Text.ofString name,value) ∈ members → States value x
  unasked : ¬isAsked → field = none

/-- A row that reports what is asked of a resource and was answered, and nothing else. -/
structure Row.Reports (q : Query) (members : List (Text × Json)) (isAsked : Column → Prop)
    (row : Row) : Prop where
  count : Holds members (Column.names q (.measure .count)) StatesCount
    (isAsked (.measure .count)) row.count
  change : Holds members (Column.names q (.measure .change)) StatesChange
    (isAsked (.measure .change)) row.change
  organizationId : Holds members (Column.names q (.identifier .organization))
    (StatesText Uuid.read?) (isAsked (.identifier .organization)) row.organizationId
  projectId : Holds members (Column.names q (.identifier .project))
    (StatesText Uuid.read?) (isAsked (.identifier .project)) row.projectId
  collectionId : Holds members (Column.names q (.identifier .collection))
    (StatesText Uuid.read?) (isAsked (.identifier .collection)) row.collectionId
  timestamp : Holds members (Column.names q .timestamp) (StatesText DateTime.read?)
    (isAsked .timestamp) row.timestamp

section Values
variable {α : Type} {value : Json}

theorem decodeText_of_states {read? : List Char → Option α} {x : α} (field : String)
    (states : StatesText read? value x) : Row.decodeText field read? value = .ok (some x) := by
  obtain ⟨text,rfl,read⟩ := states
  simp [Row.decodeText,Json.str,read]

theorem decodeCount_of_states {n : Int} (states : StatesCount value n) :
    Row.decodeCount value = .ok (some n) := by
  obtain ⟨above,rfl | ⟨text,rfl,read⟩⟩ := states
  · simp [Row.decodeCount,Int.not_lt.mpr above]
  · simp [Row.decodeCount,Json.str,read,Int.not_lt.mpr above]

theorem decodeChange_of_states {x : Binary64} (states : StatesChange value x) :
    Row.decodeChange value = .ok (some x) := by
  obtain ⟨finite,rfl | ⟨n,rfl,near⟩ | ⟨text,rfl,read⟩⟩ := states
  · simp [Row.decodeChange,finite]
  · simp [Row.decodeChange,Row.integerChange,near]
  · simp [Row.decodeChange,Json.str,read,finite]

end Values

section Members
variable {members : List (Text × Json)} {name : String} {value : Json}

theorem member?_of_mem (distinct : (members.map (·.1)).Nodup)
    (member : (Text.ofString name,value) ∈ members) : Json.member? members name = some value := by
  unfold Json.member?
  induction members with
  | nil => cases member
  | cons first members ih =>
    obtain ⟨new,distinct⟩ := List.nodup_cons.mp distinct
    rcases List.mem_cons.mp member with rfl | inside
    · simp
    · have other : first.1 ≠ Text.ofString name :=
        fun same => new (List.mem_map.mpr ⟨_,inside,same.symm⟩)
      rw [List.find?_cons_of_neg (by simpa [Text.isString] using other)]
      exact ih distinct inside

theorem member?_of_absent (absent : ∀ value, (Text.ofString name,value) ∉ members) :
    Json.member? members name = none := by
  rw [Json.member?,Option.map_eq_none_iff,List.find?_eq_none]
  rintro ⟨key,value⟩ member named
  obtain rfl : key = Text.ofString name := by simpa [Text.isString] using named
  exact absent value member

theorem valueOf_of_mem (distinct : (members.map (·.1)).Nodup)
    (member : (Text.ofString name,value) ∈ members) : Row.valueOf members name = value := by
  rw [Row.valueOf,member?_of_mem distinct member]
  rfl

theorem valueOf_of_absent (absent : ∀ value, (Text.ofString name,value) ∉ members) :
    Row.valueOf members name = .null := by
  rw [Row.valueOf,member?_of_absent absent]
  rfl

theorem mem_of_member? (found : Json.member? members name = some value) :
    (Text.ofString name,value) ∈ members := by
  obtain ⟨⟨key,_⟩,first,rfl⟩ := Option.map_eq_some_iff.mp found
  have own := List.find?_some first
  obtain rfl : key = Text.ofString name := by simpa [Text.isString] using own
  exact List.mem_of_find?_eq_some first

theorem absent_of_member? (distinct : (members.map (·.1)).Nodup)
    (missing : Json.member? members name = none) (value : Json) :
    (Text.ofString name,value) ∉ members := by
  intro member
  rw [member?_of_mem distinct member] at missing
  cases missing

theorem value_unique {value' : Json} (distinct : (members.map (·.1)).Nodup)
    (member : (Text.ofString name,value) ∈ members)
    (member' : (Text.ofString name,value') ∈ members) : value' = value := by
  have found := member?_of_mem distinct member
  rw [member?_of_mem distinct member'] at found
  exact Option.some.inj found

end Members

section Decoding
variable {q : Query} {members : List (Text × Json)} {isAsked : Column → Prop} {α : Type}

/-- What a query asks for: a member for each of its columns, and a granularity for the timestamp. -/
structure Query.Asks (q : Query) (isAsked : Column → Prop) : Prop where
  names : ∀ name, name ∈ q.measures ++ q.dimensions ↔
    ∃ column, column ≠ .timestamp ∧ isAsked column ∧ name = column.name q.resource
  dated : q.timeDimension.granularity.isSome = true ↔ isAsked .timestamp

theorem Query.mem_timestampNames {name : String} : name ∈ q.timestampNames ↔
    ∃ granularity, q.timeDimension.granularity = some granularity ∧
      (name = q.resource.member "timestamp" ∨
        name = q.resource.member "timestamp" ++ "." ++ granularity.name) := by
  unfold timestampNames
  cases q.timeDimension.granularity <;> simp

theorem startsWith_iff {text before : String} :
    (Text.ofString text).startsWith before = true ↔ before.toList <+: text.toList := by
  have injective : Function.Injective Letter.char := fun _ _ same => Letter.char.inj same
  rw [Text.startsWith,List.isPrefixOf_iff_prefix]
  exact List.prefix_map_iff_of_injective injective

private theorem startsWith_append (before after : String) :
    (Text.ofString (before ++ after)).startsWith before = true := by
  rw [startsWith_iff,String.toList_append]
  exact List.prefix_append _ _

/-- A member of an answer is one of the columns asked for or a timestamp with its granularity. -/
private theorem member_cases (asks : q.Asks isAsked) (answer : q.Answer members)
    {key : Text} {value : Json} (member : (key,value) ∈ members) :
    (∃ column, isAsked column ∧ key = Text.ofString (column.name q.resource)) ∨
      ∃ name ∈ q.timestampNames, key = Text.ofString name ∧
        key.startsWith (q.resource.member "timestamp" ++ ".") = true := by
  obtain ⟨name,wanted,rfl⟩ := answer.exact _ member
  rcases List.mem_append.mp wanted with plain | dated
  · obtain ⟨column,_,asked,rfl⟩ := (asks.names name).mp plain
    exact .inl ⟨column,asked,rfl⟩
  · obtain ⟨granularity,given,same⟩ := Query.mem_timestampNames.mp dated
    rcases same with rfl | rfl
    · exact .inl ⟨.timestamp,asks.dated.mp (by simp [given]),rfl⟩
    · exact .inr ⟨_,dated,rfl,startsWith_append _ _⟩

private theorem absent_of_unasked (asks : q.Asks isAsked) (answer : q.Answer members)
    {column : Column} (unasked : ¬isAsked column) (value : Json) :
    (Text.ofString (column.name q.resource),value) ∉ members := by
  intro member
  rcases member_cases asks answer member with ⟨other,asked,same⟩ | ⟨_,_,_,starts⟩
  · obtain rfl := Column.name_injective q.resource (Text.ofString_injective same)
    exact unasked asked
  · exact absurd (startsWith_iff.mp starts) (column.not_startsWith q.resource)

private theorem column_holds (asks : q.Asks isAsked) (answer : q.Answer members)
    (decode : Json → Except Undecodable (Option α)) (States : Json → α → Prop) (column : Column)
    (plain : column.names q = [column.name q.resource]) (other : column ≠ .timestamp)
    (accepts : ∀ value, column.Accepts value → ∃ x, States value x)
    (missing : decode .null = .ok none)
    (present : ∀ value x, States value x → decode value = .ok (some x)) :
    ∃ field, decode (Row.valueOf members (column.name q.resource)) = .ok field ∧
      Holds members (column.names q) States (isAsked column) field := by
  by_cases asked : isAsked column
  · obtain ⟨value,member⟩ :=
      answer.complete _ ((asks.names _).mpr ⟨column,other,asked,rfl⟩)
    have own : column.name q.resource ∈ column.names q := by simp [plain]
    obtain ⟨x,states⟩ := accepts value (answer.wellFormed column _ own value member)
    refine ⟨some x,?_,fun _ => ⟨x,rfl,⟨_,own,value,member⟩,?_⟩,fun unasked => absurd asked unasked⟩
    · rw [valueOf_of_mem answer.distinct member]
      exact present value x states
    · intro name named value' member'
      obtain rfl : name = column.name q.resource := by simpa [plain] using named
      rw [value_unique answer.distinct member member']
      exact states
  · have absent := absent_of_unasked asks answer asked
    refine ⟨none,?_,fun asked' => absurd asked' asked,fun _ => rfl⟩
    rw [valueOf_of_absent absent]
    exact missing

private theorem named_of_startsWith (asks : q.Asks isAsked) (answer : q.Answer members)
    {key : Text} {value : Json} (member : (key,value) ∈ members)
    (starts : key.startsWith (q.resource.member "timestamp" ++ ".") = true) :
    ∃ name ∈ q.timestampNames, key = Text.ofString name := by
  rcases member_cases asks answer member with ⟨column,_,rfl⟩ | ⟨name,named,same,_⟩
  · exact absurd (startsWith_iff.mp starts) (column.not_startsWith q.resource)
  · exact ⟨name,named,same⟩

private theorem timestampValue_of_asked (asks : q.Asks isAsked) (answer : q.Answer members)
    (asked : isAsked .timestamp) : ∃ name ∈ q.timestampNames,
      (Text.ofString name,Row.timestampValue q.resource members) ∈ members := by
  have given := asks.dated.mpr asked
  obtain ⟨granularity,same⟩ := Option.isSome_iff_exists.mp given
  obtain ⟨name,named,value,member⟩ := answer.dated given
  unfold Row.timestampValue
  dsimp only
  cases found : Json.member? members (q.resource.member "timestamp") with
  | some held =>
    exact ⟨_,Query.mem_timestampNames.mpr ⟨granularity,same,.inl rfl⟩,mem_of_member? found⟩
  | none =>
    -- The plain member is missing, so the one that answers continues its name.
    have starts : (Text.ofString name).startsWith (q.resource.member "timestamp" ++ ".") = true := by
      obtain ⟨_,_,rfl | rfl⟩ := Query.mem_timestampNames.mp named
      · rw [member?_of_mem answer.distinct member] at found
        cases found
      · exact startsWith_append _ _
    cases first : members.find? fun member =>
        member.1.startsWith (q.resource.member "timestamp" ++ ".") with
    | none => exact absurd starts (List.find?_eq_none.mp first _ member)
    | some entry =>
      obtain ⟨key,held⟩ := entry
      have inside := List.mem_of_find?_eq_some first
      have longer := List.find?_some first
      obtain ⟨other,named',rfl⟩ := named_of_startsWith asks answer inside longer
      exact ⟨other,named',inside⟩

private theorem timestampValue_of_unasked (asks : q.Asks isAsked) (answer : q.Answer members)
    (unasked : ¬isAsked .timestamp) : Row.timestampValue q.resource members = .null := by
  have absent := absent_of_unasked asks answer unasked
  have plain : Json.member? members (q.resource.member "timestamp") = none :=
    member?_of_absent absent
  have longer : (members.find? fun member =>
      member.1.startsWith (q.resource.member "timestamp" ++ ".")) = none := by
    rw [List.find?_eq_none]
    rintro ⟨key,value⟩ member starts
    obtain ⟨name,named,_⟩ := named_of_startsWith asks answer member starts
    obtain ⟨_,given,_⟩ := Query.mem_timestampNames.mp named
    exact unasked (asks.dated.mp (by simp [given]))
  rw [Row.timestampValue,plain,longer]
  rfl

private theorem timestamp_holds (asks : q.Asks isAsked) (answer : q.Answer members) :
    ∃ field, Row.decodeTimestamp (Row.timestampValue q.resource members) = .ok field ∧
      Holds members (Column.names q .timestamp) (StatesText DateTime.read?) (isAsked .timestamp)
        field := by
  by_cases asked : isAsked .timestamp
  · obtain ⟨name,named,member⟩ := timestampValue_of_asked asks answer asked
    obtain ⟨t,states⟩ := answer.wellFormed .timestamp name named _ member
    refine ⟨some t,decodeText_of_states _ states,fun _ => ⟨t,rfl,⟨name,named,_,member⟩,?_⟩,
      fun unasked => absurd asked unasked⟩
    intro other named' value member'
    rw [answer.agreeing other named' name named _ _ member' member]
    exact states
  · refine ⟨none,?_,fun asked' => absurd asked' asked,fun _ => rfl⟩
    rw [timestampValue_of_unasked asks answer asked]
    rfl

theorem decodeMembers_of_fields {resource : Resource} {row : Row}
    (count : Row.decodeCount (Row.valueOf members (resource.member "count")) = .ok row.count)
    (change : Row.decodeChange (Row.valueOf members (resource.member "change")) = .ok row.change)
    (organization : Row.decodeUuid (Row.valueOf members
      (Selection.dimensionOf resource .organization)) = .ok row.organizationId)
    (project : Row.decodeUuid (Row.valueOf members
      (Selection.dimensionOf resource .project)) = .ok row.projectId)
    (collection : Row.decodeUuid (Row.valueOf members
      (Selection.dimensionOf resource .collection)) = .ok row.collectionId)
    (timestamp : Row.decodeTimestamp (Row.timestampValue resource members) = .ok row.timestamp) :
    Row.decodeMembers resource members = .ok row := by
  simp only [Selection.dimensionOf] at organization project collection
  rw [Row.decodeMembers,count,change,organization,project,collection,timestamp]
  rfl

/-- An answer to a query is decoded to a row that reports all that the query asks for. -/
theorem decode_reports (asks : q.Asks isAsked) (answer : q.Answer members) :
    ∃ row, Row.decode q.resource (.object members) = .ok row ∧ row.Reports q members isAsked := by
  have identifier (key : ScopeKey) := column_holds asks answer Row.decodeUuid
    (StatesText Uuid.read?) (.identifier key) rfl (by simp) (fun _ accepts => accepts) rfl
    fun _ _ => decodeText_of_states "uuid"
  obtain ⟨count,counted,countHolds⟩ := column_holds asks answer Row.decodeCount StatesCount
    (.measure .count) rfl (by simp) (fun _ accepts => accepts) rfl fun _ _ => decodeCount_of_states
  obtain ⟨change,changed,changeHolds⟩ := column_holds asks answer Row.decodeChange StatesChange
    (.measure .change) rfl (by simp) (fun _ accepts => accepts) rfl
    fun _ _ => decodeChange_of_states
  obtain ⟨organization,organized,organizationHolds⟩ := identifier .organization
  obtain ⟨project,projected,projectHolds⟩ := identifier .project
  obtain ⟨collection,collected,collectionHolds⟩ := identifier .collection
  obtain ⟨timestamp,dated,timestampHolds⟩ := timestamp_holds asks answer
  exact ⟨⟨count,change,organization,project,collection,timestamp⟩,
    decodeMembers_of_fields counted changed organized projected collected dated,countHolds,
    changeHolds,organizationHolds,projectHolds,collectionHolds,timestampHolds⟩

end Decoding

section Selected
variable {nodes : List Document.Node} {measures : List Measure} {s : Selection} {scope : Scope}
  {window : Window} {order : Option SortOrder} {limit : Option Int} {q : Query}
  {members : List (Text × Json)}

theorem Query.asks_of_build
    (selected : s ∈ Selections.addMeasures (Selections.extract nodes) measures)
    (built : Query.build s scope window order limit = .ok q) :
    q.Asks (Column.IsAsked nodes measures q.resource) := by
  have named := Selections.outcome_resource (Selections.changesOf_isOwn nodes measures)
  obtain ⟨resource,rfl⟩ : ∃ resource,
      s = Selections.outcome (Selections.changesOf nodes measures) resource :=
    ⟨_,Selections.eq_outcome_of_mem selected⟩
  obtain ⟨_,rfl⟩ := Query.build_ok_iff.mp built
  simp only [named]
  constructor
  case names =>
    intro name
    simp only [List.mem_append,List.mem_map]
    constructor
    · rintro (⟨⟨_,operation⟩,member,rfl⟩ | member)
      · obtain ⟨rfl,asked⟩ := Selections.mem_outcome_measures.mp member
        exact ⟨.measure operation,by simp,asked,rfl⟩
      · obtain ⟨key,asked,rfl⟩ := Selections.mem_outcome_dimensions.mp member
        exact ⟨.identifier key,by simp,asked,rfl⟩
    · rintro ⟨column,other,asked,rfl⟩
      cases column with
      | measure operation =>
        exact .inl ⟨⟨resource,operation⟩,Selections.mem_outcome_measures.mpr ⟨rfl,asked⟩,rfl⟩
      | identifier key => exact .inr (Selections.mem_outcome_dimensions.mpr ⟨key,asked,rfl⟩)
      | timestamp => exact absurd rfl other
  case dated =>
    rw [Column.IsAsked,← Selections.outcome_hasTimestamp]
    cases (Selections.outcome (Selections.changesOf nodes measures) resource).hasTimestamp <;> simp

/-- Whatever a document and added measures ask of a resource, an object that answers its query is
decoded, to a row with the value put there in each field that was asked for and with nothing in the
others. -/
theorem decode_answer (selected : s ∈ Selections.addMeasures (Selections.extract nodes) measures)
    (built : Query.build s scope window order limit = .ok q) (answer : q.Answer members) :
    ∃ row, Row.decode q.resource (.object members) = .ok row ∧
      row.Reports q members (Column.IsAsked nodes measures q.resource) :=
  decode_reports (Query.asks_of_build selected built) answer

/-- A document that asks for the counts and the organizations of mints over time. -/
def mintsOverTime : List Document.Node :=
  [.field none "mints" [] [] (some [.field none "count" [] [] none,
    .inline none [] [.field none "timestamp" [] [] none,.field none "organizationId" [] [] none]])]

/-- The query that it comes to, with their changes added. -/
def mintsQuery : Query where
  resource := .mints
  measures := ["mints.count","mints.change"]
  dimensions := ["projects.organization_id"]
  timeDimension := ⟨"mints.timestamp",some .day,none⟩
  filters := [⟨"mints.project_id","equals",["p"]⟩]
  order := ("mints.timestamp",.descending)
  limit := 100

/-- A row that answers the query, with a change of minus three and the timestamp under its longer
name. -/
def mintsMembers : List (Text × Json) :=
  [("mints.timestamp.day",.str "2024-02-29T00:00:00"),
    ("mints.change",.float (.finite true 6755399441055744 1023)),
    ("projects.organization_id",.str "00000000-0000-0000-0000-00000000002a"),
    ("mints.count",.str "12")]

private theorem mintsMembers_value {name : String} {value held : Json}
    (found : Json.member? mintsMembers name = some held)
    (member : (Text.ofString name,value) ∈ mintsMembers) : value = held :=
  value_unique (by decide) (mem_of_member? found) member

private theorem mintsMembers_timestamp {name : String} {value : Json}
    (named : name ∈ mintsQuery.timestampNames)
    (member : (Text.ofString name,value) ∈ mintsMembers) :
    value = .str "2024-02-29T00:00:00" := by
  rcases List.mem_pair.mp named with rfl | rfl
  · exact absurd member (absent_of_member? (by decide) rfl _)
  · exact mintsMembers_value rfl member

private theorem mintsMembers_answer : mintsQuery.Answer mintsMembers where
  distinct := by decide
  complete := by
    intro name member
    simp only [mintsQuery,List.cons_append,List.nil_append,List.mem_cons,List.not_mem_nil,or_false]
      at member
    rcases member with rfl | rfl | rfl
    · exact ⟨_,mem_of_member? rfl⟩
    · exact ⟨_,mem_of_member? rfl⟩
    · exact ⟨_,mem_of_member? rfl⟩
  dated _ := ⟨"mints.timestamp.day",by decide,_,mem_of_member? rfl⟩
  agreeing one first other second value value' member member' := by
    rw [mintsMembers_timestamp first member,mintsMembers_timestamp second member']
  exact := by decide
  wellFormed := by
    intro column name named value member
    rcases column with (_ | _) | (_ | _ | _) | _
    case timestamp =>
      rw [mintsMembers_timestamp named member]
      exact ⟨⟨⟨2024,2,29,by decide⟩,⟨0,0,0,0,by decide⟩⟩,_,rfl,by decide⟩
    all_goals obtain rfl := List.mem_singleton.mp named
    · rw [mintsMembers_value rfl member]
      exact ⟨12,by decide,.inr ⟨"12",rfl,by decide⟩⟩
    · rw [mintsMembers_value rfl member]
      exact ⟨_,rfl,.inl rfl⟩
    · rw [mintsMembers_value rfl member]
      exact ⟨⟨42⟩,_,rfl,by decide⟩
    · exact absurd member (absent_of_member? (by decide) rfl _)
    · exact absurd member (absent_of_member? (by decide) rfl _)

theorem decode_answer_mints : ∃ row,
    Row.decode .mints (.object mintsMembers) = .ok row ∧ row.count = some 12 ∧
      row.organizationId = some ⟨42⟩ ∧ row.projectId = none ∧ row.timestamp.isSome = true := by
  have selected :
      ⟨.mints,[⟨.mints,.count⟩,⟨.mints,.change⟩],["projects.organization_id"],true⟩ ∈
        Selections.addMeasures (Selections.extract mintsOverTime) [⟨.mints,.change⟩] := by
    decide
  have built : Query.build
      ⟨.mints,[⟨.mints,.count⟩,⟨.mints,.change⟩],["projects.organization_id"],true⟩
      ⟨"p",.project⟩ ⟨.day,.named .all⟩ none none = .ok mintsQuery := by decide
  obtain ⟨row,decoded,reports⟩ := decode_answer selected built mintsMembers_answer
  obtain ⟨n,counted,_,stated⟩ := reports.count.asked (by decide)
  obtain ⟨id,organized,_,identified⟩ := reports.organizationId.asked (by decide)
  obtain ⟨t,dated,_⟩ := reports.timestamp.asked (by decide)
  have twelve := decodeCount_of_states
    (stated _ (List.mem_singleton.mpr rfl) _ (mem_of_member? rfl))
  have same := decodeText_of_states "uuid"
    (identified _ (List.mem_singleton.mpr rfl) _ (mem_of_member? rfl))
  refine ⟨row,decoded,?_,?_,reports.projectId.unasked (by decide),by simp [dated]⟩
  · rw [counted]
    exact Except.ok.inj (twelve.symm.trans rfl)
  · rw [organized]
    exact Except.ok.inj (same.symm.trans rfl)

end Selected
end ScopedAnalytics
