import ScopedAnalytics.Proofs.Calendar.Timestamps
import ScopedAnalytics.Proofs.Row.Answering
import ScopedAnalytics.Proofs.Row.Identifiers

/-! Rows read back from what they are rendered to. A rendered row whose fields are given the member
names of a resource is an object that the resource's rows are decoded from, and the row comes back
as it was. -/
namespace ScopedAnalytics

/-- Whether the numbers of a row are ones that can be decoded: its count is not negative, its change
neither infinite nor undefined. -/
structure Row.IsProper (row : Row) : Prop where
  count : ∀ n, row.count = some n → 0 ≤ n
  change : ∀ x, row.change = some x → x.isFinite = true

/-- The member of a resource that is decoded to a field of a rendered row. -/
def Row.memberOf (resource : Resource) (field : String) : String :=
  if field = "organizationId" then Resource.projects.member "organization_id"
  else if field = "projectId" then resource.member "project_id"
  else if field = "collectionId" then resource.member "collection_id"
  else resource.member field

/-- A rendered row with its fields renamed to members of a resource. -/
def Row.renamed (resource : Resource) (row : Row) : Json :=
  .ofMembers (row.members.map fun member => (memberOf resource member.1,member.2))

namespace Row

section Cells
variable {α : Type} {row : Row} {resource : Resource}

/-- A value under the column it belongs to, unless it is missing. -/
private def cell (column : Column) (encode : α → Json) (value : Option α) : List (Column × Json) :=
  (value.map fun x => (column,encode x)).toList

/-- What a row is rendered to, by columns. -/
private def cells (row : Row) : List (Column × Json) :=
  cell (.measure .count) .int row.count ++ cell (.measure .change) .float row.change ++
    cell (.identifier .organization) (fun id => .str id.text) row.organizationId ++
    cell (.identifier .project) (fun id => .str id.text) row.projectId ++
    cell (.identifier .collection) (fun id => .str id.text) row.collectionId ++
    cell .timestamp (fun t => .str t.iso) row.timestamp

private def named (resource : Resource) (cells : List (Column × Json)) : List (Text × Json) :=
  cells.map fun entry => (Text.ofString (entry.1.name resource),entry.2)

private theorem named_append (resource : Resource) (front back : List (Column × Json)) :
    named resource (front ++ back) = named resource front ++ named resource back :=
  List.map_append

private theorem named_cell {field : String} {column : Column}
    (same : memberOf resource field = column.name resource) (encode : α → Json)
    (value : Option α) : named resource (cell column encode value) =
      (Row.field field encode value).map fun member =>
        (Text.ofString (memberOf resource member.1),member.2) := by
  cases value with
  | none => rfl
  | some x => simp [Row.field,named,cell,same]

private theorem renamed_eq (resource : Resource) (row : Row) :
    row.renamed resource = .object (named resource row.cells) := by
  have count : memberOf resource "count" = (Column.measure .count).name resource := rfl
  have change : memberOf resource "change" = (Column.measure .change).name resource := rfl
  have organization : memberOf resource "organizationId" =
      (Column.identifier .organization).name resource := rfl
  have project : memberOf resource "projectId" = (Column.identifier .project).name resource := rfl
  have collection : memberOf resource "collectionId" =
      (Column.identifier .collection).name resource := rfl
  have timestamp : memberOf resource "timestamp" = Column.timestamp.name resource := rfl
  simp only [renamed,Json.ofMembers,members,cells,List.map_map,List.map_append,named_append,
    named_cell count,named_cell change,named_cell organization,named_cell project,
    named_cell collection,named_cell timestamp,Function.comp_def]

private theorem member?_named (column : Column) (entries : List (Column × Json)) :
    Json.member? (named resource entries) (column.name resource) = entries.lookup column := by
  induction entries with
  | nil => rfl
  | cons entry entries ih =>
    obtain ⟨other,value⟩ := entry
    by_cases same : column = other
    · subst same
      simp [named,Json.member?]
    · have apart : other.name resource ≠ column.name resource :=
        fun equal => same (Column.name_injective resource equal).symm
      rw [List.lookup_cons,beq_false_of_ne same,← ih]
      simp [named,Json.member?,apart]

private theorem lookup_cell (column other : Column) (encode : α → Json) (value : Option α) :
    (cell other encode value).lookup column = if column = other then value.map encode else none := by
  cases value with
  | none => simp [cell]
  | some x =>
    by_cases same : column = other
    · simp [cell,same]
    · simp [cell,List.lookup_cons,beq_false_of_ne same,same]

private def value? (row : Row) : Column → Option Json
  | .measure .count => row.count.map .int
  | .measure .change => row.change.map .float
  | .identifier .organization => row.organizationId.map fun id => .str id.text
  | .identifier .project => row.projectId.map fun id => .str id.text
  | .identifier .collection => row.collectionId.map fun id => .str id.text
  | .timestamp => row.timestamp.map fun t => .str t.iso

private theorem lookup_cells (row : Row) (column : Column) :
    row.cells.lookup column = row.value? column := by
  rcases column with (_ | _) | (_ | _ | _) | _ <;>
    simp [cells,value?,List.lookup_append,lookup_cell]

private theorem timestampValue_named (entries : List (Column × Json)) :
    timestampValue resource (named resource entries) =
      (entries.lookup Column.timestamp).getD .null := by
  have plain : Json.member? (named resource entries) (resource.member "timestamp") =
      entries.lookup .timestamp := member?_named .timestamp entries
  have longer : (named resource entries).find? (fun member =>
      member.1.startsWith (resource.member "timestamp" ++ ".")) = none := by
    rw [List.find?_eq_none]
    intro member inside starts
    obtain ⟨entry,_,rfl⟩ := List.mem_map.mp inside
    exact absurd (startsWith_iff.mp starts) (entry.1.not_startsWith resource)
  rw [timestampValue,plain,longer]
  cases entries.lookup Column.timestamp <;> rfl

end Cells

section Proper
variable {row : Row} {resource : Resource}

private theorem decodeCount_proper {value : Json} {n : Int}
    (decoded : decodeCount value = .ok (some n)) : 0 ≤ n := by
  have accepted {m : Int} (ok : (if m < 0 then .error (.negativeCount value) else .ok (some m) :
      Except Undecodable (Option Int)) = .ok (some n)) : 0 ≤ n := by
    split at ok
    · cases ok
    · rename_i above
      obtain rfl := Option.some.inj (Except.ok.inj ok)
      exact Int.not_lt.mp above
  unfold decodeCount at decoded
  cases value with
  | int m => exact accepted decoded
  | text t =>
    dsimp only at decoded
    split at decoded
    · exact accepted decoded
    · cases decoded
  | null => cases decoded
  | _ => cases decoded

private theorem decodeChange_proper {value : Json} {x : Binary64}
    (decoded : decodeChange value = .ok (some x)) : x.isFinite = true := by
  have accepted {y : Binary64} (ok : (if y.isFinite then .ok (some y) else
      .error (.invalid "change" value) : Except Undecodable (Option Binary64)) = .ok (some x)) :
      x.isFinite = true := by
    split at ok
    · rename_i finite
      obtain rfl := Option.some.inj (Except.ok.inj ok)
      exact finite
    · cases ok
  unfold decodeChange at decoded
  cases value with
  | float y => exact accepted decoded
  | int n =>
    dsimp only [integerChange,Binary64.ofInt?] at decoded
    split at decoded
    · rename_i finite
      obtain rfl := Option.some.inj (Except.ok.inj decoded)
      exact finite
    · cases decoded
  | text t =>
    dsimp only at decoded
    split at decoded
    · exact accepted decoded
    · cases decoded
  | null => cases decoded
  | _ => cases decoded

theorem isProper_of_decode {value : Json} (decoded : decode resource value = .ok row) :
    row.IsProper := by
  cases value with
  | object members =>
    obtain ⟨count,counted,decoded⟩ := except_bind_ok decoded
    obtain ⟨change,changed,decoded⟩ := except_bind_ok decoded
    obtain ⟨organization,_,decoded⟩ := except_bind_ok decoded
    obtain ⟨project,_,decoded⟩ := except_bind_ok decoded
    obtain ⟨collection,_,decoded⟩ := except_bind_ok decoded
    obtain ⟨timestamp,_,decoded⟩ := except_bind_ok decoded
    obtain rfl := Except.ok.inj decoded
    constructor
    · rintro n rfl
      exact decodeCount_proper counted
    · rintro x rfl
      exact decodeChange_proper changed
  | _ => cases decoded

private theorem decodeUuid_text (id : Option Uuid) :
    decodeUuid ((id.map fun id => .str id.text).getD .null) = .ok id := by
  cases id with
  | none => rfl
  | some id => exact decodeText_of_states "uuid" ⟨id.text,rfl,id.read?_text⟩

private theorem decodeTimestamp_iso (t : Option DateTime) :
    decodeTimestamp ((t.map fun t => .str t.iso).getD .null) = .ok t := by
  cases t with
  | none => rfl
  | some t => exact decodeText_of_states "timestamp" ⟨t.iso,rfl,t.read?_iso⟩

theorem decode_of_isProper (proper : row.IsProper) :
    decode resource (row.renamed resource) = .ok row := by
  have held (column : Column) : valueOf (named resource row.cells) (column.name resource) =
      (row.value? column).getD .null := by rw [valueOf,member?_named,lookup_cells]
  have dated : timestampValue resource (named resource row.cells) =
      (row.value? .timestamp).getD .null := by rw [timestampValue_named,lookup_cells]
  have count : decodeCount ((row.count.map .int).getD .null) = .ok row.count := by
    cases counted : row.count with
    | none => rfl
    | some n => exact decodeCount_of_states ⟨proper.count n counted,.inl rfl⟩
  have change : decodeChange ((row.change.map .float).getD .null) = .ok row.change := by
    cases changed : row.change with
    | none => rfl
    | some x => exact decodeChange_of_states ⟨proper.change x changed,.inl rfl⟩
  rw [renamed_eq]
  refine decodeMembers_of_fields ?_ ?_ ?_ ?_ ?_ (dated ▸ decodeTimestamp_iso row.timestamp)
  · exact held (.measure .count) ▸ count
  · exact held (.measure .change) ▸ change
  · exact held (.identifier .organization) ▸ decodeUuid_text row.organizationId
  · exact held (.identifier .project) ▸ decodeUuid_text row.projectId
  · exact held (.identifier .collection) ▸ decodeUuid_text row.collectionId

end Proper

/-- A row comes back from what it is rendered to exactly if its numbers can be decoded, as they can
in every row that was decoded from anything. -/
theorem decode_renamed (resource : Resource) :
    (∀ row : Row, decode resource (row.renamed resource) = .ok row ↔ row.IsProper) ∧
    ∀ value row, decode resource value = .ok row →
      row.IsProper ∧ decode resource (row.renamed resource) = .ok row := by
  refine ⟨fun row => ⟨isProper_of_decode,decode_of_isProper⟩,fun value row decoded => ?_⟩
  have proper := isProper_of_decode decoded
  exact ⟨proper,decode_of_isProper proper⟩

/-- A row of a project: a count, the organization, and a time with a fraction. -/
def projectRow : Row where
  count := some 3
  change := none
  organizationId := some ⟨42⟩
  projectId := none
  collectionId := none
  timestamp := some ⟨⟨2024,2,29,by decide⟩,⟨23,59,58,1,by decide⟩⟩

theorem decode_renamed_project : projectRow.IsProper ∧
    decode .projects (projectRow.renamed .projects) = .ok projectRow := by
  have proper : projectRow.IsProper := by
    constructor
    · rintro n ⟨⟩
      decide
    · rintro x ⟨⟩
  exact ⟨proper,((decode_renamed .projects).1 projectRow).mpr proper⟩

end Row
end ScopedAnalytics
