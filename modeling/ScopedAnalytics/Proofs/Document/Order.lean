import Mathlib.Data.List.Nodup
import Mathlib.Data.List.Perm.Basic
import ScopedAnalytics.Selection

/-! The order of a document. A field that a selection set stands for has a path: a place in the
selection set, then one in the inline fragment at that place, and so on inward. The order of paths,
place by place, is the order in which the fields are written, at any depth. -/
namespace ScopedAnalytics.Document

/-- The places that lead to a node, from the outermost inward. -/
abbrev Path := List Nat

/-- The field at a path below a node, as its name and selection set. Only inline fragments are
entered on the way, so that no field is below another. -/
def Node.fieldAt? : Node → Path → Option (String × List Node)
  | .field _ name _ _ children,[] => some (name,children.getD [])
  | .inline _ _ children,place :: path => children[place]?.bind fun node => node.fieldAt? path
  | _,_ => none

def fieldAt? (nodes : List Node) : Path → Option (String × List Node)
  | [] => none
  | place :: path => nodes[place]?.bind fun node => node.fieldAt? path

section Listing
variable {α : Type} {find? : Path → Option α}

/-- Items are all that a look-up finds, in the order of the paths at which it finds them. -/
def Lists (find? : Path → Option α) (items : List α) : Prop :=
  ∃ paths : List Path, paths.Pairwise (· < ·) ∧ paths.map find? = items.map some ∧
    ∀ path, (find? path).isSome → path ∈ paths

private theorem mem_paths_iff {items : List α} {paths : List Path}
    (found : paths.map find? = items.map some) (all : ∀ path, (find? path).isSome → path ∈ paths)
    (path : Path) : path ∈ paths ↔ (find? path).isSome := by
  refine ⟨fun member => ?_,all path⟩
  have held : find? path ∈ items.map some := found ▸ List.mem_map_of_mem member
  obtain ⟨item,_,same⟩ := List.mem_map.mp held
  rw [← same]
  rfl

theorem Lists.unique {items others : List α} (first : Lists find? items)
    (second : Lists find? others) : items = others := by
  obtain ⟨paths,ascending,found,all⟩ := first
  obtain ⟨paths',ascending',found',all'⟩ := second
  have members : ∀ path, path ∈ paths ↔ path ∈ paths' := fun path =>
    (mem_paths_iff found all path).trans (mem_paths_iff found' all' path).symm
  have distinct {ps : List Path} (ascending : ps.Pairwise (· < ·)) : ps.Nodup := by
    refine List.Pairwise.imp ?_ ascending
    rintro a _ below rfl
    exact List.lt_irrefl a below
  have same : paths = paths' :=
    List.Perm.eq_of_pairwise
      (fun a b _ _ (below : a < b) above => (List.lt_asymm below above).elim) ascending ascending'
      ((List.perm_ext_iff_of_nodup (distinct ascending) (distinct ascending')).mpr members)
  rw [same,found'] at found
  exact (List.map_injective_iff.mpr (fun _ _ => Option.some.inj) found).symm

theorem Lists.mem_iff {items : List α} (listed : Lists find? items) {item : α} :
    item ∈ items ↔ ∃ path, find? path = some item := by
  obtain ⟨paths,_,found,all⟩ := listed
  constructor
  · intro member
    have held : some item ∈ paths.map find? := found ▸ List.mem_map_of_mem member
    obtain ⟨path,_,same⟩ := List.mem_map.mp held
    exact ⟨path,same⟩
  · rintro ⟨path,same⟩
    have held : find? path ∈ items.map some :=
      found ▸ List.mem_map_of_mem (all path (Option.isSome_of_eq_some same))
    obtain ⟨other,member,equal⟩ := List.mem_map.mp held
    exact Option.some.inj (equal.trans same) ▸ member

/-- The path after a node is put before all others. -/
private def shifted : Path → Path
  | [] => []
  | place :: path => (place + 1) :: path

private theorem shifted_lt {a b : Path} (below : a < b) : shifted a < shifted b := by
  cases a <;> cases b <;> simp_all [shifted,List.cons_lt_cons_iff]

private theorem Lists.append {first rest whole : Path → Option α} {items more : List α}
    (inFirst : Lists first items) (inRest : Lists rest more) (top : rest [] = none)
    (none : whole [] = none) (head : ∀ path, whole (0 :: path) = first path)
    (tail : ∀ place path, whole ((place + 1) :: path) = rest (place :: path)) :
    Lists whole (items ++ more) := by
  obtain ⟨paths,ascending,found,all⟩ := inFirst
  obtain ⟨paths',ascending',found',all'⟩ := inRest
  have deep : ∀ path ∈ paths', ∃ place below, path = place :: below := by
    intro path member
    have some := (mem_paths_iff found' all' path).mp member
    cases path with
    | nil => simp [top] at some
    | cons place below => exact ⟨place,below,rfl⟩
  refine ⟨paths.map (0 :: ·) ++ paths'.map shifted,?_,?_,?_⟩
  · refine List.pairwise_append.mpr ⟨?_,?_,?_⟩
    · exact ascending.map _ fun a b below => List.cons_lt_cons_iff.mpr (.inr ⟨rfl,below⟩)
    · exact ascending'.map _ fun a b below => shifted_lt below
    · intro a inside b after
      obtain ⟨path,_,rfl⟩ := List.mem_map.mp inside
      obtain ⟨path',member,rfl⟩ := List.mem_map.mp after
      obtain ⟨place,below,rfl⟩ := deep path' member
      exact List.cons_lt_cons_iff.mpr (.inl place.succ_pos)
  · have later : paths'.map (whole ∘ shifted) = paths'.map rest := by
      refine List.map_congr_left fun path member => ?_
      obtain ⟨place,below,rfl⟩ := deep path member
      exact tail place below
    have earlier : paths.map (whole ∘ (0 :: ·)) = paths.map first :=
      List.map_congr_left fun path _ => head path
    rw [List.map_append,List.map_map,List.map_map,later,earlier,found,found',List.map_append]
  · intro path some
    match path with
    | [] => simp [none] at some
    | 0 :: below =>
      rw [head] at some
      exact List.mem_append_left _ (List.mem_map_of_mem (all below some))
    | (place + 1) :: below =>
      rw [tail] at some
      exact List.mem_append_right _ (List.mem_map_of_mem (f := shifted) (all' _ some))

end Listing

/-- Fields are all that a selection set stands for, in the order in which they are written. -/
def InOrder (nodes : List Node) (fields : List (String × List Node)) : Prop :=
  Lists (fieldAt? nodes) fields

private theorem lists_nothing {α : Type} {find? : Path → Option α}
    (none : ∀ path, find? path = none) : Lists find? [] :=
  ⟨[],.nil,rfl,fun path some => by simp [none] at some⟩

private theorem fieldAt?_inline (condition : Option String) (directives : List Directive)
    (children : List Node) : (Node.inline condition directives children).fieldAt? =
      fieldAt? children := by
  funext path
  cases path <;> rw [Node.fieldAt?,fieldAt?] <;> simp

theorem fieldsOf_inOrder (nodes : List Node) : InOrder nodes (fieldsOf nodes) := by
  -- The induction is on a node and on a list of nodes together, as they are nested.
  refine fieldsOf.induct (fun node => Lists node.fieldAt? node.fields)
    (fun nodes => InOrder nodes (fieldsOf nodes)) ?field ?spread ?inline ?nil ?cons nodes
  case field =>
    intro label name arguments directives children
    refine ⟨[[]],List.pairwise_singleton _ _,by simp [Node.fieldAt?,Node.fields],fun path some => ?_⟩
    cases path with
    | nil => exact List.mem_singleton_self _
    | cons place path => simp [Node.fieldAt?] at some
  case spread =>
    intro name directives
    rw [Node.fields]
    exact lists_nothing fun path => by cases path <;> simp [Node.fieldAt?]
  case inline =>
    intro condition directives children inside
    rw [Node.fields,fieldAt?_inline]
    exact inside
  case nil =>
    rw [fieldsOf]
    exact lists_nothing fun path => by cases path <;> simp [fieldAt?]
  case cons =>
    intro node nodes first rest
    rw [fieldsOf]
    exact first.append rest rfl rfl (fun path => by simp [fieldAt?])
      fun place path => by simp [fieldAt?]

/-- Reading a selection set node by node gives its fields in the order of the document. -/
theorem inOrder_iff {nodes : List Node} {fields : List (String × List Node)} :
    InOrder nodes fields ↔ fields = fieldsOf nodes :=
  ⟨fun listed => Lists.unique listed (fieldsOf_inOrder nodes),
    fun same => same ▸ fieldsOf_inOrder nodes⟩

theorem mem_fieldsOf {nodes : List Node} {field : String × List Node} :
    field ∈ fieldsOf nodes ↔ ∃ path, fieldAt? nodes path = some field :=
  (fieldsOf_inOrder nodes).mem_iff

theorem fieldsOf_append (nodes more : List Node) :
    fieldsOf (nodes ++ more) = fieldsOf nodes ++ fieldsOf more := by
  induction nodes with
  | nil => simp [fieldsOf]
  | cons node nodes ih => rw [List.cons_append,fieldsOf,fieldsOf,ih,List.append_assoc]

end ScopedAnalytics.Document
