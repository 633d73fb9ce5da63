import ScopedAnalytics.Point.Store
import ScopedAnalytics.Proofs.Point.Reachable

/-! Points whose rows are in lists that they refer to. No two references lead to one list, so what is put
into a point is seen in that point only. A further point has lists of its own, and is what rows or other
points make of it. -/
namespace ScopedAnalytics.Store

/-- A reference to a list of rows, from the point with the number. -/
def Refers (s : Store) (number : Nat) (entry : Resource × Nat) : Prop :=
  ∃ h, s.holders[number]? = some h ∧ entry ∈ h.resources

/-- A store in which each list is there, is not empty and has one reference, and no point has a resource
twice. -/
structure IsSound (s : Store) : Prop where
  bounded : ∀ n e, s.Refers n e → e.2 < s.lists.length
  apart : ∀ n m e f, s.Refers n e → s.Refers m f → e.2 = f.2 → n = m ∧ e = f
  filled : ∀ n e, s.Refers n e → s.rowsAt e.2 ≠ []
  distinct : ∀ (n : Nat) (h : Holder), s.holders[n]? = some h → (h.resources.map (·.1)).Nodup

/-- A store that differs from another in the point with one number only, and what that point holds. -/
structure Leads (s after : Store) (number : Nat) (p : Point) : Prop where
  sound : after.IsSound
  point : ∃ h, after.holders[number]? = some h ∧ after.shown h = p
  holders : ∀ n, n ≠ number → after.holders[n]? = s.holders[n]?
  rows : ∀ n e, n ≠ number → s.Refers n e → after.rowsAt e.2 = s.rowsAt e.2
  slots : after.slots = s.slots
  length : after.holders.length = max s.holders.length (number + 1)

section Steps
variable {s middle after : Store} {number list : Nat} {p q : Point} {h : Holder} {resource : Resource}
  {rows : List Row}

theorem Leads.trans (first : Leads s middle number p) (second : Leads middle after number q) :
    Leads s after number q where
  sound := second.sound
  point := second.point
  holders n other := (second.holders n other).trans (first.holders n other)
  rows n e other refers := by
    have still : middle.Refers n e := by
      obtain ⟨h,held,member⟩ := refers
      exact ⟨h,(first.holders n other).trans held,member⟩
    exact (second.rows n e other still).trans (first.rows n e other refers)
  slots := second.slots.trans first.slots
  length := by
    rw [second.length,first.length]
    omega

theorem Leads.shown (leads : Leads s after number p) {n : Nat} (other : n ≠ number)
    (held : s.holders[n]? = some h) : after.holders[n]? = some h ∧ after.shown h = s.shown h := by
  refine ⟨(leads.holders n other).trans held,?_⟩
  rw [Store.shown,Store.shown,Point.mk.injEq]
  refine ⟨rfl,List.map_congr_left fun entry member => ?_⟩
  rw [leads.rows n entry other ⟨h,held,member⟩]

theorem rowsAt_extend (bounded : list < s.lists.length) (n : Nat) :
    (s.extend list rows).rowsAt n = if n = list then s.rowsAt n ++ rows else s.rowsAt n := by
  simp only [rowsAt,extend,List.getD_eq_getElem?_getD,List.getElem?_modify]
  by_cases same : n = list
  · subst same
    simp [List.getElem?_eq_getElem bounded]
  · simp [same,Ne.symm same]

end Steps

section Insertion
variable {s : Store} {number list : Nat} {h : Holder} {resource : Resource} {rows : List Row}
  {resources : List (Resource × Nat)}

private theorem addRows_of_lookup (held : Nat → List Row) (found : resources.lookup resource = some list)
    (distinct : (resources.map (·.1)).Nodup)
    (apart : ∀ e ∈ resources, e.2 = list → e.1 = resource) :
    Point.addRows resource rows (resources.map fun e => (e.1,held e.2)) =
      resources.map fun e => (e.1,if e.2 = list then held e.2 ++ rows else held e.2) := by
  induction resources with
  | nil => cases found
  | cons e resources ih =>
    obtain ⟨name,here⟩ := e
    obtain ⟨absent,distinct⟩ := List.nodup_cons.mp distinct
    have later : ∀ f ∈ resources, f.2 = list → f.1 = resource :=
      fun f member => apart f (List.mem_cons_of_mem _ member)
    rw [List.map_cons,List.map_cons,Point.addRows]
    by_cases same : name = resource
    · subst same
      obtain rfl : here = list := by simpa using found
      have others : ∀ f ∈ resources, f.2 ≠ here := fun f member lands =>
        absent (List.mem_map.mpr ⟨f,member,later f member lands⟩)
      rw [if_pos rfl,if_pos rfl,List.cons.injEq]
      refine ⟨rfl,List.map_congr_left fun f member => ?_⟩
      rw [if_neg (others f member)]
    · have other : (resource == name) = false := beq_false_of_ne (Ne.symm same)
      have elsewhere : here ≠ list := fun lands => same (apart _ List.mem_cons_self lands)
      rw [List.lookup_cons,other] at found
      rw [if_neg same,if_neg elsewhere,ih found distinct later]

private theorem mem_of_lookup (found : resources.lookup resource = some list) :
    (resource,list) ∈ resources := by
  obtain ⟨before,after,rfl,_⟩ := List.lookup_eq_some_iff.mp found
  exact List.mem_append_right before List.mem_cons_self

private theorem extend_leads (sound : s.IsSound) (held : s.holders[number]? = some h)
    (found : h.resources.lookup resource = some list) :
    Leads s (s.extend list rows) number ⟨h.timestamp,
      Point.addRows resource rows (s.shown h).resources⟩ := by
  have refers : s.Refers number (resource,list) := ⟨h,held,mem_of_lookup found⟩
  have bounded := sound.bounded _ _ refers
  constructor
  case sound =>
    constructor
    case bounded =>
      intro n e refers
      rw [extend,List.length_modify]
      exact sound.bounded n e refers
    case apart => exact sound.apart
    case filled =>
      intro n e refers
      rw [rowsAt_extend bounded]
      split
      · exact List.append_ne_nil_of_left_ne_nil (sound.filled n e refers) rows
      · exact sound.filled n e refers
    case distinct => exact sound.distinct
  case point =>
    refine ⟨h,held,?_⟩
    have apart : ∀ e ∈ h.resources, e.2 = list → e.1 = resource := by
      intro e member lands
      obtain ⟨_,rfl⟩ := sound.apart _ _ _ _ ⟨h,held,member⟩ refers lands
      rfl
    simp only [Store.shown,rowsAt_extend bounded]
    rw [addRows_of_lookup s.rowsAt found (sound.distinct number h held) apart]
  case holders => exact fun _ _ => rfl
  case rows =>
    intro n e other mine
    rw [rowsAt_extend bounded,if_neg]
    intro lands
    exact other (sound.apart _ _ _ _ mine refers lands).1
  case slots => rfl
  case length =>
    have within := (List.getElem?_eq_some_iff.mp held).1
    simp only [extend]
    omega

end Insertion

/-- A store with further lists, to which one point refers under names that are new to it. What the point
refers to already is in `resources`. -/
structure Adds (s after : Store) (number : Nat) (timestamp : Option DateTime)
    (resources : List (Resource × Nat)) (names : List Resource) (new : List (List Row)) : Prop where
  lists : after.lists = s.lists ++ new
  slots : after.slots = s.slots
  others : ∀ n, n ≠ number → after.holders[n]? = s.holders[n]?
  held : after.holders[number]? = some ⟨timestamp,resources ++ names.zipIdx s.lists.length⟩
  mine : ∀ e ∈ resources, s.Refers number e
  size : names.length = new.length
  filled : ∀ rows ∈ new, rows ≠ []
  distinct : (resources.map (·.1) ++ names).Nodup
  length : after.holders.length = max s.holders.length (number + 1)

section Addition
variable {s after : Store} {number n : Nat} {timestamp : Option DateTime} {e : Resource × Nat}
  {resources : List (Resource × Nat)} {names : List Resource} {new : List (List Row)}

theorem Adds.kept (adds : Adds s after number timestamp resources names new)
    (bounded : n < s.lists.length) : after.rowsAt n = s.rowsAt n := by
  simp only [rowsAt,adds.lists,List.getD_eq_getElem?_getD,List.getElem?_append_left bounded]

theorem Adds.fresh (adds : Adds s after number timestamp resources names new) {i : Nat}
    (within : i < new.length) : after.rowsAt (s.lists.length + i) = new[i] := by
  simp [rowsAt,adds.lists,List.getD_eq_getElem?_getD,within]

theorem Adds.refers (adds : Adds s after number timestamp resources names new)
    (refers : after.Refers n e) :
    s.Refers n e ∨ n = number ∧ ∃ i < new.length, e.2 = s.lists.length + i ∧ names[i]? = some e.1 := by
  obtain ⟨h,there,member⟩ := refers
  by_cases same : n = number
  · subst same
    obtain rfl := Option.some.inj (adds.held.symm.trans there)
    rcases List.mem_append.mp member with old | further
    · exact .inl (adds.mine e old)
    · obtain ⟨past,found⟩ := List.mk_mem_zipIdx_iff_le_and_getElem?_sub.mp further
      have within := (List.getElem?_eq_some_iff.mp found).1
      exact .inr ⟨rfl,e.2 - s.lists.length,adds.size ▸ within,by omega,found⟩
  · exact .inl ⟨h,(adds.others n same).symm.trans there,member⟩

theorem Adds.sound (adds : Adds s after number timestamp resources names new) (sound : s.IsSound) :
    after.IsSound := by
  constructor
  case bounded =>
    intro n e refers
    rw [adds.lists,List.length_append]
    rcases adds.refers refers with old | ⟨_,i,within,lands,_⟩
    · have := sound.bounded n e old
      omega
    · omega
  case apart =>
    -- The further lists come behind all others, so an old and a new reference never meet.
    intro n m e f here there same
    rcases adds.refers here with old | ⟨rfl,i,_,lands,named⟩
    · have below := sound.bounded n e old
      rcases adds.refers there with also | ⟨_,j,_,elsewhere,_⟩
      · exact sound.apart n m e f old also same
      · omega
    · rcases adds.refers there with old | ⟨rfl,j,_,elsewhere,also⟩
      · have below := sound.bounded m f old
        omega
      · obtain rfl : i = j := by omega
        exact ⟨rfl,Prod.ext (Option.some.inj (named.symm.trans also)) same⟩
  case filled =>
    intro n e refers
    rcases adds.refers refers with old | ⟨_,i,within,lands,_⟩
    · rw [adds.kept (sound.bounded n e old)]
      exact sound.filled n e old
    · rw [lands,adds.fresh within]
      exact adds.filled _ (List.getElem_mem within)
  case distinct =>
    intro n h there
    by_cases same : n = number
    · subst same
      obtain rfl := Option.some.inj (adds.held.symm.trans there)
      rw [List.map_append,List.zipIdx_map_fst]
      exact adds.distinct
    · exact sound.distinct n h ((adds.others n same).symm.trans there)

theorem Adds.leads (adds : Adds s after number timestamp resources names new) (sound : s.IsSound) :
    Leads s after number
      ⟨timestamp,resources.map (fun e => (e.1,s.rowsAt e.2)) ++ names.zip new⟩ where
  sound := adds.sound sound
  point := by
    refine ⟨_,adds.held,?_⟩
    have old : resources.map (fun e => (e.1,after.rowsAt e.2)) =
        resources.map fun e => (e.1,s.rowsAt e.2) :=
      List.map_congr_left fun e member => by rw [adds.kept (sound.bounded number e (adds.mine e member))]
    have further : (names.zipIdx s.lists.length).map (fun e => (e.1,after.rowsAt e.2)) =
        names.zip new := by
      apply List.ext_getElem
      · simp [adds.size]
      · intro i _ within
        rw [List.length_zip,Nat.lt_min] at within
        simp [adds.fresh within.2]
    rw [shown,List.map_append,old,further]
  holders := adds.others
  rows n e _ refers := adds.kept (sound.bounded n e refers)
  slots := adds.slots
  length := adds.length

theorem addPoint_leads {p : Point} (sound : s.IsSound) (filled : ∀ entry ∈ p.resources, entry.2 ≠ [])
    (distinct : (p.resources.map (·.1)).Nodup) :
    Leads s (s.addPoint p) s.holders.length p := by
  have adds : Adds s (s.addPoint p) s.holders.length p.timestamp [] (p.resources.map (·.1))
      (p.resources.map (·.2)) := by
    constructor
    case others =>
      intro n other
      rcases Nat.lt_or_ge n s.holders.length with below | beyond
      · exact List.getElem?_append_left below
      · have past : s.holders.length + 1 ≤ n := by omega
        rw [List.getElem?_eq_none beyond]
        exact List.getElem?_eq_none (by simpa [addPoint] using past)
    case held => simp [addPoint]
    case mine => simp
    case size => simp
    case filled =>
      intro rows member
      obtain ⟨entry,listed,rfl⟩ := List.mem_map.mp member
      exact filled entry listed
    case distinct => simpa using distinct
    case length => simp [addPoint]
    all_goals rfl
  have whole : p.resources = (p.resources.map (·.1)).zip (p.resources.map (·.2)) := by
    rw [List.zip_map']
    exact (List.map_id _).symm
  have leads := adds.leads sound
  rw [List.map_nil,List.nil_append,← whole] at leads
  exact leads

private theorem modify_last (lists : List (List Row)) (rows : List Row) :
    (lists ++ [[]]).modify lists.length (· ++ rows) = lists ++ [rows] := by
  induction lists with
  | nil => rfl
  | cons first lists ih => exact congrArg (first :: ·) ih

private theorem refer_leads {h : Holder} {resource : Resource} {rows : List Row} (sound : s.IsSound)
    (held : s.holders[number]? = some h) (absent : h.resources.lookup resource = none)
    (filled : rows ≠ []) :
    Leads s ((s.addList.refer number resource s.lists.length).extend s.lists.length rows) number
      ⟨h.timestamp,Point.addRows resource rows (s.shown h).resources⟩ := by
  have within := (List.getElem?_eq_some_iff.mp held).1
  have unlisted : resource ∉ h.resources.map (·.1) := by
    intro listed
    obtain ⟨entry,member,rfl⟩ := List.mem_map.mp listed
    simpa using List.lookup_eq_none_iff.mp absent entry member
  have adds : Adds s ((s.addList.refer number resource s.lists.length).extend s.lists.length rows)
      number h.timestamp h.resources [resource] [rows] := by
    constructor
    case lists => exact modify_last s.lists rows
    case others =>
      intro n other
      simp [extend,refer,addList,Ne.symm other]
    case held => simp [extend,refer,addList,held]
    case mine => exact fun e member => ⟨h,held,member⟩
    case size => rfl
    case filled => simpa using filled
    case distinct =>
      have distinct := sound.distinct number h held
      exact List.concat_eq_append ▸ distinct.concat unlisted
    case length =>
      simp only [extend,refer,addList,List.length_modify]
      omega
    case slots => rfl
  have appended : Point.addRows resource rows (s.shown h).resources =
      h.resources.map (fun e => (e.1,s.rowsAt e.2)) ++ [resource].zip [rows] := by
    apply Point.addRows_absent
    simpa [shown] using unlisted
  rw [appended]
  exact adds.leads sound

theorem insert_leads {h : Holder} (sound : s.IsSound) (held : s.holders[number]? = some h)
    (resource : Resource) (rows : List Row) :
    Leads s (s.insert number resource rows) number ((s.shown h).insert resource rows) := by
  unfold insert Point.insert
  split
  · refine ⟨sound,⟨h,held,rfl⟩,fun _ _ => rfl,fun _ _ _ _ => rfl,rfl,?_⟩
    have within := (List.getElem?_eq_some_iff.mp held).1
    omega
  · rename_i filled
    rw [held,Option.bind_some]
    cases found : h.resources.lookup resource with
    | some list => exact extend_leads sound held found
    | none => exact refer_leads sound held found (by simpa using filled)

end Addition

section Merge
variable {s after : Store} {number : Nat} {p : Point} {a b : Holder} {i j : Nat}

/-- The rows of other points, put into one point list by list. -/
theorem Leads.foldl_insert (leads : Leads s after number p) {resources : List (Resource × Nat)}
    (others : ∀ e ∈ resources, ∃ n, n ≠ number ∧ s.Refers n e) :
    Leads s
      (resources.foldl (fun after e => after.insert number e.1 (after.rowsAt e.2)) after) number
      (p.insertAll (resources.map fun e => (e.1,s.rowsAt e.2))) := by
  -- The lists that are read belong to other points, so none of them changes on the way.
  induction resources generalizing after p with
  | nil => exact leads
  | cons e resources ih =>
    obtain ⟨n,other,refers⟩ := others e List.mem_cons_self
    obtain ⟨h,held,rfl⟩ := leads.point
    have here := insert_leads leads.sound held e.1 (after.rowsAt e.2)
    rw [leads.rows n e other refers] at here
    have rest := ih (leads.trans here) fun f member => others f (List.mem_cons_of_mem e member)
    rw [List.foldl_cons,leads.rows n e other refers]
    exact rest

theorem shown_timestamp (s : Store) (h : Holder) : (s.shown h).timestamp = h.timestamp := rfl

theorem shown_isEmpty (s : Store) (h : Holder) : (s.shown h).isEmpty = h.resources.isEmpty := by
  simp [shown,Point.isEmpty]

theorem copy_leads (sound : s.IsSound) (held : s.holders[i]? = some a) :
    Leads s (s.addPoint (s.shown a)) s.holders.length (s.shown a) := by
  apply addPoint_leads sound
  · intro entry member
    obtain ⟨e,listed,rfl⟩ := List.mem_map.mp member
    exact sound.filled i e ⟨a,held,listed⟩
  · have distinct := sound.distinct i a held
    simpa [shown,Function.comp_def] using distinct

/-- A merge comes to what the two points do, in a further point. If they cannot be merged the store is as it
was. -/
theorem merge_spec (sound : s.IsSound) (left : s.holders[i]? = some a)
    (right : s.holders[j]? = some b) :
    match (s.shown a).merge (s.shown b) with
    | .ok merged => (s.merge a b).1 = .ok () ∧ Leads s (s.merge a b).2 s.holders.length merged
    | .error c => s.merge a b = (.error c,s) := by
  unfold Point.merge Store.merge
  rw [shown_isEmpty,shown_isEmpty,shown_timestamp,shown_timestamp]
  by_cases voidB : b.resources.isEmpty = true
  · rw [if_pos voidB,if_pos voidB]
    exact ⟨rfl,copy_leads sound left⟩
  rw [if_neg voidB,if_neg voidB]
  by_cases voidA : a.resources.isEmpty = true
  · rw [if_pos voidA,if_pos voidA]
    exact ⟨rfl,copy_leads sound right⟩
  rw [if_neg voidA,if_neg voidA]
  by_cases apart : a.timestamp ≠ b.timestamp
  · rw [if_pos apart,if_pos apart]
  · rw [if_neg apart,if_neg apart]
    refine ⟨rfl,?_⟩
    have blank : Leads s (s.addPoint (.blank a.timestamp)) s.holders.length (.blank a.timestamp) := by
      apply addPoint_leads sound <;> simp [Point.blank]
    have others : ∀ e ∈ a.resources ++ b.resources, ∃ n, n ≠ s.holders.length ∧ s.Refers n e := by
      intro e member
      have below (n : Nat) (h : Holder) (held : s.holders[n]? = some h) : n ≠ s.holders.length :=
        Nat.ne_of_lt (List.getElem?_eq_some_iff.mp held).1
      rcases List.mem_append.mp member with first | second
      · exact ⟨i,below i a left,a,left,first⟩
      · exact ⟨j,below j b right,b,right,second⟩
    have joined := blank.foldl_insert others
    rw [List.map_append,Point.insertAll_append] at joined
    exact joined

end Merge

end ScopedAnalytics.Store
