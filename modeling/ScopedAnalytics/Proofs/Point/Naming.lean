import ScopedAnalytics.Proofs.Point.Storage

/-! Points under names, over any number of steps. No two names lead to one point, so a step changes what
is under its own name only, and what is merged stays as it was whatever happens to the merged point. -/
namespace ScopedAnalytics.Store

/-- A sound store whose names lead to points that are there, no two of them to one point. -/
structure IsOrderly (s : Store) : Prop extends IsSound s where
  present : ∀ name n, s.slots.lookup name = some n → n < s.holders.length
  owned : ∀ name other n, s.slots.lookup name = some n → s.slots.lookup other = some n → name = other

/-- A store in which only one name leads to another point, or to a point that holds something else. -/
structure Changes (s after : Store) (target : String) (p : Point) : Prop where
  orderly : after.IsOrderly
  points : ∀ name, after.point? name = if name = target then some p else s.point? name

def Step.target? : Step → Option String
  | .create target _ | .insert target .. | .merge target .. => some target
  | .compare .. => none

/-- What a step comes to, by the points that are under names: the point that its name then has, or why it
fails. -/
def outcome (points : String → Option Point) : Step → Except Fault (Option (String × Point))
  | .create target timestamp => .ok (some (target,.blank timestamp))
  | .insert target resource rows =>
    match points target with
    | none => .error (.unknown target)
    | some p => .ok (some (target,p.insert resource rows))
  | .merge target left right =>
    match points left, points right with
    | none, _ => .error (.unknown left)
    | some _, none => .error (.unknown right)
    | some a, some b =>
      match a.merge b with
      | .ok merged => .ok (some (target,merged))
      | .error c => .error (.conflict c)
  | .compare .. => .ok none

/-- A point without a resource that has no rows, and without a resource twice. -/
structure IsClean (p : Point) : Prop where
  filled : ∀ entry ∈ p.resources, entry.2 ≠ []
  distinct : p.listed.Nodup
  blank : p.isEmpty = true ↔ p.resources.flatMap (·.2) = []

section Names
variable {s after : Store} {name target : String} {number : Nat} {p : Point} {h : Holder}

private theorem lookup_slot (slots : List (String × Nat)) (name other : String) (number : Nat) :
    ((name,number) :: slots).lookup other = if other = name then some number else slots.lookup other := by
  by_cases same : other = name
  · simp [same]
  · simp [List.lookup_cons,beq_false_of_ne same,same]

theorem lookup_setSlot (slots : List (String × Nat)) (name other : String) (number : Nat) :
    (setSlot name number slots).lookup other =
      if other = name then some number else slots.lookup other := by
  induction slots with
  | nil => exact lookup_slot [] name other number
  | cons slot slots ih =>
    obtain ⟨held,n⟩ := slot
    rw [setSlot]
    by_cases own : held = name
    · subst own
      rw [if_pos rfl,lookup_slot,lookup_slot]
      split
      · rfl
      · rfl
    · rw [if_neg own]
      split
      · rw [lookup_slot]
      · rw [lookup_slot,lookup_slot,ih]
        by_cases here : other = held
        · subst here
          rw [if_pos rfl,if_neg own,if_pos rfl]
        · rw [if_neg here,if_neg here]

theorem holder?_eq_some (orderly : s.IsOrderly) (named : s.slots.lookup name = some number) :
    ∃ h, s.holders[number]? = some h ∧ s.holder? name = some h := by
  have held := List.getElem?_eq_getElem (orderly.present name number named)
  refine ⟨_,held,?_⟩
  rw [holder?,named,Option.bind_some,held]

theorem point?_of_lookup (named : s.slots.lookup name = some number)
    (held : s.holders[number]? = some h) : s.point? name = some (s.shown h) := by
  rw [point?,holder?,named,Option.bind_some,held]
  rfl

theorem point?_of_absent (unnamed : s.slots.lookup name = none) : s.point? name = none := by
  rw [point?,holder?,unnamed]
  rfl

theorem Leads.orderly (leads : Leads s after number p) (orderly : s.IsOrderly)
    {slots : List (String × Nat)}
    (named : ∀ name, slots.lookup name = if name = target then some number else s.slots.lookup name)
    (alone : ∀ name, name ≠ target → s.slots.lookup name ≠ some number) :
    IsOrderly { after with slots } := by
  have elsewhere {name : String} (other : name ≠ target) :
      slots.lookup name = s.slots.lookup name := by rw [named,if_neg other]
  have here : slots.lookup target = some number := by rw [named,if_pos rfl]
  constructor
  case toIsSound =>
    exact ⟨leads.sound.bounded,leads.sound.apart,leads.sound.filled,leads.sound.distinct⟩
  case present =>
    intro name n led
    rw [leads.length]
    rw [named] at led
    split at led
    · obtain rfl := Option.some.inj led
      omega
    · have := orderly.present name n led
      omega
  case owned =>
    intro name other n first second
    by_cases own : name = target
    · by_cases also : other = target
      · exact own.trans also.symm
      · obtain rfl : number = n := Option.some.inj (here.symm.trans (own ▸ first))
        exact absurd ((elsewhere also).symm.trans second) (alone other also)
    · by_cases also : other = target
      · obtain rfl : number = n := Option.some.inj (here.symm.trans (also ▸ second))
        exact absurd ((elsewhere own).symm.trans first) (alone name own)
      · exact orderly.owned name other n ((elsewhere own).symm.trans first)
          ((elsewhere also).symm.trans second)

/-- Where only one point differs, and only one name leads to it, every other name leads to what it led to. -/
theorem Leads.changes (leads : Leads s after number p) (orderly : s.IsOrderly)
    {slots : List (String × Nat)}
    (named : ∀ name, slots.lookup name = if name = target then some number else s.slots.lookup name)
    (alone : ∀ name, name ≠ target → s.slots.lookup name ≠ some number) :
    Changes s { after with slots } target p := by
  refine ⟨leads.orderly orderly named alone,fun name => ?_⟩
  have led := named name
  by_cases own : name = target
  · obtain ⟨h,held,shows⟩ := leads.point
    rw [if_pos own] at led ⊢
    exact (point?_of_lookup (s := { after with slots }) led held).trans (congrArg some shows)
  · rw [if_neg own] at led ⊢
    cases found : s.slots.lookup name with
    | none =>
      rw [point?_of_absent found]
      exact point?_of_absent (s := { after with slots }) (led.trans found)
    | some n =>
      obtain ⟨k,kept,_⟩ := holder?_eq_some orderly found
      have other : n ≠ number := fun same => alone name own (same ▸ found)
      obtain ⟨still,same⟩ := leads.shown other kept
      rw [point?_of_lookup found kept,← same]
      exact point?_of_lookup (s := { after with slots }) (led.trans found) still

end Names

section Steps
variable {s after : Store} {name target : String} {p : Point}

theorem Leads.changes_bind (leads : Leads s after s.holders.length p) (orderly : s.IsOrderly)
    (target : String) : Changes s (after.bind target s.holders.length) target p := by
  apply leads.changes orderly
  · intro name
    rw [lookup_setSlot,leads.slots]
  · intro name _ led
    exact Nat.lt_irrefl _ (orderly.present name _ led)

theorem step_create (orderly : s.IsOrderly) (timestamp : Option DateTime) :
    Changes s (s.step (.create target timestamp)).2 target (.blank timestamp) := by
  have leads : Leads s (s.addPoint (.blank timestamp)) s.holders.length (.blank timestamp) := by
    apply addPoint_leads orderly.toIsSound <;> simp [Point.blank]
  exact leads.changes_bind orderly target

theorem step_insert (orderly : s.IsOrderly) (named : s.point? target = some p) (resource : Resource)
    (rows : List Row) : (s.step (.insert target resource rows)).1 = .ok () ∧
      Changes s (s.step (.insert target resource rows)).2 target (p.insert resource rows) := by
  cases found : s.slots.lookup target with
  | none => cases (point?_of_absent found).symm.trans named
  | some number =>
    obtain ⟨h,held,_⟩ := holder?_eq_some orderly found
    obtain rfl := Option.some.inj ((point?_of_lookup found held).symm.trans named)
    have leads := insert_leads orderly.toIsSound held resource rows
    have kept : ∀ name, (s.insert number resource rows).slots.lookup name =
        if name = target then some number else s.slots.lookup name := by
      intro name
      rw [leads.slots]
      split
      · rename_i own
        rw [own,found]
      · rfl
    have alone : ∀ name, name ≠ target → s.slots.lookup name ≠ some number :=
      fun name other led => other (orderly.owned name target number led found)
    simp only [step,found]
    exact ⟨trivial,leads.changes orderly kept alone⟩

theorem point?_eq_some (orderly : s.IsOrderly) (named : s.point? name = some p) :
    ∃ (number : Nat) (h : Holder), s.holders[number]? = some h ∧ s.holder? name = some h ∧ s.shown h = p := by
  cases found : s.slots.lookup name with
  | none => cases (point?_of_absent found).symm.trans named
  | some number =>
    obtain ⟨h,held,under⟩ := holder?_eq_some orderly found
    exact ⟨number,h,held,under,Option.some.inj ((point?_of_lookup found held).symm.trans named)⟩

theorem holder?_eq_none (unnamed : s.point? name = none) : s.holder? name = none :=
  Option.map_eq_none_iff.mp unnamed

theorem lookup_eq_none (orderly : s.IsOrderly) (unnamed : s.point? name = none) :
    s.slots.lookup name = none := by
  cases found : s.slots.lookup name with
  | none => rfl
  | some number =>
    obtain ⟨h,held,_⟩ := holder?_eq_some orderly found
    cases (point?_of_lookup found held).symm.trans unnamed

theorem step_merge (orderly : s.IsOrderly) {left right : String} {a b : Point}
    (first : s.point? left = some a) (second : s.point? right = some b) (target : String) :
    match a.merge b with
    | .ok merged => (s.step (.merge target left right)).1 = .ok () ∧
        Changes s (s.step (.merge target left right)).2 target merged
    | .error c => s.step (.merge target left right) = (.error (.conflict c),s) := by
  obtain ⟨i,x,heldX,underX,rfl⟩ := point?_eq_some orderly first
  obtain ⟨j,y,heldY,underY,rfl⟩ := point?_eq_some orderly second
  have merges := merge_spec orderly.toIsSound heldX heldY
  simp only [step,underX,underY]
  cases joined : (s.shown x).merge (s.shown y) with
  | error c =>
    rw [joined] at merges
    rw [merges]
  | ok merged =>
    rw [joined] at merges
    obtain ⟨done,leads⟩ := merges
    have same : s.merge x y = (.ok (),(s.merge x y).2) := Prod.ext done rfl
    rw [same]
    exact ⟨rfl,leads.changes_bind orderly target⟩

/-- A step does what its outcome says, and nothing where it fails. -/
theorem step_spec (orderly : s.IsOrderly) (step : Step) :
    match outcome s.point? step with
    | .ok (some (target,p)) => (s.step step).1 = .ok () ∧ Changes s (s.step step).2 target p
    | .ok none => s.step step = (.ok (),s)
    | .error f => s.step step = (.error f,s) := by
  cases step with
  | create target timestamp => exact ⟨rfl,step_create orderly timestamp⟩
  | insert target resource rows =>
    rw [outcome]
    cases named : s.point? target with
    | some p => exact step_insert orderly named resource rows
    | none => simp only [Store.step,lookup_eq_none orderly named]
  | merge target left right =>
    rw [outcome]
    cases first : s.point? left with
    | none => simp only [Store.step,holder?_eq_none first]
    | some a =>
      cases second : s.point? right with
      | none =>
        obtain ⟨_,x,_,under,_⟩ := point?_eq_some orderly first
        simp only [Store.step,under,holder?_eq_none second]
      | some b =>
        have merges := step_merge orderly first second target
        cases joined : a.merge b with
        | ok merged =>
          rw [joined] at merges
          simpa only [joined] using merges
        | error c =>
          rw [joined] at merges
          simpa only [joined] using merges
  | compare left right => rfl

end Steps

section Runs
variable {s : Store} {name : String} {p : Point}

theorem empty_orderly : empty.IsOrderly := by
  have unheld (n : Nat) (e : Resource × Nat) : ¬empty.Refers n e := by
    intro refers
    obtain ⟨h,held,_⟩ := refers
    cases held
  have unnamed (name : String) (n : Nat) : empty.slots.lookup name ≠ some n := nofun
  exact ⟨⟨fun n e refers => absurd refers (unheld n e),fun n _ e _ refers => absurd refers (unheld n e),
    fun n e refers => absurd refers (unheld n e),nofun⟩,
    fun name n led => absurd led (unnamed name n),fun name _ n led => absurd led (unnamed name n)⟩

theorem outcome_target {points : String → Option Point} {step : Step} {target : String}
    (comes : outcome points step = .ok (some (target,p))) : step.target? = some target := by
  cases step with
  | create target timestamp =>
    cases comes
    rfl
  | insert target resource rows =>
    rw [outcome] at comes
    split at comes
    · cases comes
    · cases comes
      rfl
  | merge target left right =>
    rw [outcome] at comes
    split at comes
    · cases comes
    · cases comes
    · split at comes
      · cases comes
        rfl
      · cases comes
  | compare left right => cases comes

/-- A step keeps names and lists apart, and every point under another name. -/
theorem step_keeps (orderly : s.IsOrderly) (step : Step) : (s.step step).2.IsOrderly ∧
    ∀ name, step.target? ≠ some name → (s.step step).2.point? name = s.point? name := by
  have spec := step_spec orderly step
  split at spec
  · rename_i target p comes
    obtain ⟨_,changes⟩ := spec
    refine ⟨changes.orderly,fun name other => ?_⟩
    rw [changes.points,if_neg]
    rintro rfl
    exact other (outcome_target comes)
  · rw [spec]
    exact ⟨orderly,fun _ _ => rfl⟩
  · rw [spec]
    exact ⟨orderly,fun _ _ => rfl⟩

theorem run_keeps (orderly : s.IsOrderly) (steps : List Step) : (run steps s).IsOrderly ∧
    ∀ name, (∀ step ∈ steps, step.target? ≠ some name) → (run steps s).point? name = s.point? name := by
  induction steps generalizing s with
  | nil => exact ⟨orderly,fun _ _ => rfl⟩
  | cons step steps ih =>
    obtain ⟨still,kept⟩ := step_keeps orderly step
    obtain ⟨after,later⟩ := ih still
    refine ⟨after,fun name others => ?_⟩
    obtain ⟨other,others⟩ := List.forall_mem_cons.mp others
    exact (later name others).trans (kept name other)

theorem run_orderly (steps : List Step) : (run steps empty).IsOrderly := (run_keeps empty_orderly steps).1

theorem isClean (orderly : s.IsOrderly) (named : s.point? name = some p) : IsClean p := by
  obtain ⟨number,h,held,_,rfl⟩ := point?_eq_some orderly named
  have filled : ∀ entry ∈ (s.shown h).resources, entry.2 ≠ [] := by
    intro entry member
    obtain ⟨e,listed,rfl⟩ := List.mem_map.mp member
    exact orderly.filled number e ⟨h,held,listed⟩
  refine ⟨filled,?_,?_⟩
  · have distinct := orderly.distinct number h held
    simpa [Point.listed,shown,Function.comp_def] using distinct
  · rw [Point.isEmpty,List.isEmpty_iff,List.flatMap_eq_nil_iff]
    constructor
    · intro none
      simp [none]
    · intro rowless
      refine List.eq_nil_iff_forall_not_mem.mpr fun entry member => ?_
      exact filled entry member (rowless entry member)

theorem step_result (orderly : s.IsOrderly) (step : Step) :
    (s.step step).1 = (outcome s.point? step).map fun _ => () := by
  have spec := step_spec orderly step
  split at spec
  · rename_i comes
    rw [spec.1,comes]
    rfl
  · rename_i comes
    rw [spec,comes]
    rfl
  · rename_i comes
    rw [spec,comes]
    rfl

theorem step_fails (orderly : s.IsOrderly) {step : Step} {fault : Fault}
    (failed : (s.step step).1 = .error fault) : (s.step step).2 = s := by
  have spec := step_spec orderly step
  split at spec
  · cases spec.1.symm.trans failed
  · rw [spec]
  · rw [spec]

/-- What steps do to points under names, from an empty store on. Every point is clean. A step that comes to
something changes what is under its own name and nothing else, and one that fails changes nothing. The
points that a merge read stay as they were, whatever is done to the merged point later. -/
theorem run_apart {steps : List Step} (reached : run steps empty = s) :
    (∀ name p, s.point? name = some p → IsClean p) ∧
    (∀ step, (s.step step).1 = (outcome s.point? step).map fun _ => ()) ∧
    (∀ step target p, outcome s.point? step = .ok (some (target,p)) →
      (s.step step).2.point? target = some p) ∧
    (∀ step, (s.step step).1 = .ok () → ∀ name, step.target? ≠ some name →
      (s.step step).2.point? name = s.point? name) ∧
    (∀ step fault, (s.step step).1 = .error fault → (s.step step).2 = s) ∧
    ∀ target left right later, (s.step (.merge target left right)).1 = .ok () →
      (∀ step ∈ later, step.target? = some target) → ∀ name, name ≠ target →
        (run later (s.step (.merge target left right)).2).point? name = s.point? name := by
  have orderly : s.IsOrderly := reached ▸ run_orderly steps
  refine ⟨fun name p named => isClean orderly named,step_result orderly,?_,?_,?_,?_⟩
  · intro step target p comes
    have spec := step_spec orderly step
    rw [comes] at spec
    rw [spec.2.points,if_pos rfl]
  · intro step _ name other
    exact (step_keeps orderly step).2 name other
  · intro step fault failed
    exact step_fails orderly failed
  · intro target left right later _ own name other
    obtain ⟨still,kept⟩ := step_keeps orderly (.merge target left right)
    have others : ∀ step ∈ later, step.target? ≠ some name := by
      intro step member same
      exact other (Option.some.inj (same.symm.trans (own step member)))
    rw [(run_keeps still later).2 name others]
    exact kept name fun same => other (Option.some.inj same).symm

end Runs

section Dawn
open Point (dawn dawnRow mintsAtDawn)

/-- A point with rows, one of another bucket, and one in which no rows came in. -/
def dawnSteps : List Step :=
  [.create "a" (some dawn),.insert "a" .mints [dawnRow 1],.create "b" none,.insert "b" .mints [],
    .create "d" none,.insert "d" .customers [dawnRow 2]]

theorem run_apart_dawn :
    IsClean mintsAtDawn ∧
    ((run dawnSteps empty).step (.merge "c" "a" "b")).1 = .ok () ∧
    ((run dawnSteps empty).step (.merge "c" "a" "b")).2.point? "c" = some mintsAtDawn ∧
    ((run dawnSteps empty).step (.merge "c" "a" "b")).2.point? "d" =
      (run dawnSteps empty).point? "d" ∧
    (run [.insert "c" .mints [dawnRow 3]]
        ((run dawnSteps empty).step (.merge "c" "a" "b")).2).point? "a" = some mintsAtDawn ∧
    ((run dawnSteps empty).step (.merge "e" "a" "d")).1 = .error (.conflict ⟨some dawn,none⟩) ∧
    ((run dawnSteps empty).step (.merge "e" "a" "d")).2 = run dawnSteps empty := by
  obtain ⟨clean,result,made,kept,failed,apart⟩ := run_apart (rfl : run dawnSteps empty = _)
  have held : (run dawnSteps empty).point? "a" = some mintsAtDawn := rfl
  have merges : ((run dawnSteps empty).step (.merge "c" "a" "b")).1 = .ok () := rfl
  have conflict := (result (.merge "e" "a" "d")).trans rfl
  have later := apart "c" "a" "b" [.insert "c" .mints [dawnRow 3]] merges
    (by simp [Step.target?]) "a" (by decide)
  exact ⟨clean "a" _ held,merges,made (.merge "c" "a" "b") "c" _ rfl,
    kept (.merge "c" "a" "b") merges "d" (by simp [Step.target?]),later.trans held,conflict,
    failed _ _ conflict⟩

end Dawn

end ScopedAnalytics.Store
