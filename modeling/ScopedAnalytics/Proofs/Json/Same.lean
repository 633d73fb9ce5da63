import ScopedAnalytics.Json

/-! JSON values that are the same but for the order of the members of their objects. -/
namespace ScopedAnalytics.Json

/-- Two values are the same: equal, or lists of the same items in order, or objects with members of the
same names and values. -/
inductive Same : Json → Json → Prop
  | refl (value : Json) : Same value value
  | list {items others : List Json} (length : items.length = others.length)
      (each : ∀ (place : Nat) (a b : Json), items[place]? = some a → others[place]? = some b → Same a b) :
      Same (.list items) (.list others)
  | object {members others : List (Text × Json)}
      (names : ∀ name, name ∈ members.map (·.1) ↔ name ∈ others.map (·.1))
      (each : ∀ name a b, (name,a) ∈ members → (name,b) ∈ others → Same a b) :
      Same (.object members) (.object others)

namespace Same
variable {a b : Json}

theorem symm (same : Same a b) : Same b a := by
  induction same with
  | refl value => exact .refl value
  | list length _ ih => exact .list length.symm fun place b a held held' => ih place a b held' held
  | object names _ ih =>
    exact .object (fun name => (names name).symm) fun name b a member member' => ih name a b member' member

theorem str_inj {s t : String} : Same (.str s) (.str t) ↔ s = t := by
  constructor
  · intro same
    have texts : ∀ {s t : Text}, Same (.text s) (.text t) → s = t := by
      rintro _ _ ⟨⟩
      rfl
    exact Text.ofString_injective (texts same)
  · rintro rfl
    exact .refl _

theorem int_inj {m n : Int} : Same (.int m) (.int n) ↔ m = n := by
  constructor
  · rintro ⟨⟩
    rfl
  · rintro rfl
    exact .refl _

theorem items {items others : List Json} (same : Same (.list items) (.list others)) :
    items.length = others.length ∧
      ∀ (place : Nat) (a b : Json), items[place]? = some a → others[place]? = some b → Same a b := by
  cases same with
  | refl =>
    refine ⟨rfl,fun place a b held held' => ?_⟩
    obtain rfl := Option.some.inj (held.symm.trans held')
    exact .refl a
  | list length each => exact ⟨length,each⟩

/-- Lists of things that are rendered one by one are the same if no two things are rendered alike. -/
theorem list_inj {α : Type} {render : α → Json} (distinct : ∀ a b, Same (render a) (render b) → a = b)
    {things others : List α} (same : Same (.list (things.map render)) (.list (others.map render))) :
    things = others := by
  obtain ⟨length,each⟩ := same.items
  simp only [List.length_map] at length
  refine List.ext_getElem length fun place here there => distinct _ _ ?_
  exact each place _ _ (by simp [here]) (by simp [there])

theorem strs_inj {texts others : List String} (same : Same (.strs texts) (.strs others)) :
    texts = others := list_inj (fun _ _ => str_inj.mp) same

private theorem object_member {members others : List (Text × Json)} {name : Text} {value : Json}
    (same : Same (.object members) (.object others)) (held : (name,value) ∈ members) :
    ∃ other, (name,other) ∈ others ∧ Same value other := by
  cases same with
  | refl => exact ⟨value,held,.refl value⟩
  | object names each =>
    obtain ⟨⟨_,other⟩,there,rfl⟩ := List.mem_map.mp ((names name).mp (List.mem_map_of_mem held))
    exact ⟨other,there,each _ _ _ held there⟩

theorem member {members others : List (String × Json)}
    (same : Same (.ofMembers members) (.ofMembers others)) (name : String) (value : Json)
    (held : (name,value) ∈ members) : ∃ other, (name,other) ∈ others ∧ Same value other := by
  obtain ⟨other,there,alike⟩ := object_member same (List.mem_map_of_mem held)
  obtain ⟨⟨name',_⟩,present,equal⟩ := List.mem_map.mp there
  obtain ⟨named,rfl⟩ := Prod.mk.inj equal
  obtain rfl : name' = name := Text.ofString_injective named
  exact ⟨_,present,alike⟩

theorem values {members others : List (String × Json)}
    (same : Same (.ofMembers members) (.ofMembers others)) (name : String) (value value' : Json)
    (held : (name,value) ∈ members) (only : ∀ other, (name,other) ∈ others → other = value') :
    Same value value' := by
  obtain ⟨other,there,alike⟩ := same.member name value held
  exact only other there ▸ alike

end Same
end ScopedAnalytics.Json
