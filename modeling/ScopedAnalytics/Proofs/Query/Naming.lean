import ScopedAnalytics.Catalog
import ScopedAnalytics.Proofs.Except
import ScopedAnalytics.Proofs.Text.Cutting

/-! What is read from the name of a member. It is split at its first point, and no name of a resource
has one, so the name tells the resource and the field; a measure is read from its own text alone. -/
namespace ScopedAnalytics

namespace Vocabulary
variable {α : Type} [Vocabulary α] {text : String} {value : α}

theorem find?_eq_some_iff (known : ∀ value : α, find? (word value) = some value) :
    find? text = some value ↔ text = word value := by
  constructor
  · intro found
    have same := List.find?_some found
    exact (eq_of_beq same).symm
  · rintro rfl
    exact known value

theorem find?_eq_none_iff (known : ∀ value : α, find? (word value) = some value) :
    (find? text : Option α) = none ↔ ∀ value : α, text ≠ word value := by
  simp only [Option.eq_none_iff_forall_ne_some,ne_eq,find?_eq_some_iff known]

theorem word_injective (known : ∀ value : α, find? (word value) = some value) :
    Function.Injective (word : α → String) := by
  intro a b same
  exact Option.some.inj ((known a).symm.trans (same ▸ known b))

theorem read_ok_iff : read α text = .ok value ↔ find? text = some value := by
  unfold read
  cases (find? text : Option α) <;> simp

theorem read_error_iff {fault : UnknownWord} :
    read α text = .error fault ↔ (find? text : Option α) = none ∧ fault = ⟨title α,text⟩ := by
  unfold read
  cases (find? text : Option α) <;> simp [eq_comm]

end Vocabulary

theorem Operation.find?_word (operation : Operation) :
    Vocabulary.find? (Vocabulary.word operation) = some operation := by
  cases operation <;> decide

namespace Measure
variable {name head tail : String}

/-- The parts of a text before its first point and after it. Without a point there is only the first. -/
def Parts (name head tail : String) : Prop :=
  '.' ∉ head.toList ∧ (name = head ++ "." ++ tail ∨ name = head ∧ tail = "")

theorem Parts.splitPoint_eq (parts : Parts name head tail) :
    splitPoint name.toList = (head.toList,tail.toList) := by
  obtain ⟨absent,written⟩ := parts
  rw [splitPoint]
  rcases written with rfl | ⟨rfl,rfl⟩
  · have cut : (head ++ "." ++ tail).toList = head.toList ++ '.' :: tail.toList := by simp
    rw [cut,Text.span_mark absent]
    rfl
  · rw [Text.span_absent absent]
    rfl

theorem exists_parts (name : String) : ∃ head tail, Parts name head tail := by
  rcases Text.mark_cases '.' name.toList with absent | ⟨before,after,same,absent⟩
  · exact ⟨name,"",absent,.inr ⟨rfl,rfl⟩⟩
  · refine ⟨String.ofList before,String.ofList after,by simpa using absent,.inl ?_⟩
    exact String.toList_injective (by simp [same])

theorem Parts.unique {other rest : String} (parts : Parts name head tail)
    (parts' : Parts name other rest) : head = other ∧ tail = rest := by
  have same := parts.splitPoint_eq.symm.trans parts'.splitPoint_eq
  exact ⟨String.toList_injective (Prod.mk.inj same).1,String.toList_injective (Prod.mk.inj same).2⟩

end Measure

namespace Resource
variable {r other : Resource} {field field' : String}

theorem point_not_mem_name (r : Resource) : '.' ∉ r.name.toList := by
  cases r <;> decide

theorem parts_member (r : Resource) (field : String) : Measure.Parts (r.member field) r.name field :=
  ⟨r.point_not_mem_name,.inl rfl⟩

theorem name_injective : Function.Injective name := by
  intro a b same
  exact Option.some.inj ((named?_name a).symm.trans (same ▸ named?_name b))

theorem member_inj : r.member field = other.member field' ↔ r = other ∧ field = field' := by
  constructor
  · intro same
    obtain ⟨named,written⟩ := (r.parts_member field).unique (same ▸ other.parts_member field')
    exact ⟨name_injective named,written⟩
  · rintro ⟨rfl,rfl⟩
    rfl

end Resource

namespace Measure
variable {name head tail : String} {m : Measure} {fault : UnknownWord}

theorem text_injective : Function.Injective text := by
  intro a b same
  obtain ⟨resources,operations⟩ := Resource.member_inj.mp same
  have operation := Vocabulary.word_injective Operation.find?_word operations
  cases a
  cases b
  simp_all

theorem read_of_parts (parts : Parts name head tail) : read name =
    (Vocabulary.read Resource head >>= fun resource =>
      Vocabulary.read Operation tail >>= fun operation => .ok ⟨resource,operation⟩) := by
  rw [read,parts.splitPoint_eq]
  simp only [String.ofList_toList]
  rfl

theorem read_ok_iff : read name = .ok m ↔ name = m.text := by
  constructor
  · intro ok
    obtain ⟨head,tail,parts⟩ := exists_parts name
    rw [read_of_parts parts] at ok
    obtain ⟨resource,named,ok⟩ := except_bind_ok ok
    obtain ⟨operation,chosen,ok⟩ := except_bind_ok ok
    obtain rfl := Except.ok.inj ok
    obtain rfl := Resource.named?_eq_some_iff.mp (Vocabulary.read_ok_iff.mp named)
    obtain rfl := (Vocabulary.find?_eq_some_iff Operation.find?_word).mp (Vocabulary.read_ok_iff.mp chosen)
    -- No operation has an empty word, so there is a point.
    rcases parts.2 with written | ⟨_,empty⟩
    · exact written
    · cases operation <;> simp [Vocabulary.word] at empty
  · rintro rfl
    have parts : Parts m.text m.resource.name (Vocabulary.word m.operation) := m.resource.parts_member _
    rw [read_of_parts parts,except_bind_ok_iff]
    refine ⟨m.resource,Vocabulary.read_ok_iff.mpr (Resource.named?_name _),?_⟩
    rw [except_bind_ok_iff]
    exact ⟨m.operation,Vocabulary.read_ok_iff.mpr (Operation.find?_word _),rfl⟩

/-- Why two parts are no measure: the first is no resource, or it is one and the second is no operation. -/
def RefusesParts (head tail : String) (fault : UnknownWord) : Prop :=
  (∀ r : Resource, head ≠ r.name) ∧ fault = ⟨"Resource",head⟩ ∨
    (∃ r : Resource, head = r.name) ∧ (∀ operation : Operation, tail ≠ Vocabulary.word operation) ∧
      fault = ⟨"Operation",tail⟩

def Refuses (name : String) (fault : UnknownWord) : Prop :=
  ∃ head tail, Parts name head tail ∧ RefusesParts head tail fault

theorem read_error_of_parts (parts : Parts name head tail) :
    read name = .error fault ↔ RefusesParts head tail fault := by
  have known : ∀ r : Resource, Vocabulary.find? (Vocabulary.word r) = some r := Resource.named?_name
  rw [read_of_parts parts,except_bind_error,Vocabulary.read_error_iff,Vocabulary.find?_eq_none_iff known]
  refine or_congr Iff.rfl ?_
  simp only [except_bind_error,Vocabulary.read_ok_iff,Vocabulary.find?_eq_some_iff known,
    Vocabulary.read_error_iff,Vocabulary.find?_eq_none_iff Operation.find?_word,reduceCtorEq,and_false,
    exists_false,or_false]
  exact ⟨fun ⟨r,named,rest⟩ => ⟨⟨r,named⟩,rest⟩,fun ⟨⟨r,named⟩,rest⟩ => ⟨r,named,rest⟩⟩

theorem read_error_iff : read name = .error fault ↔ Refuses name fault := by
  obtain ⟨head,tail,parts⟩ := exists_parts name
  rw [read_error_of_parts parts]
  constructor
  · exact fun reason => ⟨head,tail,parts,reason⟩
  · rintro ⟨other,rest,parts',reason⟩
    obtain ⟨rfl,rfl⟩ := parts.unique parts'
    exact reason

end Measure
end ScopedAnalytics
