import ScopedAnalytics.Point
import ScopedAnalytics.Proofs.Row.Counts

/-! What rows are printed as. A row has a text if its count has one. So has every row that is decoded from
a value that can be written, as one that was read, and every point of such rows. -/
namespace ScopedAnalytics

section Rows
variable {resource : Resource} {value : Json} {row : Row}

theorem Row.toJson_isWritable_iff : row.toJson.isWritable = true ↔
    ∀ n, row.count = some n → Numeral.isWritable n = true := by
  have field_isWritable {α : Type} (name : String) {encode : α → Json} (given : Option α)
      (own : ∀ a, (encode a).isWritable = true) :
      (field name encode given).all (·.2.isWritable) = true := by
    cases given <;> simp [field,own]
  rw [toJson,Json.isWritable_ofMembers,members]
  simp only [List.all_append,field_isWritable _ _ fun _ => Json.isWritable_float,
    field_isWritable _ _ fun _ => Json.isWritable_str,Bool.and_true]
  cases row.count <;> simp [field]

private theorem Row.Denotes.isWritable {n : Int} (denotes : Denotes value n)
    (writable : value.isWritable = true) : Numeral.isWritable n = true := by
  cases denotes with
  | number => exact Json.isWritable_int.symm.trans writable
  | text _ written => exact Numeral.isWritable_of_read (Numeral.readInteger?_iff.mpr written)

theorem Row.decode_isWritable (writable : value.isWritable = true)
    (decoded : decode resource value = .ok row) : row.toJson.isWritable = true := by
  cases value with
  | object members =>
    obtain ⟨count,counted,decoded⟩ := except_bind_ok decoded
    obtain ⟨change,_,decoded⟩ := except_bind_ok decoded
    obtain ⟨organization,_,decoded⟩ := except_bind_ok decoded
    obtain ⟨project,_,decoded⟩ := except_bind_ok decoded
    obtain ⟨collection,_,decoded⟩ := except_bind_ok decoded
    obtain ⟨timestamp,_,decoded⟩ := except_bind_ok decoded
    obtain rfl := Except.ok.inj decoded
    rw [toJson_isWritable_iff]
    rintro n rfl
    exact (decodeCount_some_iff.mp counted).1.isWritable (valueOf_isWritable writable _)
  | _ => cases decoded

end Rows

theorem Point.toJson_isWritable {p : Point}
    (writable : ∀ entry ∈ p.resources, ∀ row ∈ entry.2, row.toJson.isWritable = true) :
    p.toJson.isWritable = true := by
  have resources : (p.resources.map fun entry =>
      (entry.1.name,Json.list (entry.2.map Row.toJson))).all (·.2.isWritable) = true := by
    rw [List.all_map,List.all_eq_true]
    intro entry held
    simpa using writable entry held
  rw [toJson,Json.isWritable_ofMembers,List.all_cons,resources,Bool.and_true]
  cases p.timestamp <;> simp

end ScopedAnalytics
