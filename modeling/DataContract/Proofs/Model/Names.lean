/-
The names of the types of a model.

The types at the top of a model that was read have the names that its document
gives, so no two of them have one name.  At every depth a name is one that the
schema admits: a letter or an underscore and word characters after it.
-/
import DataContract.Proofs.Model.Nesting
import DataContract.Proofs.Model.Origin

namespace DataContract

open Value

lemma Entries.get?_of_text {es : Entries} {name s : String} (h : es.text name = .ok s) :
    es.get? name = some (.str s) := by
  rw [Entries.text] at h
  split at h
  · rename_i hget
    cases h
    exact hget
  · cases h
  · cases h

/-- A type has the name that stands in its type object. -/
lemma readDeclaration_name {source : String} {es : Entries} {d : Declaration}
    (h : readDeclaration source es = .ok d) : es.get? "name" = some (.str d.name) := by
  rw [readDeclaration] at h
  obtain ⟨name, hname, h⟩ := bind_eq_ok h
  obtain ⟨kind, -, h⟩ := bind_eq_ok h
  obtain ⟨base, -, h⟩ := bind_eq_ok h
  obtain ⟨items, -, h⟩ := bind_eq_ok h
  obtain ⟨members, -, h⟩ := bind_eq_ok h
  obtain ⟨documentation, -, h⟩ := bind_eq_ok h
  cases h
  exact Entries.get?_of_text hname

lemma readType_name {inherited : String} {t : TypeObject} {type : ContractType}
    (h : readType inherited t = .ok type) : type.name = t.name := by
  have hname := readDeclaration_name (readType_eq_ok h).1
  rw [TypeObject.name, hname]
  rfl

/-- The types that are read have the names of the type objects, in order. -/
lemma readTypes_names {inherited : String} {ts : List TypeObject} {types : List ContractType}
    (h : readTypes inherited ts = .ok types) :
    types.map ContractType.name = ts.map TypeObject.name := by
  induction ts generalizing types with
  | nil =>
    rw [readTypes] at h
    cases h
    rfl
  | cons t rest ih =>
    rw [readTypes] at h
    obtain ⟨first, hfirst, h⟩ := bind_eq_ok h
    obtain ⟨others, hothers, h⟩ := bind_eq_ok h
    cases h
    rw [List.map_cons, List.map_cons, readType_name hfirst, ih hothers]

/-! ### Names that the schema admits -/

/-- In an admitted type object the name matches its pattern. -/
lemma typeName_of_admits {v : Value} (hv : Schema.contractType.Admits v) {s : String}
    (hname : v.field? "name" = some (.str s)) : Pattern.typeName.Matches s := by
  have hallows := Schema.allows_of_admits_record (by decide) (Schema.admits_contractType_iff.mp hv)
  have htext := hallows ("name", .text { pattern := some .typeName }) (by simp) _ hname
  obtain ⟨s', heq, hmatches⟩ := (Schema.admits_pattern_iff rfl rfl).mp htext
  cases heq
  exact hmatches

/-- The type objects nested in an admitted one are admitted. -/
lemma admits_of_mem_nested {v : Value} (hv : Schema.contractType.Admits v) {t : TypeObject}
    (ht : t ∈ (TypeObject.ofValue v).nested) :
    ∃ w, Schema.contractType.Admits w ∧ t = TypeObject.ofValue w := by
  have hallows := Schema.allows_of_admits_record (by decide) (Schema.admits_contractType_iff.mp hv)
  cases hfield : v.field? TypeObject.nestedKey with
  | none => simp [TypeObject.nested_ofValue, hfield] at ht
  | some x =>
    have hlist := hallows ("nested_types", .list .contractType) (by simp) x hfield
    obtain ⟨items, rfl, hitems⟩ := Schema.admits_list_iff.mp hlist
    rw [TypeObject.nested_ofValue_of_list hfield] at ht
    obtain ⟨w, hw, rfl⟩ := List.mem_map.mp ht
    exact ⟨w, hitems w hw, rfl⟩

/-- Every type within one that is read from an admitted type object has an admitted name. -/
lemma typeName_of_mem_walk {v : Value} (hv : Schema.contractType.Admits v) {inherited : String}
    {type : ContractType} (h : readType inherited (TypeObject.ofValue v) = .ok type) :
    ∀ u ∈ type.walk, Pattern.typeName.Matches u.name := by
  induction type using ContractType.nestedInduction generalizing v inherited with
  | mk d ns ih =>
    obtain ⟨hdecl, hnested⟩ := readType_eq_ok h
    intro u hu
    rw [ContractType.walk_eq_cons, List.mem_cons, ContractType.mem_walkAll] at hu
    obtain rfl | ⟨n, hn, hu⟩ := hu
    · have hname := readDeclaration_name hdecl
      rw [TypeObject.entries_ofValue_get?] at hname
      exact typeName_of_admits hv hname
    · obtain ⟨t, ht, hread⟩ := exists_object_of_mem hnested n hn
      obtain ⟨w, hw, rfl⟩ := admits_of_mem_nested hv ht
      exact ih n hn hw hread u hu

namespace Model

/-- No two types at the top of a model have one name. -/
lemma names_nodup {v : Value} {m : Model} (h : ofValue v = .ok m) :
    (m.types.map ContractType.name).Nodup := by
  obtain ⟨es, -, -, hstructure, -, hread⟩ := ofValue_eq_ok h
  obtain ⟨-, -, hnodup, -⟩ := topIssues_eq_nil_iff.mp hstructure
  rw [readTypes_names hread]
  exact hnodup

/-- The types of a model have admitted names, at every depth. -/
lemma typeName_of_ofValue {v : Value} {m : Model} (h : ofValue v = .ok m) :
    ∀ u ∈ ContractType.walkAll m.types, Pattern.typeName.Matches u.name := by
  obtain ⟨es, rfl, hschema, -, -, hread⟩ := ofValue_eq_ok h
  have hallows := Schema.allows_of_admits_record (by decide) hschema
  intro u hu
  obtain ⟨type, htype, hu⟩ := ContractType.mem_walkAll.mp hu
  obtain ⟨t, ht, hread⟩ := exists_object_of_mem hread type htype
  cases htypes : (Value.map es).field? "types" with
  | none =>
    rw [field?_map] at htypes
    simp [typeObjects, htypes] at ht
  | some x =>
    have hlist := hallows ("types", .list .contractType) (by simp) x htypes
    obtain ⟨items, rfl, hitems⟩ := Schema.admits_list_iff.mp hlist
    rw [typeObjects_of_list htypes] at ht
    obtain ⟨w, hw, rfl⟩ := List.mem_map.mp ht
    exact typeName_of_mem_walk (hitems w hw) hread u hu

end Model

end DataContract
