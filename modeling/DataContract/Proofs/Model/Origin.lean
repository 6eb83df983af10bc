/-
Where the types of a model come from.

Each type of a model that was read comes from a type object of its document and
has the source file of that object.  So the types at the top of a model have
source files, and these are relative.
-/
import DataContract.Proofs.Failure
import DataContract.Proofs.Model.Structure

namespace DataContract

/-! ### Types and type objects -/

/-- A type declares what its type object holds; its types are those of the nested ones. -/
lemma readType_eq_ok {inherited : String} {t : TypeObject} {type : ContractType}
    (h : readType inherited t = .ok type) :
    readDeclaration (t.source?.getD inherited) t.entries = .ok type.decl ∧
      readTypes (t.source?.getD inherited) t.nested = .ok type.nested := by
  obtain ⟨es, ns⟩ := t
  rw [readType] at h
  obtain ⟨decl, hdecl, h⟩ := bind_eq_ok h
  obtain ⟨nested, hnested, h⟩ := bind_eq_ok h
  cases h
  exact ⟨hdecl, hnested⟩

lemma readDeclaration_sourceFile {source : String} {es : Entries} {d : Declaration}
    (h : readDeclaration source es = .ok d) : d.sourceFile = source := by
  rw [readDeclaration] at h
  obtain ⟨name, -, h⟩ := bind_eq_ok h
  obtain ⟨kind, -, h⟩ := bind_eq_ok h
  obtain ⟨base, -, h⟩ := bind_eq_ok h
  obtain ⟨items, -, h⟩ := bind_eq_ok h
  obtain ⟨members, -, h⟩ := bind_eq_ok h
  obtain ⟨documentation, -, h⟩ := bind_eq_ok h
  cases h
  rfl

/-- Each type that is read comes from one of the type objects. -/
lemma exists_object_of_mem {inherited : String} {ts : List TypeObject}
    {types : List ContractType} (h : readTypes inherited ts = .ok types) :
    ∀ type ∈ types, ∃ t ∈ ts, readType inherited t = .ok type := by
  induction ts generalizing types with
  | nil =>
    rw [readTypes] at h
    cases h
    simp
  | cons t rest ih =>
    rw [readTypes] at h
    obtain ⟨first, hfirst, h⟩ := bind_eq_ok h
    obtain ⟨others, hothers, h⟩ := bind_eq_ok h
    cases h
    intro type htype
    obtain rfl | htype := List.mem_cons.mp htype
    · exact ⟨t, by simp, hfirst⟩
    · obtain ⟨u, hu, hread⟩ := ih hothers type htype
      exact ⟨u, List.mem_cons_of_mem t hu, hread⟩

/-! ### Models and documents -/

namespace Model

/-- What a document that holds a model is like. -/
lemma ofValue_eq_ok {v : Value} {m : Model} (h : ofValue v = .ok m) :
    ∃ es : Entries, v = .map es ∧ Schema.documentIssues v = [] ∧
      structureIssues (typeObjects es) = [] ∧
      es.text "namespace" = .ok m.namespaceName ∧ readTypes "" (typeObjects es) = .ok m.types := by
  rw [ofValue.eq_def] at h
  split at h
  · rename_i hissues
    obtain ⟨es, hes, h⟩ := bind_eq_ok h
    obtain ⟨version, -, h⟩ := bind_eq_ok h
    split at h
    · cases h
    · have hread := mapError_eq_ok h
      rw [readParts] at hread
      obtain ⟨name, hname, hread⟩ := bind_eq_ok hread
      obtain ⟨types, htypes, hread⟩ := bind_eq_ok hread
      cases hread
      -- only a mapping has entries to read
      cases v with
      | map entries =>
        cases mapError_eq_ok hes
        rw [documentIssues.eq_def] at hissues
        split at hissues
        · rename_i hschema
          exact ⟨_, rfl, hschema, hissues, hname, htypes⟩
        · rename_i hschema
          exact absurd hissues hschema
      | _ => cases mapError_eq_ok hes
  · split at h
    · cases h
    · cases h

/-- The types at the top of a model have relative source files. -/
lemma sourceFile_of_ofValue {v : Value} {m : Model} (h : ofValue v = .ok m) :
    ∀ t ∈ m.types, t.decl.sourceFile ≠ "" ∧ isRooted t.decl.sourceFile = false := by
  obtain ⟨es, -, -, hstructure, -, hread⟩ := ofValue_eq_ok h
  obtain ⟨hsource, -, -, hrooted⟩ := topIssues_eq_nil_iff.mp hstructure
  intro type htype
  obtain ⟨t, ht, hread⟩ := exists_object_of_mem hread type htype
  obtain ⟨s, hs, hne⟩ := hsource t ht
  obtain ⟨i, hi, rfl⟩ := List.getElem_of_mem ht
  have hissues := hrooted ((typeObjects es)[i], i) (by simp [List.mk_mem_zipIdx_iff_getElem?, hi])
  have hdecl := readDeclaration_sourceFile (readType_eq_ok hread).1
  rw [hs, Option.getD_some] at hdecl
  rw [hdecl]
  exact ⟨hne, (sourceIssues_eq_nil_iff.mp hissues).1 s hs⟩

end Model

end DataContract
