/-
What a file imports.

A file imports the annotations of the types that it renders and what their
references require, but not itself.  Its imports stand between its header and its
type, in increasing order and each of them once.
-/
import DataContract.Proofs.Failure
import DataContract.Proofs.Java.Rendering
import DataContract.Proofs.Java.Writing

namespace DataContract.Java

namespace Writer

/-- The names that the file of a type imports. -/
def Imports (w : Writer) (excluded : String → Bool) (t : ContractType) (n : String) : Prop :=
  n ≠ t.name ∧ n ≠ w.package ++ "." ++ t.name ∧
    ((n = exposeType ∧ ∃ u, Rendered excluded t u ∧
        (u.decl.isEnum = true ∨ u.decl.isStaticClass = false)) ∨
      (n = serializedNameType ∧ ∃ u, Rendered excluded t u ∧ u.decl.isEnum = true) ∨
      ∃ u, Rendered excluded t u ∧ u.decl.isEnum = false ∧
        ∃ r ∈ classReferences u.decl, w.table.Requires r.type.base n)

variable {w : Writer} {excluded : String → Bool} {t : ContractType}

/-- What the draft of a type imports, apart from the type itself, is what its file imports. -/
lemma imports_iff {type : TypeDeclaration}
    (h : (w.toDialect.type excluded false t).outcome = .ok type) {n : String} :
    w.Imports excluded t n ↔
      n ≠ t.name ∧ n ≠ w.qualifiedName t.name ∧
        n ∈ (w.toDialect.type excluded false t).imports := by
  have hcollected := (w.toDialect.type_collects excluded t false).mem_imports type h n
  simp only [TypeTable.importOf?_eq_some_iff, exists_renderedReferences_iff,
    mem_renderedAnnotations_iff, or_assoc] at hcollected
  rw [hcollected]
  rfl

/-- The imported names are those of the draft, apart from the type itself. -/
lemma mem_importedNames {name n : String} {collected : List String} :
    n ∈ w.importedNames name collected ↔
      n ≠ name ∧ n ≠ w.qualifiedName name ∧ n ∈ collected := by
  rw [importedNames, List.mem_filter, mem_sortNames, and_comm]
  simp [and_assoc]

/-- **The text of a file is its header, its imports and its type.**  The imports are exactly the
annotations and the required types of what the file renders, apart from the file's own type; they
are in strictly increasing order, and without them there is no line for them. -/
theorem emit_text_eq {config : Config} {file : GeneratedFile}
    (h : (w.emit config excluded t).outcome = .ok file) :
    ∃ type names,
      (w.toDialect.type excluded false t).outcome = .ok type ∧
      file.text =
        String.join ((w.header config (sourceOf t.decl) (outputPath config t.name)).map (· ++ "\n"))
          ++ importSection names ++ type.text w.docs "" ∧
      names.Pairwise (· < ·) ∧
      ∀ n, n ∈ names ↔ w.Imports excluded t n := by
  obtain ⟨-, type, htype, rfl⟩ := emit_eq_ok_iff.mp h
  refine ⟨type, w.importedNames t.name (w.toDialect.type excluded false t).imports, htype,
    text_assemble _ _ _, ?_, fun n => ?_⟩
  · exact (sortNames_pairwise _).filter _
  · rw [mem_importedNames, imports_iff htype]

/-- A class with a date, an enumeration and a class that is excluded. -/
def importingExample : ContractType :=
  .mk ⟨"Port", .plainClass, none, false, none, "src/Port.cs", [
      .property ⟨⟨"Created", .publicAccess, false, none⟩, ⟨"System.DateTime", true, false⟩, none⟩]⟩
    [.mk ⟨"Protocol", .enum, none, false, none, "", [
        .enumValue ⟨⟨"Tcp", .publicAccess, false, none⟩⟩]⟩ [],
      .mk ⟨"Hidden", .plainClass, none, false, none, "", [
        .property ⟨⟨"Link", .publicAccess, false, none⟩, ⟨"Links.Link", false, false⟩, none⟩]⟩ []]

theorem emit_text_importingExample :
    ∃ file type names,
      ((standard "Tunnels" .default).emit .default (· == "Hidden") importingExample).outcome
        = .ok file ∧
      file.text =
        String.join (((standard "Tunnels" .default).header .default "src/Port.cs"
          (outputPath .default "Port")).map (· ++ "\n"))
          ++ importSection names
          ++ TypeDeclaration.text (standard "Tunnels" .default).docs "" type ∧
      names.Pairwise (· < ·) ∧
      "java.util.Date" ∈ names ∧ serializedNameType ∈ names := by
  have hok : ((standard "Tunnels" .default).emit .default (· == "Hidden")
      importingExample).outcome.isOk = true := by
    decide +kernel
  obtain ⟨file, hfile⟩ := Succeeds.of_isOk hok
  obtain ⟨type, names, -, htext, hsorted, hnames⟩ := emit_text_eq hfile
  refine ⟨file, type, names, hfile, htext, hsorted, (hnames _).mpr ?_, (hnames _).mpr ?_⟩
  · refine ⟨by decide, by decide, .inr (.inr ⟨_, .self, by decide, _, List.mem_cons_self, ?_⟩)⟩
    exact TypeTable.importOf?_eq_some_iff.mp (by decide +kernel)
  · have hrendered : Rendered (· == "Hidden") importingExample _ :=
      .nested .self (by decide) List.mem_cons_self (by decide)
    exact ⟨by decide, by decide, .inr (.inl ⟨rfl, _, hrendered, by decide⟩)⟩

end Writer

end DataContract.Java
