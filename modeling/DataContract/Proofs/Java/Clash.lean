/-
Imports that clash with the type of their file.

A file leaves out its own type when it imports, under its name and under its
name with the package.  A type of another package with the same simple name is
still imported, and then the name has two meanings in the file.  This concerns
the names of the two annotations and of the Java types of the table: for a type
with one of these names it is said here exactly when there is a clash, and for
all other types there is none.
-/
import DataContract.Proofs.Java.Imports
import DataContract.Proofs.Java.Unsupported

namespace DataContract.Java

/-! ### Simple names -/

/-- The last segment of a qualified name. -/
def simpleName (n : String) : String :=
  String.ofList (n.toList.reverse.takeWhile (· != '.')).reverse

lemma simpleName_append {package name : String} (h : '.' ∉ name.toList) :
    simpleName (package ++ "." ++ name) = name := by
  have hall : ∀ c ∈ name.toList.reverse, (c != '.') = true := by
    intro c hc
    rw [List.mem_reverse] at hc
    simp only [bne_iff_ne]
    rintro rfl
    exact h hc
  have hchars : (package ++ "." ++ name).toList.reverse =
      name.toList.reverse ++ '.' :: package.toList.reverse := by
    simp
  rw [simpleName, hchars, List.takeWhile_append_of_pos hall, List.takeWhile_cons_of_neg (by simp),
    List.append_nil, List.reverse_reverse, String.ofList_toList]

/-- A name with a package is not its simple name. -/
lemma append_point_ne (package name : String) : package ++ "." ++ name ≠ name := by
  intro h
  have hlength := congrArg String.length h
  have hpoint : ".".length = 1 := rfl
  rw [String.length_append, String.length_append] at hlength
  omega

/-! ### The Java types with a package -/

/-- A contract type with the package and the name of its Java type. -/
structure PackagedType where
  type : String
  package : String
  name : String

namespace PackagedType

/-- The Java type with its package. -/
def qualified (e : PackagedType) : String :=
  e.package ++ "." ++ e.name

/-- The entries of the standard table whose Java types have a package. -/
def all : List PackagedType := [
  ⟨"System.DateTime", "java.util", "Date"⟩,
  ⟨"System.Text.RegularExpressions.Regex", "java.util.regex", "Pattern"⟩,
  ⟨"System.Collections.Generic.IDictionary<string, string>", "java.util", "Map"⟩,
  ⟨"System.Collections.Generic.IDictionary<string, string[]>", "java.util", "Map"⟩,
  ⟨"System.Uri", "java.net", "URI"⟩,
  ⟨"System.Collections.Generic.IEnumerable<string>", "java.util", "Collection"⟩]

lemma simpleName_qualified {e : PackagedType} (h : e ∈ all) : simpleName e.qualified = e.name := by
  have hpoint : ∀ e ∈ all, '.' ∉ e.name.toList := by decide
  exact simpleName_append (hpoint e h)

end PackagedType

namespace TypeTable

/-- The Java type of an entry without its arguments, if it has a package. -/
def packagedTarget? (e : String × String) : Option (String × List Char) :=
  if '.' ∈ e.2.toList.takeWhile (· != '<') then some (e.1, e.2.toList.takeWhile (· != '<'))
  else none

lemma filterMap_packagedTarget? :
    standardTargets.filterMap packagedTarget? =
      PackagedType.all.map (fun e => (e.type, e.qualified.toList)) := by
  decide +kernel

/-- In the standard table no type has two entries. -/
lemma target?_standard_eq_some_iff {ns : String} {base target : List Char} :
    (standard ns).target? base = some target ↔
      ∃ e ∈ standardTargets, e.1.toList = base ∧ e.2.toList = target := by
  have hkeys : (standardTargets.map (fun e => e.1.toList)).Nodup := by decide +kernel
  rw [target?, Option.map_eq_some_iff]
  refine exists_congr (fun e => ?_)
  rw [show (standard ns).targets = standardTargets from rfl,
    find?_key_eq_some_iff hkeys, and_assoc]

/-- What a type requires by the standard table. -/
lemma requires_standard_iff {ns type name : String} :
    (standard ns).Requires type name ↔
      ∃ e ∈ PackagedType.all, Unmarked type.toList e.type.toList ∧
        ¬ (standard ns).Owns e.type.toList ∧ name = e.qualified := by
  have hmem : ∀ base : List Char, (∃ target, (standard ns).target? base = some target ∧
      '.' ∈ target.takeWhile (· != '<') ∧ name.toList = target.takeWhile (· != '<')) ↔
      ∃ e ∈ PackagedType.all, e.type.toList = base ∧ name = e.qualified := by
    intro base
    calc _ ↔ ∃ p ∈ standardTargets.filterMap packagedTarget?,
          p.1.toList = base ∧ name.toList = p.2 := by
          simp only [target?_standard_eq_some_iff, List.mem_filterMap, packagedTarget?,
            Option.ite_none_right_eq_some, Option.some.injEq]
          constructor
          · rintro ⟨_, ⟨e, he, rfl, rfl⟩, hpoint, hname⟩
            exact ⟨_, ⟨e, he, hpoint, rfl⟩, rfl, hname⟩
          · rintro ⟨_, ⟨e, he, hpoint, rfl⟩, rfl, hname⟩
            exact ⟨_, ⟨e, he, rfl, rfl⟩, hpoint, hname⟩
      _ ↔ _ := by
          rw [filterMap_packagedTarget?]
          simp [String.toList_inj]
  rw [Requires]
  constructor
  · rintro ⟨base, target, hbase, howns, htarget⟩
    obtain ⟨e, he, rfl, hname⟩ := (hmem base).mp ⟨target, htarget⟩
    exact ⟨e, he, hbase, howns, hname⟩
  · rintro ⟨e, he, hbase, howns, hname⟩
    obtain ⟨target, htarget⟩ := (hmem e.type.toList).mpr ⟨e, he, rfl, hname⟩
    exact ⟨_, target, hbase, howns, htarget⟩

end TypeTable

namespace Writer

variable {w : Writer} {excluded : String → Bool} {t : ContractType}

/-- The package of the annotations. -/
def annotationPackage : String := "com.google.gson.annotations"

/-- The name of a type is that of an annotation or of a Java type of another package which its file
uses. -/
def Clashes (w : Writer) (excluded : String → Bool) (t : ContractType) : Prop :=
  (t.name = "Expose" ∧ w.package ≠ annotationPackage ∧
      ∃ u, Rendered excluded t u ∧ (u.decl.isEnum = true ∨ u.decl.isStaticClass = false)) ∨
    (t.name = "SerializedName" ∧ w.package ≠ annotationPackage ∧
      ∃ u, Rendered excluded t u ∧ u.decl.isEnum = true) ∨
    ∃ e ∈ PackagedType.all, t.name = e.name ∧ w.package ≠ e.package ∧
      ¬ w.table.Owns e.type.toList ∧
      ∃ u, Rendered excluded t u ∧ u.decl.isEnum = false ∧
        ∃ r ∈ classReferences u.decl, TypeTable.Unmarked r.type.base.toList e.type.toList

/-- A name of a package is imported in a file for a type of that simple name exactly if the package
is another one. -/
lemma ne_own_iff {package name : String} (hname : t.name = name) :
    package ++ "." ++ name ≠ t.name ∧ package ++ "." ++ name ≠ w.package ++ "." ++ t.name ↔
      w.package ≠ package := by
  have hpackage : package ++ "." ++ name ≠ w.package ++ "." ++ name ↔ w.package ≠ package := by
    rw [ne_eq, String.append_left_inj, String.append_left_inj, eq_comm]
  rw [hname, hpackage]
  exact and_iff_right (append_point_ne package name)

/-- A file imports a name that clashes with its type exactly if its type has the name of something
from another package that it uses. -/
lemma exists_imports_clash_iff {ns : String} (hw : w.table = TypeTable.standard ns) :
    (∃ n, w.Imports excluded t n ∧ simpleName n = t.name) ↔ w.Clashes excluded t := by
  have hexpose : simpleName exposeType = "Expose" := by decide
  have hserialized : simpleName serializedNameType = "SerializedName" := by decide
  simp only [Imports, Clashes, hw, TypeTable.requires_standard_iff]
  constructor
  · rintro ⟨n, ⟨hown, hqualified, hn⟩, hsimple⟩
    obtain ⟨rfl, hu⟩ | ⟨rfl, hu⟩ | ⟨u, hu, hclass, r, hr, e, he, hbase, howns, rfl⟩ := hn
    · have hname := hsimple.symm.trans hexpose
      exact .inl ⟨hname, (ne_own_iff hname).mp ⟨hown, hqualified⟩, hu⟩
    · have hname := hsimple.symm.trans hserialized
      exact .inr (.inl ⟨hname, (ne_own_iff hname).mp ⟨hown, hqualified⟩, hu⟩)
    · have hname := hsimple.symm.trans (PackagedType.simpleName_qualified he)
      have hpackage := (ne_own_iff hname).mp ⟨hown, hqualified⟩
      exact .inr (.inr ⟨e, he, hname, hpackage, howns, u, hu, hclass, r, hr, hbase⟩)
  · rintro (⟨hname, hpackage, hu⟩ | ⟨hname, hpackage, hu⟩ |
      ⟨e, he, hname, hpackage, howns, u, hu, hclass, r, hr, hbase⟩)
    · obtain ⟨hown, hqualified⟩ := (ne_own_iff hname).mpr hpackage
      exact ⟨exposeType, ⟨hown, hqualified, .inl ⟨rfl, hu⟩⟩, hexpose.trans hname.symm⟩
    · obtain ⟨hown, hqualified⟩ := (ne_own_iff hname).mpr hpackage
      exact ⟨serializedNameType, ⟨hown, hqualified, .inr (.inl ⟨rfl, hu⟩)⟩,
        hserialized.trans hname.symm⟩
    · obtain ⟨hown, hqualified⟩ := (ne_own_iff hname).mpr hpackage
      exact ⟨e.qualified, ⟨hown, hqualified,
        .inr (.inr ⟨u, hu, hclass, r, hr, e, he, hbase, howns, rfl⟩)⟩,
        (PackagedType.simpleName_qualified he).trans hname.symm⟩

end Writer

end DataContract.Java

namespace DataContract.Generator

open DataContract.Java

/-- A generator of Java files is a standard writer for a model and a configuration. -/
lemma eq_of_create {m : Model} {config : Config} {g : Generator}
    (h : create m config "java" = .ok g) : ∃ ns, g = ⟨m, config, Writer.standard ns config⟩ := by
  rw [create, if_pos (by decide)] at h
  obtain ⟨ns, -, hg⟩ := bind_eq_ok h
  cases hg
  exact ⟨ns, rfl⟩

/-- A document is read, and for one of its types a file is written and a check holds. -/
def writesWith (v : Value) (check : Model → Generator → ContractType → Bool) : Bool :=
  (Model.ofValue v).toOption.any (fun m => (create m .default "java").toOption.any (fun g =>
    m.types.any (fun t => (g.emit t).outcome.toOption.any (fun _ => check m g t))))

lemma exists_of_writesWith {v : Value} {check : Model → Generator → ContractType → Bool}
    (h : writesWith v check = true) :
    ∃ m g t file, Model.ofValue v = .ok m ∧ create m .default "java" = .ok g ∧ t ∈ m.types ∧
      (g.emit t).outcome = .ok file ∧ check m g t = true := by
  obtain ⟨m, hm, h⟩ := (Option.any_eq_true _ _).mp h
  obtain ⟨g, hg, h⟩ := (Option.any_eq_true _ _).mp h
  obtain ⟨t, ht, h⟩ := List.any_eq_true.mp h
  obtain ⟨file, hfile, h⟩ := (Option.any_eq_true _ _).mp h
  exact ⟨m, g, t, file, eq_ok_of_toOption hm, eq_ok_of_toOption hg, ht, eq_ok_of_toOption hfile, h⟩

/-- The names that the file of a type imports. -/
def importsOf (g : Generator) (t : ContractType) : List String :=
  g.writer.importedNames t.name (g.writer.toDialect.type g.config.excludes false t).imports

/-- **A file imports the simple name of its own type exactly if the type has the name of something
from another package that the file uses.**  These are the two annotations and the Java types of the
table that have a package; the file says so itself, in a line of its imports. -/
theorem import_clash_iff_clashes {m : Model} {config : Config} {g : Generator}
    (hg : create m config "java" = .ok g) {t : ContractType} {file : GeneratedFile}
    (hfile : (g.emit t).outcome = .ok file) :
    (∃ type, file.text =
      String.join ((g.writer.header config (Writer.sourceOf t.decl)
          (Writer.outputPath config t.name)).map (· ++ "\n"))
        ++ Writer.importSection (g.importsOf t) ++ TypeDeclaration.text g.writer.docs "" type) ∧
      ((∃ n ∈ g.importsOf t, simpleName n = t.name) ↔ g.writer.Clashes config.excludes t) := by
  obtain ⟨ns, rfl⟩ := eq_of_create hg
  obtain ⟨-, type, htype, rfl⟩ := Writer.emit_eq_ok_iff.mp hfile
  have htable : (Writer.standard ns config).table = TypeTable.standard ns := rfl
  refine ⟨⟨type, Writer.text_assemble _ _ _⟩, ?_⟩
  rw [← Writer.exists_imports_clash_iff htable]
  refine exists_congr (fun n => and_congr_left (fun _ => ?_))
  rw [importsOf, Writer.mem_importedNames, Writer.imports_iff htype]

/-- A class with the name of the Java type of one of its properties. -/
def clashExample : Value :=
  .map [(.str "ir_version", .str "1.0"), (.str "namespace", .str "Tunnels"),
    (.str "types", .list [.map [(.str "name", .str "Date"), (.str "source_file", .str "Date.cs"),
      (.str "members", .list [.map [(.str "member", .str "property"), (.str "name", .str "Created"),
        (.str "type", .str "System.DateTime")]])]])]

lemma clashExample_imports :
    ∃ m g t file, Model.ofValue clashExample = .ok m ∧ create m .default "java" = .ok g ∧
      t ∈ m.types ∧ (g.emit t).outcome = .ok file ∧ t.name = "Date" ∧
      "java.util.Date" ∈ g.importsOf t := by
  have hwrites : writesWith clashExample (fun _ g t =>
      t.name = "Date" && (g.importsOf t).contains "java.util.Date") = true := by
    decide +kernel
  obtain ⟨m, g, t, file, hm, hg, ht, hfile, hcheck⟩ := exists_of_writesWith hwrites
  simp only [Bool.and_eq_true, decide_eq_true_eq, List.contains_iff_mem] at hcheck
  exact ⟨m, g, t, file, hm, hg, ht, hfile, hcheck.1, hcheck.2⟩

theorem import_clash_clashExample :
    ∃ m g t file, Model.ofValue clashExample = .ok m ∧ create m .default "java" = .ok g ∧
      t ∈ m.types ∧ (g.emit t).outcome = .ok file ∧
      g.writer.Clashes Config.default.excludes t := by
  obtain ⟨m, g, t, file, hm, hg, ht, hfile, hname, himport⟩ := clashExample_imports
  have hsimple : simpleName "java.util.Date" = t.name := by
    rw [hname]
    decide
  exact ⟨m, g, t, file, hm, hg, ht, hfile,
    (import_clash_iff_clashes hg hfile).2.mp ⟨_, himport, hsimple⟩⟩

/-- Leaving out the own name of a type does not keep all imports from clashing with it. -/
theorem not_forall_imports_ne_own_name :
    ¬ ∀ (v : Value) (m : Model) (config : Config) (g : Generator) (t : ContractType)
        (file : GeneratedFile),
      Model.ofValue v = .ok m → create m config "java" = .ok g → t ∈ m.types →
        (g.emit t).outcome = .ok file → ∀ n ∈ g.importsOf t, simpleName n ≠ t.name := by
  intro h
  obtain ⟨m, g, t, file, hm, hg, ht, hfile, hname, himport⟩ := clashExample_imports
  refine h _ m _ g t file hm hg ht hfile _ himport ?_
  rw [hname]
  decide

end DataContract.Generator
